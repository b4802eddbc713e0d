import RecordRing.Process.Launch
import RecordRing.Proofs.GeneratorSizes
import RecordRing.Proofs.WholeRecords

set_option autoImplicit false

namespace RecordRing

def Record.isSummary : Record → Bool
  | packet .. => false
  | drop .. => true

structure Push where
  time : UInt64
  outcome : PushOutcome
  records : List Record

namespace Push

def written (pushes : List Push) : Nat :=
  pushes.countP fun push => push.outcome == .written

def dropped (pushes : List Push) : Nat :=
  pushes.countP fun push => push.outcome == .dropped

def published (pushes : List Push) : List Record :=
  pushes.flatMap Push.records

def summaries (pushes : List Push) : Nat :=
  (published pushes).countP Record.isSummary

/-- A push of a payload of this size: a packet was written, behind a summary or not, or nothing was. -/
inductive Sized (size : Nat) : Push → Prop
  | written {time : UInt64} {records : List Record}
      (one : records.length = 1 + records.countP Record.isSummary)
      (long : (Record.stream records).length =
        16 + size + 36 * records.countP Record.isSummary) : Sized size ⟨time, .written, records⟩
  | dropped {time : UInt64} : Sized size ⟨time, .dropped, []⟩

variable {size : Nat} {pushes more : List Push}

@[simp] theorem written_append : written (pushes ++ more) = written pushes + written more :=
  List.countP_append

@[simp] theorem dropped_append : dropped (pushes ++ more) = dropped pushes + dropped more :=
  List.countP_append

@[simp] theorem published_append : published (pushes ++ more) = published pushes ++ published more :=
  List.flatMap_append

@[simp] theorem summaries_append : summaries (pushes ++ more) = summaries pushes + summaries more := by
  rw [summaries, published_append, List.countP_append]
  rfl

structure Adds (size : Nat) (pushes : List Push) : Prop where
  counted : written pushes + dropped pushes = pushes.length
  published : (published pushes).length = written pushes + summaries pushes
  long : (Record.stream (Push.published pushes)).length =
    written pushes * (16 + size) + 36 * summaries pushes

theorem adds_of_sized (sized : ∀ push ∈ pushes, push.Sized size) : Adds size pushes := by
  induction pushes with
  | nil => exact ⟨rfl, rfl, by rw [published, List.flatMap_nil]; exact (Nat.zero_mul _).symm⟩
  | cons push rest ih =>
      obtain ⟨counted, records, long⟩ := ih fun other member =>
        sized other (List.mem_cons_of_mem _ member)
      have one : Adds size [push] := by
        cases sized push List.mem_cons_self with
        | written one long =>
            refine ⟨rfl, ?_, ?_⟩
            · simp only [published, summaries, List.flatMap_singleton]
              exact one
            · simp only [published, summaries, List.flatMap_singleton]
              rw [long]
              exact congrArg (· + _) (Nat.one_mul _).symm
        | dropped => exact ⟨rfl, rfl, (Nat.zero_mul _).symm⟩
      obtain ⟨countedOne, recordsOne, longOne⟩ := one
      have split : push :: rest = [push] ++ rest := rfl
      rw [split]
      refine ⟨?_, ?_, ?_⟩
      · rw [written_append, dropped_append, List.length_append]
        omega
      · rw [published_append, List.length_append, written_append, summaries_append]
        omega
      · rw [published_append, Record.stream_append, List.length_append, written_append,
          summaries_append, long, longOne, Nat.add_mul]
        omega

end Push

/-- The event is told by the program of a producer, and not by the ring or the generator. -/
def Event.isReport (event : Event) : Bool :=
  event.target == "basalt_producer"

/-- The event is told where a summary of an episode was written. -/
def Event.isEnding : Event → Bool
  | episodeEnded .. => true
  | _ => false

def Effect.isEnding : Effect → Bool
  | logged event => event.isEnding
  | _ => false

namespace Channel

def reports (channel : Channel) : List Event :=
  (Host.eventsOf channel).filter Event.isReport

def endings (channel : Channel) : Nat :=
  (Host.eventsOf channel).countP Event.isEnding

/-- The operation has nothing to do with the rate and the notifier, and the program tells nothing in
it. -/
structure Aside (before after : Channel) : Prop where
  rate : after.rate = before.rate
  bound : after.slot.bound = before.slot.bound
  reports : after.reports = before.reports

variable {channel before middle after : Channel} {now : UInt64} {payload : Bytes}

theorem Aside.refl (channel : Channel) : Aside channel channel :=
  ⟨rfl, rfl, rfl⟩

theorem Aside.trans (left : Aside before middle) (right : Aside middle after) : Aside before after :=
  ⟨right.rate.trans left.rate, right.bound.trans left.bound, right.reports.trans left.reports⟩

theorem reports_log (channel : Channel) (event : Event) :
    (channel.log event).reports =
      channel.reports ++ if event.isReport then [event] else [] := by
  unfold reports Host.eventsOf log
  rw [Array.toList_push, List.filterMap_append, List.filter_append]
  cases told : event.isReport <;> simp [told]

/-- They are among what is told of episodes. -/
theorem endings_eq (channel : Channel) :
    channel.endings = channel.chronicle.countP Effect.isEnding := by
  rw [endings, Host.eventsOf, chronicle, List.countP_filterMap, List.countP_filter]
  refine List.countP_congr fun effect _ => ?_
  cases effect with
  | logged event => cases event <;> exact Iff.rfl
  | woken => exact Iff.rfl
  | signalled notifier => exact Iff.rfl

theorem endings_of_chronicle {told : List Effect} (same : after.chronicle = before.chronicle ++ told) :
    after.endings = before.endings + told.countP Effect.isEnding := by
  rw [endings_eq, endings_eq, same, List.countP_append]

theorem endings_log (channel : Channel) {event : Event} (other : event.isEnding = false) :
    (channel.log event).endings = channel.endings := by
  unfold endings Host.eventsOf log
  rw [Array.toList_push, List.filterMap_append, List.countP_append]
  simp [other]

theorem Aside.log (aside : Aside before after) {event : Event} (quiet : event.isReport = false) :
    Aside before (after.log event) := by
  refine ⟨aside.rate, aside.bound, ?_⟩
  rw [reports_log, quiet]
  exact (List.append_nil _).trans aside.reports

theorem aside_noteDrop (channel : Channel) (now need : UInt64) :
    Aside channel (channel.noteDrop now need) := by
  unfold noteDrop
  cases channel.page.isDropping with
  | true => exact ⟨rfl, rfl, rfl⟩
  | false =>
      let started := channel.modifyPage fun page =>
        { page with episodeStart := now, episodeCount := 0 }.setDropping true
      have told : Aside channel (started.log (.ringFull need started.page.used)) :=
        @Aside.log channel started ⟨rfl, rfl, rfl⟩ (.ringFull need started.page.used) rfl
      exact ⟨told.rate, told.bound, told.reports⟩

theorem aside_writeRecord (channel : Channel) (position : UInt64) (header : RecordHeader)
    (payload : Bytes) : Aside channel (channel.writeRecord position header payload).2 :=
  ⟨rfl, rfl, rfl⟩

theorem aside_flushDropSummary (channel : Channel) (position now : UInt64) :
    Aside channel (channel.flushDropSummary position now).2 := by
  unfold flushDropSummary
  refine Aside.log ?_ ?_
  · exact ⟨rfl, rfl, rfl⟩
  · rfl

theorem aside_crossWatermarks (channel : Channel) (now : UInt64) :
    Aside channel (channel.crossWatermarks now).2 := by
  simp only [crossWatermarks]
  cases Edge.ofFill channel.latched channel.utilization channel.page.hi channel.page.lo with
  | none => exact .refl channel
  | some edge =>
      cases edge with
      | rising =>
          refine Aside.log ?_ ?_
          · exact ⟨rfl, rfl, rfl⟩
          · rfl
      | falling =>
          refine Aside.log ?_ ?_
          · exact ⟨rfl, rfl, rfl⟩
          · rfl

/-- Whoever waits in the process is woken, and nobody else. -/
theorem aside_notifyConsumer (unbound : channel.slot.bound = none) (now : UInt64) :
    Aside channel (channel.notifyConsumer now) := by
  have woken : (channel.notifyConsumer now).reports =
      ({ channel with trace := channel.trace.push .woken } : Channel).reports := by
    unfold notifyConsumer deliver
    simp only [unbound]
    rfl
  refine ⟨?_, ?_, woken.trans ?_⟩
  · unfold notifyConsumer deliver
    simp only [unbound]
  · unfold notifyConsumer deliver
    simp only [unbound]
  · simp only [reports, Host.eventsOf, Array.toList_push, List.filterMap_append, List.filterMap_cons,
      List.filterMap_nil, List.append_nil]

theorem aside_evaluateWatermarks (unbound : channel.slot.bound = none) (now : UInt64) :
    Aside channel (channel.evaluateWatermarks now) := by
  have crossed := channel.aside_crossWatermarks now
  have bound := (channel.still_crossWatermarks now).bound.trans unbound
  by_cases rises : (channel.crossWatermarks now).1 = some .rising
  · rw [evaluateWatermarks_of_rising rises]
    exact crossed.trans (aside_notifyConsumer bound now)
  · rw [evaluateWatermarks_of_not_rising rises]
    exact crossed

theorem aside_push (unbound : channel.slot.bound = none) (now : UInt64) (payload : Bytes) :
    Aside channel (channel.push now payload).2 := by
  unfold push
  split
  · exact .refl channel
  · dsimp only
    split
    · exact channel.aside_noteDrop now _
    · rename_i head free
      have ready : Aside channel (if channel.page.isDropping then channel.flushDropSummary head now
          else (head, channel)).2 := by
        cases channel.page.isDropping with
        | false => exact .refl channel
        | true => exact channel.aside_flushDropSummary head now
      generalize (if channel.page.isDropping then channel.flushDropSummary head now
        else (head, channel)) = flushed at ready ⊢
      obtain ⟨position, middle⟩ := flushed
      let packet : RecordHeader := .packet (UInt64.ofNat payload.length).toUInt32 now
      have wrote := ready.trans (middle.aside_writeRecord position packet payload)
      exact wrote.trans (aside_evaluateWatermarks (wrote.bound.trans unbound) now)

/-- What the page says of the last push: that it was dropped, or else what it said before. -/
def stalled (dropping : Bool) (pushes : List Push) : Bool :=
  match pushes.getLast? with
  | none => dropping
  | some push => push.outcome == .dropped

/-- From before to after, pushes were made, and at most the tail was moved besides. -/
structure Carries (before : Channel) (pushes : List Push) (after : Channel) : Prop where
  head : after.page.head =
    before.page.head + UInt64.ofNat (Record.stream (Push.published pushes)).length
  records : after.tallies.records =
    before.tallies.records + UInt64.ofNat (Push.published pushes).length
  drops : after.tallies.drops = before.tallies.drops + UInt64.ofNat (Push.dropped pushes)
  dropping : after.page.isDropping = stalled before.page.isDropping pushes
  endings : after.endings = before.endings + Push.summaries pushes
  /-- Every summary is owed to a push that was dropped before it. -/
  owed : Push.summaries pushes + (if after.page.isDropping then 1 else 0) ≤
    Push.dropped pushes + (if before.page.isDropping then 1 else 0)

theorem stalled_append (dropping : Bool) (pushes more : List Push) :
    stalled dropping (pushes ++ more) = stalled (stalled dropping pushes) more := by
  unfold stalled
  rw [List.getLast?_append]
  cases more.getLast? <;> rfl

theorem Carries.nothing (head : after.page.head = before.page.head)
    (tallies : after.tallies = before.tallies) (flags : after.page.flags = before.page.flags)
    (endings : after.endings = before.endings) : Carries before [] after := by
  have dropping : after.page.isDropping = before.page.isDropping := by
    rw [ControlPage.isDropping, ControlPage.isDropping, flags]
  refine ⟨?_, ?_, ?_, dropping, endings, ?_⟩
  · rw [head]
    exact (UInt64.add_zero _).symm
  · rw [tallies]
    exact (UInt64.add_zero _).symm
  · rw [tallies]
    exact (UInt64.add_zero _).symm
  · rw [dropping]
    exact Nat.le_refl _

theorem Carries.trans {pushes more : List Push} (left : Carries before pushes middle)
    (right : Carries middle more after) : Carries before (pushes ++ more) after where
  head := by
    rw [right.head, left.head, Push.published_append, Record.stream_append, List.length_append,
      UInt64.ofNat_add, UInt64.add_assoc]
  records := by
    rw [right.records, left.records, Push.published_append, List.length_append, UInt64.ofNat_add,
      UInt64.add_assoc]
  drops := by
    rw [right.drops, left.drops, Push.dropped_append, UInt64.ofNat_add, UInt64.add_assoc]
  dropping := by rw [right.dropping, left.dropping, stalled_append]
  endings := by rw [right.endings, left.endings, Push.summaries_append, Nat.add_assoc]
  owed := by
    have first := left.owed
    have second := right.owed
    rw [Push.summaries_append, Push.dropped_append]
    omega

/-- A push of a payload that is not too long, as it is told afterwards. -/
def pushed (channel : Channel) (now : UInt64) (payload : Bytes) : Push :=
  let outcome := (channel.push now payload).1
  { time := now
    outcome
    records := if outcome = .written then channel.offers now payload else [] }

/-- There is one summary in front of the packet where an episode is open, and none where none is. -/
theorem countP_offers (channel : Channel) (now : UInt64) (payload : Bytes) :
    (channel.offers now payload).countP Record.isSummary = (if channel.page.isDropping then 1 else 0) ∧
      (channel.offers now payload).length =
        1 + (channel.offers now payload).countP Record.isSummary := by
  have misses := channel.misses_page
  unfold offers Record.ofPush Record.owed
  cases dropping : channel.page.isDropping with
  | false =>
      rw [if_pos (misses.eq_zero dropping)]
      exact ⟨rfl, rfl⟩
  | true =>
      rw [if_neg (misses.ne_zero dropping)]
      exact ⟨rfl, rfl⟩

/-- The step of the accounts. -/
theorem carries_push (power : isPowerOfTwo channel.capacity = true)
    (unbound : channel.slot.bound = none) (now : UInt64)
    (short : payload.length ≤ channel.maxPayload.toNat) :
    Carries channel [channel.pushed now payload] (channel.push now payload).2 ∧
      (channel.pushed now payload).Sized payload.length := by
  have found := pushed_push power channel.misses_page now payload
  unfold pushed
  generalize channel.push now payload = done at found
  obtain ⟨outcome, after⟩ := done
  obtain ⟨summaries, one⟩ := channel.countP_offers now payload
  cases found with
  | tooLarge long => exact absurd short (Nat.not_le.mpr long)
  | dropped _ full =>
      have steady := channel.steady_noteDrop now (16 + UInt64.ofNat payload.length)
      have opened := (misses_noteDrop channel.misses_page now
        (16 + UInt64.ofNat payload.length)).dropping.mpr (Nat.succ_pos _)
      have drops : (channel.noteDrop now (16 + UInt64.ofNat payload.length)).tallies.drops =
          channel.tallies.drops + 1 := by
        unfold noteDrop
        cases channel.page.isDropping <;> rfl
      change Carries channel [⟨now, .dropped, []⟩]
          (channel.noteDrop now (16 + UInt64.ofNat payload.length)) ∧
        Push.Sized payload.length ⟨now, .dropped, []⟩
      refine ⟨⟨?_, ?_, drops, opened, ?_, ?_⟩, .dropped⟩
      · exact steady.head.trans (UInt64.add_zero _).symm
      · exact steady.records.trans (UInt64.add_zero _).symm
      · rw [endings_of_chronicle (chronicle_noteDrop channel.misses_page now _)]
        split <;> rfl
      · rw [opened]
        exact Nat.le_add_right 1 _
  | written written _ room wrote closed chronicle =>
      have still := still_evaluateWatermarks now
        (.of_unbound (wrote.bound.trans unbound) : written.Passive)
      have page : (written.evaluateWatermarks now).page = written.page :=
        congrArg Region.page still.region
      have published : Push.published [⟨now, .written, channel.offers now payload⟩] =
          channel.offers now payload := List.append_nil _
      have length := channel.length_offers now payload
      change Carries channel [⟨now, .written, channel.offers now payload⟩]
          (written.evaluateWatermarks now) ∧
        Push.Sized payload.length ⟨now, .written, channel.offers now payload⟩
      refine ⟨⟨?_, ?_, ?_, ?_, ?_, ?_⟩, .written one ?_⟩
      · rw [page, published]
        exact wrote.head
      · rw [published]
        exact still.records.trans wrote.count
      · exact still.drops.trans (wrote.drops.trans (UInt64.add_zero _).symm)
      · rw [page, closed]
        rfl
      · rw [endings_of_chronicle (still.chronicle.trans chronicle), Push.summaries, published]
        refine congrArg (channel.endings + ·) ?_
        unfold farewell offers Record.ofPush Record.owed
        split <;> rfl
      · rw [page, closed]
        change (Push.published [⟨now, .written, channel.offers now payload⟩]).countP _ + 0 ≤ 0 + _
        rw [published, Nat.add_zero, Nat.zero_add]
        exact Nat.le_of_eq summaries
      · rw [length, summaries]
        split <;> rfl

end Channel

namespace LoadGenerator

def Run.push (run : Run) : Push :=
  run.channel.pushed run.now (run.generator.payload run.now).toBytes

/-- The pushes of the next cycles, while nothing else happens. -/
def Run.pushes (run : Run) : Nat → List Push
  | 0 => []
  | left + 1 => run.push :: (run.cycle {}).pushes left

/-- The generator fits its ring, of which whole records wait; and nobody is notified. -/
structure Run.Able (capacity : UInt64) (run : Run) : Prop where
  whole : run.channel.Whole capacity
  unbound : run.channel.slot.bound = none
  suits : run.generator.Suits run.channel

theorem written_count (totals : LoadTotals) (push : Push) :
    (totals.count push.outcome).written = totals.written + UInt64.ofNat (Push.written [push]) := by
  obtain ⟨time, outcome, records⟩ := push
  cases outcome with
  | written => rfl
  | dropped => exact (UInt64.add_zero _).symm
  | tooLarge => exact (UInt64.add_zero _).symm

theorem dropped_count (totals : LoadTotals) (push : Push) :
    (totals.count push.outcome).dropped = totals.dropped + UInt64.ofNat (Push.dropped [push]) := by
  obtain ⟨time, outcome, records⟩ := push
  cases outcome with
  | written => exact (UInt64.add_zero _).symm
  | dropped => rfl
  | tooLarge => exact (UInt64.add_zero _).symm

structure Run.Went (run : Run) (pushes : List Push) (later : Run) : Prop where
  carries : run.channel.Carries pushes later.channel
  aside : run.channel.Aside later.channel
  written : later.totals.written = run.totals.written + UInt64.ofNat (Push.written pushes)
  dropped : later.totals.dropped = run.totals.dropped + UInt64.ofNat (Push.dropped pushes)
  size : later.generator.buffer.size = run.generator.buffer.size
  sized : ∀ push ∈ pushes, push.Sized run.generator.buffer.size
  slept : later.slept.toList = run.slept.toList ++
    List.replicate pushes.length (intervalNanos run.channel.rate)
  padding : later.channel.region.padding = run.channel.region.padding

variable {run middle later : Run} {pushes more : List Push} {capacity : UInt64}

theorem Run.Went.nothing (run : Run) : run.Went [] run :=
  ⟨.nothing rfl rfl rfl rfl, .refl _, (UInt64.add_zero _).symm, (UInt64.add_zero _).symm, rfl, nofun,
    (List.append_nil _).symm, rfl⟩

theorem Run.Went.trans (left : run.Went pushes middle) (right : middle.Went more later) :
    run.Went (pushes ++ more) later where
  carries := left.carries.trans right.carries
  aside := left.aside.trans right.aside
  written := by
    rw [right.written, left.written, Push.written_append, UInt64.ofNat_add, UInt64.add_assoc]
  dropped := by
    rw [right.dropped, left.dropped, Push.dropped_append, UInt64.ofNat_add, UInt64.add_assoc]
  size := right.size.trans left.size
  sized := by
    intro push member
    rcases List.mem_append.mp member with first | second
    · exact left.sized push first
    · exact left.size ▸ right.sized push second
  slept := by
    rw [right.slept, left.slept, left.aside.rate, List.append_assoc, List.length_append,
      List.replicate_append_replicate]
  padding := right.padding.trans left.padding

/-- One cycle is one push. -/
theorem Run.Able.cycle (able : run.Able capacity) :
    (run.cycle {}).Able capacity ∧ run.Went [run.push] (run.cycle {}) := by
  obtain ⟨whole, unbound, suits⟩ := able
  let payload := (run.generator.payload run.now).toBytes
  have size := run.generator.size_payload run.now
  have short : payload.length ≤ run.channel.maxPayload.toNat := by
    rw [Buffer.length_toBytes, size]
    exact suits.short
  have aside := run.channel.aside_push unbound run.now payload
  obtain ⟨carries, sized⟩ := Channel.carries_push suits.power unbound run.now short
  refine ⟨⟨Channel.whole_push whole run.now payload, aside.bound.trans unbound,
    (suits.tick run.now run.now).2⟩, ?_⟩
  constructor
  case carries => exact carries
  case aside => exact aside
  case size => exact size
  case sized =>
    intro push member
    rw [List.mem_singleton.mp member, ← size, ← Buffer.length_toBytes]
    exact sized
  case slept =>
    have rate : (run.channel.push run.now payload).2.rate = run.channel.rate := aside.rate
    change (run.slept.push (intervalNanos (run.channel.push run.now payload).2.rate)).toList = _
    rw [rate, Array.toList_push]
    rfl
  case padding =>
    exact (Channel.framed_of_pushed
      (Channel.pushed_push suits.power run.channel.misses_page run.now payload)).padding
  case written => exact written_count run.totals run.push
  case dropped => exact dropped_count run.totals run.push

theorem Run.length_pushes (run : Run) (left : Nat) : (run.pushes left).length = left := by
  induction left generalizing run with
  | zero => rfl
  | succ left ih => exact congrArg Nat.succ (ih _)

/-- So many cycles are so many pushes. -/
theorem Run.Able.cycles (able : run.Able capacity) (done left : Nat) :
    (run.cycles (fun _ => {}) done left).Able capacity ∧
      run.Went (run.pushes left) (run.cycles (fun _ => {}) done left) := by
  induction left generalizing run done with
  | zero => exact ⟨able, .nothing run⟩
  | succ left ih =>
      obtain ⟨next, first⟩ := able.cycle
      obtain ⟨last, rest⟩ := ih next (done + 1)
      exact ⟨last, first.trans rest⟩

end LoadGenerator

end RecordRing
