import RecordRing.Proofs.DrainingWays
import RecordRing.Proofs.GeneratorTraffic

set_option autoImplicit false

namespace RecordRing

namespace Channel

variable {channel before after : Channel} {now : UInt64} {payload : Bytes} {record : Record}
  {rest : List Record} {reader : Reader}

theorem Still.symm (still : Still before after) : Still after before where
  capacity := still.capacity.symm
  region := still.region.symm
  rate := still.rate.symm
  drops := still.drops.symm
  records := still.records.symm
  bytes := still.bytes.symm
  bound := still.bound.symm
  chronicle := still.chronicle.symm

/-- The records of a push are in the ring, and nobody has looked at the latch yet. -/
def published (channel : Channel) (now : UInt64) (payload : Bytes) : Channel :=
  let (position, flushed) :=
    if channel.page.isDropping then channel.flushDropSummary channel.page.head now
    else (channel.page.head, channel)
  (flushed.writeRecord position (.packet (UInt64.ofNat payload.length).toUInt32 now) payload).2

theorem push_of_room (short : payload.length ≤ channel.maxPayload.toNat)
    (room : channel.page.used.toNat + (channel.toll payload).toNat ≤ channel.capacity.toNat) :
    channel.push now payload =
      (.written, (channel.published now payload).evaluateWatermarks now) := by
  have free := (channel.reserve_eq_some_iff (channel.toll payload) channel.page.head).mpr ⟨room, rfl⟩
  rw [toll] at free
  rw [push, if_neg (Nat.not_lt.mpr short)]
  simp only [free]
  rfl

theorem room_of_written (written : (channel.push now payload).1 = .written) :
    payload.length ≤ channel.maxPayload.toNat ∧
      channel.page.used.toNat + (channel.toll payload).toNat ≤ channel.capacity.toNat := by
  unfold push at written
  split at written
  · cases written
  · rename_i within
    refine ⟨Nat.le_of_not_lt within, ?_⟩
    dsimp only at written
    split at written
    · cases written
    · rename_i position free
      exact ((channel.reserve_eq_some_iff _ position).mp free).1

/-- Where the tail stands makes no difference to what is written. -/
theorem published_withTail (channel : Channel) (now position : UInt64) (payload : Bytes) :
    (channel.withTail position).published now payload =
      (channel.published now payload).withTail position := by
  have same : (channel.withTail position).page.isDropping = channel.page.isDropping := rfl
  unfold published
  rw [same]
  cases channel.page.isDropping <;> rfl

theorem bound_published (channel : Channel) (now : UInt64) (payload : Bytes) :
    (channel.published now payload).slot.bound = channel.slot.bound := by
  unfold published
  cases channel.page.isDropping <;> rfl

theorem Still.writeRecord (still : Still before after) (position : UInt64) (header : RecordHeader)
    (payload : Bytes) :
    Still (before.writeRecord position header payload).2
      (after.writeRecord position header payload).2 := by
  refine ⟨still.capacity, ?_, still.rate, still.drops, ?_, ?_, still.bound, still.chronicle⟩
  · simp only [Channel.writeRecord, still.region, still.capacity]
  · simp only [Channel.writeRecord, still.records]
  · simp only [Channel.writeRecord, still.bytes]

theorem Still.modifyPage (still : Still before after) (change : ControlPage → ControlPage) :
    Still (before.modifyPage change) (after.modifyPage change) := by
  refine ⟨still.capacity, ?_, still.rate, still.drops, still.records, still.bytes, still.bound,
    still.chronicle⟩
  simp only [Channel.modifyPage, still.region]

theorem Still.both_log (still : Still before after) (event : Event) :
    Still (before.log event) (after.log event) := by
  refine ⟨still.capacity, still.region, still.rate, still.drops, still.records, still.bytes,
    still.bound, ?_⟩
  have left := before.chronicle_push (.logged event)
  have right := after.chronicle_push (.logged event)
  rw [still.chronicle, ← left] at right
  exact right

/-- Nor does anything else that is no part of the ring. -/
theorem Still.published (still : Still before after) (now : UInt64) (payload : Bytes) :
    Still (before.published now payload) (after.published now payload) := by
  have page : after.page = before.page := congrArg Region.page still.region
  unfold Channel.published Channel.flushDropSummary
  rw [page]
  cases before.page.isDropping with
  | false => exact still.writeRecord ..
  | true => exact (((still.writeRecord ..).modifyPage _).both_log _).writeRecord ..

/-- Two pushes of one payload into the same ring are written as one, while nobody who is notified has a
hand in it. -/
theorem still_push_of_still (still : Still before after) (passive : before.Passive)
    (short : payload.length ≤ before.maxPayload.toNat)
    (room : before.page.used.toNat + (before.toll payload).toNat ≤ before.capacity.toNat) :
    ∃ pushed, after.push now payload = (.written, pushed) ∧
      Still (before.published now payload) pushed := by
  have page : after.page = before.page := congrArg Region.page still.region
  have most : after.maxPayload = before.maxPayload := by rw [maxPayload, maxPayload, still.capacity]
  have toll : after.toll payload = before.toll payload := by rw [Channel.toll, Channel.toll, page]
  have pushed := @push_of_room after now payload (by rw [most]; exact short)
    (by rw [page, toll, still.capacity]; exact room)
  have written := still.published now payload
  have quiet : (after.published now payload).Passive :=
    passive.of_bound ((bound_published ..).trans still.bound)
  exact ⟨_, pushed, written.trans (still_evaluateWatermarks now quiet)⟩

theorem Still.withTail (still : Still before after) (position : UInt64) :
    Still (before.withTail position) (after.withTail position) :=
  still.modifyPage fun page => { page with tail := position }

/-- A read moves the tail behind the first record that waits; what the latch makes of it is outside of
the ring. -/
theorem Lined.still_read (lined : channel.Lined (record :: rest))
    (ordered : channel.page.tail ≤ channel.page.head) (passive : channel.Passive)
    (sized : reader.capacity = channel.capacity) (now : UInt64) :
    ∃ read, channel.read now reader = (.record record, reader.count record, read) ∧
      Still (channel.withTail (channel.page.tail + record.header.span)) read := by
  have found := lined.found ordered
  rw [← sized] at found
  simp only [read, Reader.take_of_record found]
  have released : ({ channel with region := channel.region.release record } : Channel) =
      channel.withTail (channel.page.tail + record.header.span) := rfl
  rw [released]
  split
  · exact ⟨_, rfl, still_evaluateWatermarks now passive⟩
  · exact ⟨_, rfl, Still.refl _⟩

/-- A push takes as many bytes as its records have. -/
theorem toNat_toll (short : payload.length ≤ channel.maxPayload.toNat) (now : UInt64) :
    (channel.toll payload).toNat = (Record.stream (channel.offers now payload)).length :=
  toNat_need channel.misses_page now short

/-- What a push writes comes to wait behind what waits already. -/
theorem Lined.of_push (lined : channel.Lined (record :: rest)) (passive : channel.Passive)
    {pushed : Channel} (push : channel.push now payload = (.written, pushed)) :
    pushed.Lined (record :: (rest ++ channel.offers now payload)) ∧
      pushed.capacity = channel.capacity ∧ pushed.page.tail = channel.page.tail ∧
      pushed.page.head = channel.page.head + channel.toll payload := by
  have found := pushed_push lined.power channel.misses_page now payload
  rw [push] at found
  cases found with
  | written written short room wrote closed chronicle =>
      have still := still_evaluateWatermarks now (passive.of_bound wrote.bound)
      have tail : (written.evaluateWatermarks now).page.tail = written.page.tail :=
        congrArg (·.page.tail) still.region
      have head : (written.evaluateWatermarks now).page.head = written.page.head :=
        congrArg (·.page.head) still.region
      have framed := Record.wellFormed_ofPush channel.page.missed channel.page.episodeStart now
        (Nat.lt_of_le_of_lt short channel.toNat_maxPayload_lt)
      refine ⟨(lined.of_wrote wrote framed room).of_region still.capacity still.region,
        still.capacity.trans wrote.capacity, tail.trans wrote.tail, head.trans ?_⟩
      rw [wrote.head]
      change _ + UInt64.ofNat (Record.stream (channel.offers now payload)).length = _
      rw [← toNat_toll short now, UInt64.ofNat_toNat]

/-- In either order, a push that is written and a read that finds a record do the same. -/
theorem Lined.push_read (lined : channel.Lined (record :: rest))
    (ordered : channel.page.tail ≤ channel.page.head) (passive : channel.Passive)
    (sized : reader.capacity = channel.capacity)
    (written : (channel.push now payload).1 = .written)
    (bound : channel.page.head.toNat + (channel.toll payload).toNat < UInt64.size) :
    ∃ pushed read left right,
      channel.push now payload = (.written, pushed) ∧
      pushed.read now reader = (.record record, reader.count record, left) ∧
      channel.read now reader = (.record record, reader.count record, read) ∧
      read.push now payload = (.written, right) ∧ Still left right := by
  obtain ⟨short, room⟩ := room_of_written written
  -- Both ways end in what was published, with the tail behind the record.
  let ending := (channel.published now payload).withTail
    (channel.page.tail + record.header.span)
  obtain ⟨pushed, push, publishes⟩ :=
    @still_push_of_still channel channel now payload (Still.refl channel) passive short room
  obtain ⟨more, capacity, tail, head⟩ := lined.of_push passive push
  have orderedNext : pushed.page.tail ≤ pushed.page.head := by
    rw [UInt64.le_iff_toNat_le] at ordered ⊢
    rw [tail, head, UInt64.toNat_add, Nat.mod_eq_of_lt bound]
    omega
  have kept : pushed.slot.bound = channel.slot.bound :=
    publishes.bound.trans (bound_published ..)
  obtain ⟨left, found, leaves⟩ := more.still_read orderedNext (passive.of_bound kept)
    (sized.trans capacity.symm) now
  have first : Still ending left := by
    rw [tail] at leaves
    exact (publishes.withTail _).trans leaves
  obtain ⟨read, reads, releases⟩ := lined.still_read ordered passive sized now
  have freed : (channel.withTail (channel.page.tail + record.header.span)).Lined rest :=
    @Lined.passed channel _ [record] rest lined rfl lined.release_eq
  have roomNext : (channel.withTail (channel.page.tail + record.header.span)).page.used.toNat +
      (channel.toll payload).toNat ≤ channel.capacity.toNat := by
    rw [lined.toNat_used, Record.stream_cons, List.length_append] at room
    rw [freed.toNat_used]
    omega
  obtain ⟨right, again, second⟩ := still_push_of_still releases passive short roomNext
  rw [published_withTail] at second
  exact ⟨pushed, read, left, right, push, found, reads, again, first.symm.trans second⟩

/-- No further than that: a push that takes the head past the last word leaves it below the tail, and
the read behind it finds cursors out of order instead of a record. -/
theorem Lined.read_push_of_wrapped (lined : channel.Lined (record :: rest))
    (ordered : channel.page.tail ≤ channel.page.head) (passive : channel.Passive)
    (written : (channel.push now payload).1 = .written)
    (wrapped : UInt64.size ≤ channel.page.head.toNat + (channel.toll payload).toNat)
    (reader : Reader) :
    ∃ pushed place, channel.push now payload = (.written, pushed) ∧
      pushed.read now reader = (.corrupted place, reader, pushed.log (.desynchronised place)) := by
  obtain ⟨-, room⟩ := room_of_written written
  have push : channel.push now payload = (.written, (channel.push now payload).2) :=
    Prod.ext written rfl
  obtain ⟨-, -, tail, head⟩ := lined.of_push passive push
  have astray : ¬ (channel.push now payload).2.page.tail ≤ (channel.push now payload).2.page.head := by
    have lap := channel.capacity.toNat_lt
    rw [ControlPage.toNat_used ordered] at room
    rw [UInt64.le_iff_toNat_le, tail, head, UInt64.toNat_add]
    have size : UInt64.size = 2 ^ 64 := rfl
    omega
  obtain ⟨place, read⟩ := read_of_astray astray now reader
  exact ⟨_, place, push, read⟩

end Channel

namespace Session

variable {origin : Origin} {plan : RingPlan} {path : String} {now time : UInt64} {view : CreationView}
  {session reached : Session} {channel : Channel} {number : Nat} {reader : Reader} {payload : Bytes}

/-- However a session came about in which a record waits: while whoever is bound leaves the ring alone
and the head does not go past the last word, it makes no difference whether a push that is written or a
read comes first. The answers are the same, and so is the ring, but for its latch. Where the head does go
past the last word, `Channel.Lined.read_push_of_wrapped` shows that the read finds no record any more. -/
theorem push_read_commute (started : start origin plan path now = (.created view, some session))
    (reaches : Reaches Tidy session reached) (there : reached.channel? = some channel)
    (passive : channel.Passive) (unread : channel.page.tail < channel.page.head)
    (found : reached.readers[number]? = some reader)
    (written : (reached.step (some time) (.push payload 1)).1 = .outcomes [.written])
    (bound : channel.page.head.toNat + (channel.toll payload).toNat < UInt64.size) :
    let pushed := reached.step (some time) (.push payload 1)
    let read := reached.step (some time) (.read number)
    ∃ record left right,
      channel.region.recordAtTail channel.capacity = .record record ∧
      (pushed.2.step (some time) (.read number)).1 = .read (.record record) ∧
      read.1 = .read (.record record) ∧
      (read.2.step (some time) (.push payload 1)).1 = .outcomes [.written] ∧
      (pushed.2.step (some time) (.read number)).2.channel? = some left ∧
      (read.2.step (some time) (.push payload 1)).2.channel? = some right ∧
      left.Still right ∧
      (pushed.2.step (some time) (.read number)).2.readers =
        (read.2.step (some time) (.push payload 1)).2.readers := by
  dsimp only
  obtain ⟨other, orderly⟩ := orderly_of_reaches started id reaches
  have same : other = channel := by
    have known := orderly.channel?_eq
    rw [there] at known
    exact (Option.some.inj known).symm
  subst same
  obtain ⟨named, store⟩ := orderly.store
  obtain ⟨waiting, lined⟩ := orderly.whole.lined
  have ordered := UInt64.le_of_lt unread
  have push := step_push store orderly.seat time payload
  have reads := step_read store found time
  rw [push] at written
  have outcome : (other.push time payload).1 = .written :=
    (List.cons.inj (Reply.outcomes.inj written)).1
  cases waiting with
  | nil =>
      have together : other.page.head = other.page.tail := lined.head_eq.trans (UInt64.add_zero _)
      rw [together] at unread
      exact absurd unread (UInt64.lt_irrefl _)
  | cons record rest =>
      have sized := (orderly.sized found).trans orderly.whole.capacity.symm
      obtain ⟨filled, freed, left, right, pushes, finds, takes, again, still⟩ :=
        lined.push_read ordered passive sized outcome bound
      rw [pushes] at push
      rw [takes] at reads
      rw [push, reads]
      have front := @step_read { reached with now := time, store := .ring filled named } filled named
        number reader rfl found time
      have back := @step_push
        { reached with
          now := time
          store := .ring freed named
          readers := reached.readers.setIfInBounds number (reader.count record) } freed named rfl
        orderly.seat time payload
      rw [finds] at front
      rw [again] at back
      rw [front, back]
      exact ⟨record, left, right, lined.found ordered, rfl, rfl, rfl, rfl, rfl, still, rfl⟩

/-- What is pushed goes right up to the record that is read, behind the summary of an open episode, and
over the end of the memory. -/
theorem push_read_commute_around_an_episode :
    let full := ((((roomyShared.step (some 1) (.push (List.replicate 40 7) 1)).2.step (some 2)
      (.push (List.replicate 40 8) 1)).2.step (some 3) (.push (List.replicate 40 9) 1)).2.step (some 4)
      (.read 0)).2
    ∃ channel record left right, full.channel? = some channel ∧
      channel.page.used + channel.toll (List.replicate 20 10) = channel.capacity ∧
      ((full.step (some 5) (.push (List.replicate 20 10) 1)).2.step (some 5) (.read 0)).1 =
        .read (.record record) ∧
      ((full.step (some 5) (.read 0)).2.step (some 5) (.push (List.replicate 20 10) 1)).1 =
        .outcomes [.written] ∧
      ((full.step (some 5) (.push (List.replicate 20 10) 1)).2.step (some 5) (.read 0)).2.channel? =
        some left ∧
      ((full.step (some 5) (.read 0)).2.step (some 5) (.push (List.replicate 20 10) 1)).2.channel? =
        some right ∧
      left.Still right := by
  intro full
  obtain ⟨view, started⟩ := start_roomyShared
  have reaches : Reaches Tidy roomyShared full :=
    .step (.step (.step (.step .start
      1 _ ⟨.push _, nofun⟩) 2 _ ⟨.push _, nofun⟩) 3 _ ⟨.push _, nofun⟩) 4 (.read 0) ⟨.quiet rfl, nofun⟩
  obtain ⟨channel, orderly⟩ := orderly_of_reaches started id reaches
  have there := orderly.channel?_eq
  have unbound : full.channel?.map (·.slot.bound) = some none := by decide +kernel
  have unread : (full.channel?.map fun channel =>
      decide (channel.page.tail < channel.page.head)) = some true := by decide +kernel
  have brim : (full.channel?.map fun channel =>
      decide (channel.page.used + channel.toll (List.replicate 20 10) = channel.capacity)) =
        some true := by decide +kernel
  have bound : (full.channel?.map fun channel =>
      decide (channel.page.head.toNat + (channel.toll (List.replicate 20 10)).toNat <
        UInt64.size)) = some true := by decide +kernel
  have outcome : (full.channel?.map fun channel =>
      (channel.push 5 (List.replicate 20 10)).1) = some .written := by decide +kernel
  have found : full.readers[0]? = some { capacity := 128, inProcess := true, packets := 1 } := by
    decide +kernel
  obtain ⟨named, store⟩ := orderly.store
  rw [there] at unbound unread brim bound outcome
  have written : (full.step (some 5) (.push (List.replicate 20 10) 1)).1 = .outcomes [.written] := by
    rw [step_push store orderly.seat]
    exact congrArg (fun outcome => Reply.outcomes [outcome]) (Option.some.inj outcome)
  obtain ⟨record, left, right, -, first, -, second, front, back, still, -⟩ :=
    push_read_commute started reaches there (.of_unbound (Option.some.inj unbound))
      (of_decide_eq_true (Option.some.inj unread))
      found written (of_decide_eq_true (Option.some.inj bound))
  exact ⟨channel, record, left, right, there, of_decide_eq_true (Option.some.inj brim), first, second,
    front, back, still⟩

/-- Where the notifier empties the ring, the order is told: a push that signals it takes away the record
that was to be read. -/
theorem push_read_differ_while_emptied :
    let full := ((small.step (some 1) (.bind (.counting .drain))).2.step (some 2)
      (.push (List.replicate 12 7) 1)).2
    Reaches Tidy small full ∧
      (full.channel?.map fun channel => decide (channel.page.tail < channel.page.head)) = some true ∧
      (full.step (some 3) (.push (List.replicate 12 8) 1)).1 = .outcomes [.written] ∧
      (full.step (some 3) (.read 0)).1 =
        .read (.record (.ofPayload 2 (List.replicate 12 7))) ∧
      ((full.step (some 3) (.push (List.replicate 12 8) 1)).2.step (some 3) (.read 0)).1 =
        .read .nothing := by
  intro full
  have reaches : Reaches Tidy small full :=
    .step (.step .start 1 _ ⟨.bind _, nofun⟩) 2 _ ⟨.push _, nofun⟩
  obtain ⟨view, started⟩ := start_small
  obtain ⟨channel, orderly⟩ := orderly_of_reaches started id reaches
  obtain ⟨named, store⟩ := orderly.store
  have found : full.readers[0]? = some { capacity := 64, inProcess := true } := by decide +kernel
  have outcome : (full.channel?.map fun channel =>
      (channel.push 3 (List.replicate 12 8)).1) = some .written := by decide +kernel
  have first : (full.channel?.map fun channel =>
      (channel.read 3 { capacity := 64, inProcess := true }).1) =
        some (.record (.ofPayload 2 (List.replicate 12 7))) := by decide +kernel
  have second : (full.channel?.map fun channel =>
      ((channel.push 3 (List.replicate 12 8)).2.read 3 { capacity := 64, inProcess := true }).1) =
        some .nothing := by decide +kernel
  have unread : (full.channel?.map fun channel =>
      decide (channel.page.tail < channel.page.head)) = some true := by decide +kernel
  rw [orderly.channel?_eq] at outcome first second
  clear_value full
  have push := step_push store orderly.seat 3 (List.replicate 12 8)
  have late := @step_read (full.step (some 3) (.push (List.replicate 12 8) 1)).2
    (channel.push 3 (List.replicate 12 8)).2 named 0 { capacity := 64, inProcess := true }
    (by rw [push]) (by rw [push]; exact found) 3
  refine ⟨reaches, unread, ?_, ?_, ?_⟩
  · rw [push]
    exact congrArg (fun outcome => Reply.outcomes [outcome]) (Option.some.inj outcome)
  · rw [step_read store found]
    exact congrArg Reply.read (Option.some.inj first)
  · exact (congrArg Prod.fst late).trans (congrArg Reply.read (Option.some.inj second))

end Session

end RecordRing
