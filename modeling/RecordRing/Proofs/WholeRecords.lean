import RecordRing.Proofs.LongestPrefix
import RecordRing.Proofs.Notifications
import RecordRing.Proofs.SecondMapping
import RecordRing.Proofs.UnreadBytes

set_option autoImplicit false

namespace RecordRing

namespace ByteRing

/-- Only the cell of the position matters. -/
theorem stored_eq_of_cell {capacity p q : Nat} (data : Buffer) (length : Nat)
    (same : p % capacity = q % capacity) :
    stored capacity data p length = stored capacity data q length := by
  apply List.map_congr_left
  intro i _
  rw [Nat.add_mod, same, ← Nat.add_mod]

end ByteRing

theorem Record.parts_stream {records : List Record} (framed : ∀ record ∈ records, record.WellFormed) :
    Parts (stream records) records [] := by
  induction records with
  | nil => exact .stop rfl
  | cons record records ih =>
      exact .next (framed record List.mem_cons_self)
        (ih fun other member => framed other (List.mem_cons_of_mem _ member))

namespace Channel

/-- The bytes between the cursors are these records, one after another. -/
structure Lined (channel : Channel) (waiting : List Record) : Prop where
  power : isPowerOfTwo channel.capacity = true
  held : channel.capacity.toNat ≤ channel.region.data.size
  named : channel.page.capacity = channel.capacity
  framed : ∀ record ∈ waiting, record.WellFormed
  room : (Record.stream waiting).length ≤ channel.capacity.toNat
  used : channel.page.used = UInt64.ofNat (Record.stream waiting).length
  bytes : ByteRing.stored channel.capacity.toNat channel.region.data channel.page.tail.toNat
    (Record.stream waiting).length = Record.stream waiting

variable {channel before after : Channel} {waiting front rest : List Record}

theorem Lined.toNat_used (lined : channel.Lined waiting) :
    channel.page.used.toNat = (Record.stream waiting).length := by
  have room := lined.room
  have most := channel.capacity.toNat_lt
  rw [lined.used, UInt64.toNat_ofNat']
  exact Nat.mod_eq_of_lt (by omega)

theorem Lined.head_eq (lined : channel.Lined waiting) :
    channel.page.head = channel.page.tail + UInt64.ofNat (Record.stream waiting).length := by
  rw [← lined.used, ControlPage.used, UInt64.add_comm, UInt64.sub_add_cancel]

/-- Where the cursors are in order, readers see the same bytes. -/
theorem Lined.backlog_eq (lined : channel.Lined waiting)
    (ordered : channel.page.tail ≤ channel.page.head) :
    channel.region.backlog channel.capacity = Record.stream waiting := by
  have used := ControlPage.toNat_used ordered
  rw [lined.toNat_used] at used
  change ByteRing.stored _ _ _ (channel.page.head.toNat - channel.page.tail.toNat) = _
  rw [← used]
  exact lined.bytes

theorem Lined.spanned (lined : channel.Lined waiting)
    (ordered : channel.page.tail ≤ channel.page.head) :
    channel.region.Spanned channel.capacity := by
  have used := ControlPage.toNat_used ordered
  have room := lined.room
  rw [lined.toNat_used] at used
  refine ⟨ordered, ?_⟩
  change channel.page.head.toNat - channel.page.tail.toNat ≤ _
  omega

/-- The records are told by the cursors, the capacity and the data. -/
theorem Lined.of_same (lined : before.Lined waiting) (capacity : after.capacity = before.capacity)
    (named : after.page.capacity = before.page.capacity)
    (data : after.region.data = before.region.data) (head : after.page.head = before.page.head)
    (tail : after.page.tail = before.page.tail) : after.Lined waiting := by
  refine ⟨?_, ?_, ?_, lined.framed, ?_, ?_, ?_⟩
  · rw [capacity]
    exact lined.power
  · rw [capacity, data]
    exact lined.held
  · rw [named, capacity]
    exact lined.named
  · rw [capacity]
    exact lined.room
  · rw [ControlPage.used, head, tail]
    exact lined.used
  · rw [capacity, data, tail]
    exact lined.bytes

theorem Lined.of_region (lined : before.Lined waiting) (capacity : after.capacity = before.capacity)
    (region : after.region = before.region) : after.Lined waiting := by
  have page : after.page = before.page := congrArg Region.page region
  exact lined.of_same capacity (by rw [page]) (by rw [region]) (by rw [page]) (by rw [page])

/-- With the cursors together nothing waits. -/
theorem Lined.of_emptied (lined : before.Lined waiting) (capacity : after.capacity = before.capacity)
    (named : after.page.capacity = before.page.capacity)
    (data : after.region.data = before.region.data) (empty : after.page.tail = after.page.head) :
    after.Lined [] := by
  refine ⟨?_, ?_, ?_, nofun, Nat.zero_le _, ?_, rfl⟩
  · rw [capacity]
    exact lined.power
  · rw [capacity, data]
    exact lined.held
  · rw [named, capacity]
    exact lined.named
  · rw [ControlPage.used, empty, UInt64.sub_self]
    rfl

/-- Records that were written come to wait behind the others. -/
theorem Lined.of_wrote (lined : before.Lined waiting) {more : List Record}
    (wrote : Wrote before more after) (framed : ∀ record ∈ more, record.WellFormed)
    (room : before.page.used.toNat + (Record.stream more).length ≤ before.capacity.toNat) :
    after.Lined (waiting ++ more) := by
  rw [lined.toNat_used] at room
  have total : (Record.stream (waiting ++ more)).length =
      (Record.stream waiting).length + (Record.stream more).length := by
    rw [Record.stream_append, List.length_append]
  -- What is written begins in the cell behind the last of the bytes that wait.
  have cell : before.page.head.toNat % before.capacity.toNat =
      (before.page.tail.toNat + (Record.stream waiting).length) % before.capacity.toNat := by
    rw [lined.head_eq, ByteRing.toNat_add_mod lined.power]
  have behind := ByteRing.stored_fill_behind before.region.data before.page.tail.toNat
    (Record.stream waiting).length (Record.stream more) room lined.held
  refine ⟨?_, ?_, ?_, ?_, ?_, ?_, ?_⟩
  · rw [wrote.capacity]
    exact lined.power
  · rw [wrote.capacity, wrote.size]
    exact lined.held
  · rw [wrote.named, wrote.capacity]
    exact lined.named
  · intro record member
    rcases List.mem_append.mp member with old | new
    · exact lined.framed record old
    · exact framed record new
  · rw [wrote.capacity, total]
    exact room
  · rw [total, UInt64.ofNat_add, ← lined.used, ControlPage.used, ControlPage.used, wrote.head,
      wrote.tail]
    generalize UInt64.ofNat (Record.stream more).length = added
    rw [UInt64.sub_eq_add_neg, UInt64.sub_eq_add_neg, UInt64.add_assoc, UInt64.add_assoc,
      UInt64.add_comm added]
  · rw [wrote.capacity, wrote.tail, wrote.data, ByteRing.fill_congr _ _ cell, total, behind,
      lined.bytes, Record.stream_append]

/-- A tail that is moved on to where a record ends leaves the records behind it. -/
theorem Lined.passed (lined : before.Lined (front ++ rest))
    (capacity : after.capacity = before.capacity)
    (region : after.region = before.region.passed (Record.stream front).length) :
    after.Lined rest := by
  have page : after.page = (before.region.passed (Record.stream front).length).page :=
    congrArg Region.page region
  have data : after.region.data = before.region.data := by rw [region]; rfl
  have tail : after.page.tail = before.page.tail + UInt64.ofNat (Record.stream front).length := by
    rw [page]
    rfl
  have head : after.page.head = before.page.head := by rw [page]; rfl
  have total : (Record.stream (front ++ rest)).length =
      (Record.stream front).length + (Record.stream rest).length := by
    rw [Record.stream_append, List.length_append]
  have room := lined.room
  have bytes := congrArg (List.drop (Record.stream front).length) lined.bytes
  rw [ByteRing.drop_stored _ _ (by omega), Record.stream_append, List.drop_left, List.length_append,
    Nat.add_sub_cancel_left] at bytes
  have cell := ByteRing.toNat_add_mod lined.power before.page.tail (Record.stream front).length
  refine ⟨?_, ?_, ?_, ?_, ?_, ?_, ?_⟩
  · rw [capacity]
    exact lined.power
  · rw [capacity, data]
    exact lined.held
  · rw [capacity, ← lined.named, page]
    rfl
  · exact fun record member => lined.framed record (List.mem_append_right front member)
  · rw [capacity]
    omega
  · rw [ControlPage.used, head, tail, lined.head_eq, total, UInt64.ofNat_add]
    generalize UInt64.ofNat (Record.stream front).length = gone
    generalize UInt64.ofNat (Record.stream rest).length = left
    rw [← UInt64.add_assoc, UInt64.add_comm, UInt64.add_sub_cancel]
  · rw [capacity, data, tail, ByteRing.stored_eq_of_cell _ _ cell]
    exact bytes

/-- A record that is found is the first one that waits. -/
theorem Lined.of_found (lined : channel.Lined waiting) {record : Record}
    (found : channel.region.recordAtTail channel.capacity = .record record) :
    channel.page.tail ≤ channel.page.head ∧ ∃ rest, waiting = record :: rest := by
  obtain ⟨⟨ordered, -⟩, front⟩ :=
    (Region.recordAtTail_eq_record_iff lined.power lined.held record).mp found
  refine ⟨ordered, ?_⟩
  rw [lined.backlog_eq ordered] at front
  cases waiting with
  | nil => cases front
  | cons first rest =>
      rw [Record.stream_cons,
        Record.front?_encode_append (lined.framed first List.mem_cons_self)] at front
      cases front
      exact ⟨rest, rfl⟩

/-- Where the cursors are in order, the first record that waits is found. -/
theorem Lined.found {record : Record} (lined : channel.Lined (record :: rest))
    (ordered : channel.page.tail ≤ channel.page.head) :
    channel.region.recordAtTail channel.capacity = .record record := by
  rw [Region.recordAtTail_eq_record_iff lined.power lined.held, lined.backlog_eq ordered]
  exact ⟨lined.spanned ordered,
    Record.front?_encode_append (lined.framed record List.mem_cons_self) _⟩

/-- Releasing it moves the tail on behind it. -/
theorem Lined.release_eq {record : Record} (lined : channel.Lined (record :: rest)) :
    channel.region.release record =
      channel.region.passed (Record.stream [record]).length := by
  rw [Record.stream_cons, Record.stream_nil, List.append_nil]
  exact channel.region.release_eq_passed (lined.framed record List.mem_cons_self)

/-- A position at which a whole record ends, as far as whole records lie between the cursors. -/
def Ends (channel : Channel) (position : UInt64) : Prop :=
  ∃ front rest, (∀ record ∈ front, record.WellFormed) ∧
    channel.region.backlog channel.capacity = Record.stream front ++ rest ∧
    position = channel.page.tail + UInt64.ofNat (Record.stream front).length

/-- The records that end there are the first ones that wait. -/
theorem Lined.of_ends (lined : channel.Lined waiting)
    (ordered : channel.page.tail ≤ channel.page.head) {position : UInt64}
    (ends : channel.Ends position) :
    ∃ front rest, waiting = front ++ rest ∧
      position = channel.page.tail + UInt64.ofNat (Record.stream front).length := by
  obtain ⟨front, left, framed, joined, moved⟩ := ends
  rw [lined.backlog_eq ordered] at joined
  obtain ⟨rest, split⟩ := (Record.parts_stream lined.framed).longest framed joined
  exact ⟨front, rest, split.symm, moved⟩

/-- What a notifier that was signalled leaves of the records that wait: all of them, or none. -/
structure Yields (before after : Channel) : Prop where
  capacity : after.capacity = before.capacity
  named : after.page.capacity = before.page.capacity
  data : after.region.data = before.region.data
  cursors : (after.page.head = before.page.head ∧ after.page.tail = before.page.tail) ∨
    after.page.tail = after.page.head

theorem Yields.trans {last : Channel} (left : before.Yields after) (right : after.Yields last) :
    before.Yields last := by
  refine ⟨right.capacity.trans left.capacity, right.named.trans left.named,
    right.data.trans left.data, ?_⟩
  rcases right.cursors with ⟨head, tail⟩ | empty
  · rw [head, tail]
    exact left.cursors
  · exact .inr empty

theorem Still.yields (still : Still before after) : before.Yields after := by
  have page : after.page = before.page := congrArg Region.page still.region
  exact ⟨still.capacity, by rw [page], by rw [still.region], .inl ⟨by rw [page], by rw [page]⟩⟩

theorem yields_reset (channel : Channel) : channel.Yields channel.reset :=
  ⟨rfl, rfl, rfl, .inr rfl⟩

/-- Out of order, cursors refuse to be brought together. -/
theorem yields_drain (channel : Channel) (now : UInt64) :
    channel.Yields (channel.moveTail now channel.page.head).2 := by
  rcases channel.between_or_outside channel.page.head with ⟨ordered, within⟩ | outside
  · have moved : channel.Yields (channel.withTail channel.page.head) := ⟨rfl, rfl, rfl, .inr rfl⟩
    rw [moveTail_of_between now ordered within]
    exact moved.trans (still_crossWatermarks _ now).yields
  · rw [moveTail_of_outside now outside]
    exact (Still.refl channel).yields

theorem yields_signal (channel : Channel) (now : UInt64) (notifier : Notifier) :
    channel.Yields (channel.signal now notifier).2 := by
  cases notifier with
  | counting number reaction =>
      have counted := (channel.still_counted number reaction).yields
      cases reaction with
      | nothing => exact counted
      | fail => exact counted
      | drain => exact counted.trans (yields_drain _ now)
      | reset => exact counted.trans (yields_reset _)
  | descriptor bell => exact (@still_signal channel now (.descriptor bell) trivial).yields

theorem yields_fire (channel : Channel) (now : UInt64) (notifier : Notifier) (times : Nat) :
    channel.Yields (channel.fire now notifier times) := by
  induction times generalizing channel with
  | zero => exact (Still.refl channel).yields
  | succ times ih =>
      have first := channel.yields_signal now notifier
      unfold fire
      split
      · rename_i after rings
        rw [rings] at first
        exact first.trans (ih after)
      · rename_i cause after fails
        rw [fails] at first
        exact first.trans ((Still.refl after).log rfl).yields

theorem yields_deliver (channel : Channel) (now : UInt64) :
    channel.Yields (channel.deliver now) := by
  have taken : channel.Yields { channel with slot := { channel.slot with pending := 0 } } :=
    ⟨rfl, rfl, rfl, .inl ⟨rfl, rfl⟩⟩
  unfold deliver
  dsimp only
  split
  · exact taken
  · exact taken.trans (yields_fire _ now _ _)

theorem yields_notifyConsumer (channel : Channel) (now : UInt64) :
    channel.Yields (channel.notifyConsumer now) :=
  channel.still_owed.yields.trans (yields_deliver _ now)

theorem yields_evaluateWatermarks (channel : Channel) (now : UInt64) :
    channel.Yields (channel.evaluateWatermarks now) := by
  have crossed := (channel.still_crossWatermarks now).yields
  by_cases rises : (channel.crossWatermarks now).1 = some .rising
  · rw [evaluateWatermarks_of_rising rises]
    exact crossed.trans (yields_notifyConsumer _ now)
  · rw [evaluateWatermarks_of_not_rising rises]
    exact crossed

theorem yields_bindNotifier (channel : Channel) (now : UInt64) (notifier : Option Notifier) :
    channel.Yields (channel.bindNotifier now notifier).2 := by
  have rebound : channel.Yields (channel.rebound notifier) := ⟨rfl, rfl, rfl, .inl ⟨rfl, rfl⟩⟩
  have logged : (channel.rebound notifier).Yields
      ((channel.rebound notifier).log (.notifierRebound notifier.isSome)) :=
    ((Still.refl _).log rfl).yields
  exact (rebound.trans logged).trans (yields_deliver _ now)

structure Whole (capacity : UInt64) (channel : Channel) : Prop where
  capacity : channel.capacity = capacity
  lined : ∃ waiting, channel.Lined waiting

variable {capacity : UInt64}

theorem Lined.whole (lined : channel.Lined waiting) (same : channel.capacity = capacity) :
    channel.Whole capacity :=
  ⟨same, waiting, lined⟩

theorem Whole.of_yields (whole : before.Whole capacity) (yields : before.Yields after) :
    after.Whole capacity := by
  obtain ⟨same, waiting, lined⟩ := whole
  refine ⟨yields.capacity.trans same, ?_⟩
  rcases yields.cursors with ⟨head, tail⟩ | empty
  · exact ⟨waiting, lined.of_same yields.capacity yields.named yields.data head tail⟩
  · exact ⟨[], lined.of_emptied yields.capacity yields.named yields.data empty⟩

theorem Fresh.whole {plan : RingPlan} (fresh : Fresh plan channel) :
    channel.Whole channel.capacity := by
  obtain ⟨power, -⟩ := plan.validate_eq_ok_iff.mp fresh.valid
  refine ⟨rfl, [], ?_, ?_, ?_, nofun, Nat.zero_le _, ?_, rfl⟩
  · rw [fresh.capacity]
    exact power
  · rw [fresh.capacity]
    exact Nat.le_of_eq fresh.size.symm
  · rw [fresh.page, fresh.capacity]
    rfl
  · rw [fresh.page]
    exact UInt64.sub_self 0

theorem whole_push (whole : channel.Whole capacity) (now : UInt64) (payload : Bytes) :
    (channel.push now payload).2.Whole capacity := by
  obtain ⟨same, waiting, lined⟩ := whole
  have pushed := pushed_push lined.power channel.misses_page now payload
  generalize channel.push now payload = done at pushed
  obtain ⟨outcome, after⟩ := done
  cases pushed with
  | tooLarge long => exact ⟨same, waiting, lined⟩
  | dropped short full =>
      have steady := channel.steady_noteDrop now (16 + UInt64.ofNat payload.length)
      exact ⟨steady.capacity.trans same, waiting, lined.of_same steady.capacity steady.named
        steady.data steady.head (channel.tail_noteDrop now _)⟩
  | written written short room wrote closed chronicle =>
      have framed := Record.wellFormed_ofPush channel.page.missed channel.page.episodeStart now
        (Nat.lt_of_le_of_lt short channel.toNat_maxPayload_lt)
      have more := (lined.of_wrote wrote framed room).whole (wrote.capacity.trans same)
      exact more.of_yields (written.yields_evaluateWatermarks now)

/-- A read takes the first record that waits, or leaves the ring as it is. -/
theorem whole_read (whole : channel.Whole capacity) (now : UInt64) {reader : Reader}
    (sized : reader.capacity = capacity) :
    (channel.read now reader).2.2.Whole capacity := by
  obtain ⟨same, waiting, lined⟩ := whole
  by_cases look : ∃ record, channel.region.recordAtTail reader.capacity = .record record
  · obtain ⟨record, found⟩ := look
    simp only [read, Reader.take_of_record found]
    rw [sized, ← same] at found
    obtain ⟨-, rest, rfl⟩ := lined.of_found found
    have freed : ({ channel with region := channel.region.release record } : Channel).Lined rest :=
      @Lined.passed channel _ [record] rest lined rfl lined.release_eq
    split
    · exact (freed.whole same).of_yields (yields_evaluateWatermarks _ now)
    · exact freed.whole same
  · obtain ⟨after, found, region, -⟩ := read_of_not_record (not_exists.mp look) now
    have steady := (channel.settles_read now reader).framed.capacity
    rw [found] at steady ⊢
    exact (lined.of_region steady region).whole (steady.trans same)

theorem whole_pollFor (whole : channel.Whole capacity) (now : UInt64) {reader : Reader}
    (sized : reader.capacity = capacity) (fuel : Nat) :
    (channel.pollFor now reader fuel).2.2.2.Whole capacity := by
  induction fuel generalizing channel reader with
  | zero => exact whole
  | succ fuel ih =>
      have first := whole_read whole now sized
      unfold pollFor
      split
      · rename_i record counted after found
        have counts : counted.capacity = reader.capacity := by
          have same := (Reader.of_blank_eq (channel.blank_read now reader)).1
          rw [found] at same
          exact same
        rw [found] at first
        exact ih first (counts.trans sized)
      · rename_i same after found
        rw [found] at first
        exact first
      · rename_i place same after found
        rw [found] at first
        exact first
      · rename_i same after found
        rw [found] at first
        exact first

theorem whole_advanceTail (whole : channel.Whole capacity) (now : UInt64) {position : UInt64}
    (boundary : channel.page.tail ≤ position → position ≤ channel.page.head →
      channel.Ends position) :
    (channel.advanceTail now position).2.Whole capacity := by
  obtain ⟨same, waiting, lined⟩ := whole
  rcases channel.between_or_outside position with ⟨ordered, within⟩ | outside
  · obtain ⟨front, rest, rfl, moved⟩ :=
      lined.of_ends (UInt64.le_trans ordered within) (boundary ordered within)
    have passed : (channel.withTail position).Lined rest :=
      @Lined.passed channel _ front rest lined rfl (by rw [moved]; rfl)
    have crossed := (channel.withTail position).still_crossWatermarks now
    have looked := (passed.whole same).of_yields crossed.yields
    unfold advanceTail
    rw [moveTail_of_between now ordered within]
    generalize (channel.withTail position).crossWatermarks now = found at looked
    obtain ⟨edge, after⟩ := found
    dsimp only at looked ⊢
    split
    · rename_i refused
      cases refused
    · rename_i rises
      cases rises
      exact looked.of_yields (after.yields_notifyConsumer now)
    · rename_i rests
      cases rests
      exact looked
  · rw [advanceTail, moveTail_of_outside now outside]
    exact ⟨same, waiting, lined⟩

theorem whole_setWatermarks (whole : channel.Whole capacity) (hi lo : UInt32) :
    (channel.setWatermarks hi lo).2.Whole capacity := by
  obtain ⟨same, waiting, lined⟩ := whole
  unfold setWatermarks
  split
  · exact ⟨same, waiting, lined⟩
  · exact ⟨same, waiting, lined.of_same rfl rfl rfl rfl rfl⟩

theorem whole_setRate (whole : channel.Whole capacity) (rate : UInt32) :
    (channel.setRate rate).2.Whole capacity := by
  obtain ⟨same, waiting, lined⟩ := whole
  unfold setRate
  split
  · exact ⟨same, waiting, lined⟩
  · exact ⟨same, waiting, lined.of_same rfl rfl rfl rfl rfl⟩

end Channel

namespace Session

/-- Ordinary commands that move the tail only to where a record ends. Outside of the cursors no tail is
moved. -/
structure Tidy (session : Session) (command : Command) : Prop where
  ordinary : command.Ordinary
  boundary : ∀ position channel, command = .advanceTail position →
    session.channel? = some channel → channel.page.tail ≤ position →
      position ≤ channel.page.head → channel.Ends position

/-- The sessions that come of a first one by commands each of which is allowed where it is carried
out. -/
inductive Reaches (allowed : Session → Command → Prop) (first : Session) : Session → Prop
  | start : Reaches allowed first first
  | step {session : Session} (reaches : Reaches allowed first session) (time : UInt64)
      (command : Command) (permitted : allowed session command) :
      Reaches allowed first (session.step (some time) command).2

structure Orderly (capacity : UInt64) (session : Session) (channel : Channel) : Prop where
  store : ∃ named, session.store = .ring channel named
  seat : session.seat = .producer
  whole : channel.Whole capacity
  hosts : Hosts capacity session.readers

variable {session : Session} {channel : Channel} {capacity : UInt64} {named : Bool}

theorem Orderly.channel?_eq (orderly : session.Orderly capacity channel) :
    session.channel? = some channel := by
  obtain ⟨named, store⟩ := orderly.store
  rw [channel?, store]

theorem Orderly.sized (orderly : session.Orderly capacity channel) {number : Nat} {reader : Reader}
    (found : session.readers[number]? = some reader) : reader.capacity = capacity :=
  orderly.hosts.sized reader (Array.mem_of_getElem? found)

/-- A command of which the answer is known, if whole records wait in what it leaves. -/
theorem Orderly.stepped (orderly : session.Orderly capacity channel) {time : UInt64}
    {command : Command} (ordinary : command.Ordinary) {reply : Reply} {after : Channel}
    {readers : Array Reader}
    (answer : session.step (some time) command =
      (reply, { session with now := time, store := .ring after named, readers }))
    (whole : after.Whole capacity) :
    ∃ after, (session.step (some time) command).2.Orderly capacity after := by
  obtain ⟨_, store⟩ := orderly.store
  obtain ⟨waiting, lined⟩ := orderly.whole.lined
  have joined := joined_step store orderly.seat time ordinary
  rw [lined.named, orderly.whole.capacity] at joined
  have hosts := orderly.hosts.of_joined joined
  rw [answer] at hosts ⊢
  exact ⟨after, ⟨named, rfl⟩, orderly.seat, whole, hosts⟩

/-- One step: the records that wait stay whole. -/
theorem orderly_step (orderly : session.Orderly capacity channel) (time : UInt64) {command : Command}
    (tidy : session.Tidy command) :
    ∃ after, (session.step (some time) command).2.Orderly capacity after := by
  obtain ⟨named, store⟩ := orderly.store
  have whole := orderly.whole
  have ordinary := tidy.ordinary
  cases tidy.ordinary with
  | push payload =>
      exact orderly.stepped ordinary (step_push store orderly.seat time payload)
        (Channel.whole_push whole time payload)
  | reset =>
      exact orderly.stepped ordinary (step_reset store time) (whole.of_yields channel.yields_reset)
  | bind binding =>
      obtain ⟨counts, bells, answer⟩ := step_bind store time binding
      have made : channel.Yields { channel with counts, bells } :=
        { (Channel.Still.refl channel).yields with }
      exact orderly.stepped ordinary answer
        (whole.of_yields (made.trans (Channel.yields_bindNotifier _ time _)))
  | quiet still =>
      cases command with
      | read number =>
          cases found : session.readers[number]? with
          | none => exact orderly.stepped ordinary (step_of_missing store found time (.inl rfl)) whole
          | some reader =>
              exact orderly.stepped ordinary (step_read store found time)
                (Channel.whole_read whole time (orderly.sized found))
      | poll number =>
          cases found : session.readers[number]? with
          | none => exact orderly.stepped ordinary (step_of_missing store found time (.inr rfl)) whole
          | some reader =>
              exact orderly.stepped ordinary (step_poll store found time)
                (Channel.whole_pollFor whole time (orderly.sized found)
                  (Reader.pollFuel channel.page))
      | openReader view missing =>
          obtain ⟨reply, after, readers, answer, -, made⟩ :=
            step_openReader_cases store time view missing
          have logged : after.Whole capacity := by
            rcases made with ⟨rfl, -⟩ | ⟨_, -, rfl, -⟩
            · exact whole
            · exact whole.of_yields ((Channel.Still.refl channel).log rfl).yields
          exact orderly.stepped ordinary answer logged
      | advanceTail position =>
          exact orderly.stepped ordinary (step_advanceTail store time position)
            (Channel.whole_advanceTail whole time
              (tidy.boundary position channel rfl orderly.channel?_eq))
      | setWatermarks hi lo =>
          exact orderly.stepped ordinary (step_setWatermarks store time hi lo)
            (Channel.whole_setWatermarks whole hi lo)
      | setRate rate =>
          exact orderly.stepped ordinary (step_setRate store time rate)
            (Channel.whole_setRate whole rate)
      | _ => cases still

variable {origin : Origin} {plan : RingPlan} {path : String} {now : UInt64} {view : CreationView}
  {reached : Session}

theorem orderly_of_start (started : start origin plan path now = (.created view, some session)) :
    ∃ channel, Channel.Fresh plan channel ∧ session.Orderly plan.capacity channel := by
  obtain ⟨channel, named, fresh, rfl⟩ := fresh_of_start started
  have whole := fresh.whole
  rw [fresh.capacity] at whole
  refine ⟨channel, fresh, ⟨named, rfl⟩, rfl, whole, ⟨_, rfl, rfl⟩, ?_⟩
  intro reader member
  rw [Array.mem_singleton.mp member]
  exact fresh.capacity

/-- In every session that is reached so, whole records wait. -/
theorem orderly_of_reaches (started : start origin plan path now = (.created view, some session))
    {allowed : Session → Command → Prop}
    (tidy : ∀ {session command}, allowed session command → Tidy session command)
    (reaches : Reaches allowed session reached) :
    ∃ channel, reached.Orderly plan.capacity channel := by
  induction reaches with
  | start =>
      obtain ⟨channel, -, orderly⟩ := orderly_of_start started
      exact ⟨channel, orderly⟩
  | step reaches time command permitted ih =>
      obtain ⟨channel, orderly⟩ := ih
      exact orderly_step orderly time (tidy permitted)

end Session

end RecordRing
