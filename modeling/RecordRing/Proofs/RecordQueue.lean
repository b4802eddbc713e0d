import RecordRing.Proofs.Unattended

set_option autoImplicit false

namespace RecordRing

namespace Channel

/-- The stream has been read up to a record, and `waiting` are the records from there on. -/
structure Queues (channel : Channel) (gone waiting : List Record) : Prop
    extends Holds channel (gone ++ waiting) where
  tail : channel.page.tail.toNat = (Record.stream gone).length
  unbound : channel.slot.bound = none

variable {channel : Channel} {gone waiting : List Record}

theorem Queues.toNat_head (queues : Queues channel gone waiting) :
    channel.page.head.toNat = channel.page.tail.toNat + (Record.stream waiting).length := by
  rw [queues.head, queues.tail, Record.stream_append, List.length_append]

theorem Queues.toNat_used (queues : Queues channel gone waiting) :
    channel.page.used.toNat = (Record.stream waiting).length := by
  rw [queues.toHolds.toNat_used, queues.toNat_head, Nat.add_sub_cancel_left]

theorem Queues.backlog_eq (queues : Queues channel gone waiting) :
    channel.region.backlog channel.capacity = Record.stream waiting := by
  rw [queues.toHolds.backlog_eq, queues.tail, Record.stream_append, List.drop_left]

/-- Where nothing changed but the tail, and that to the end of a record, the queue has moved on. -/
theorem Queues.of_kept {after : Channel} {front rest : List Record}
    (queues : Queues channel gone (front ++ rest)) (kept : Kept channel after)
    (tail : after.page.tail.toNat = (Record.stream (gone ++ front)).length) :
    Queues after (gone ++ front) rest := by
  refine ⟨?_, tail, kept.bound.trans queues.unbound⟩
  rw [List.append_assoc]
  exact queues.toHolds.of_steady kept.toSteady

/-- A payload that the ring can hold comes to wait, behind a summary if pushes were dropped before it; or
it is dropped, and then one more is owed. -/
theorem Queues.push_cases (queues : Queues channel gone waiting) {missed : Nat} {since : UInt64}
    (misses : Misses channel missed since) (now : UInt64) {payload : Bytes}
    (short : payload.length ≤ channel.maxPayload.toNat)
    (bound : (channel.push now payload).1 = .written →
      (Record.stream (gone ++ waiting ++ Record.ofPush missed since now payload)).length <
        UInt64.size) :
    ∃ after, Framed channel after ∧
      ((channel.push now payload = (.dropped, after) ∧ Queues after gone waiting ∧
          Misses after (missed + 1) (if missed = 0 then now else since) ∧
          after.tallies.drops = channel.tallies.drops + 1) ∨
        (channel.push now payload = (.written, after) ∧
          Queues after gone (waiting ++ Record.ofPush missed since now payload) ∧
          Misses after 0 0 ∧ after.tallies.drops = channel.tallies.drops)) := by
  have pushed := pushed_push queues.power misses now payload
  generalize channel.push now payload = done at pushed bound ⊢
  obtain ⟨outcome, after⟩ := done
  refine ⟨after, ?_⟩
  cases pushed with
  | tooLarge long => omega
  | dropped _ full =>
      have steady := channel.steady_noteDrop now (16 + UInt64.ofNat payload.length)
      refine ⟨steady.toFramed, Or.inl ⟨rfl, ⟨queues.toHolds.of_steady steady, ?_,
        steady.bound.trans queues.unbound⟩, misses_noteDrop misses now _, ?_⟩⟩
      · exact (congrArg UInt64.toNat (channel.tail_noteDrop now _)).trans queues.tail
      · cases dropping : channel.page.isDropping <;> rfl
  | written written _ room wrote closed chronicle =>
      have still := still_evaluateWatermarks now (.of_unbound (wrote.bound.trans queues.unbound))
      have framed := Record.wellFormed_ofPush missed since now
        (Nat.lt_of_le_of_lt short channel.toNat_maxPayload_lt)
      have holds := queues.toHolds.of_wrote wrote framed room (bound rfl)
      have none : Misses written 0 0 := ⟨by simp [closed], nofun, nofun⟩
      refine ⟨wrote.toFramed.trans still.framed, Or.inr ⟨rfl, ⟨?_, ?_, ?_⟩, none.of_kept still.kept,
        still.drops.trans wrote.drops⟩⟩
      · rw [← List.append_assoc]
        exact holds.of_steady still.kept.toSteady
      · have tail : (written.evaluateWatermarks now).page.tail = written.page.tail :=
          congrArg (·.page.tail) still.region
        exact (congrArg UInt64.toNat (tail.trans wrote.tail)).trans queues.tail
      · exact still.bound.trans (wrote.bound.trans queues.unbound)

/-- Without records the cursors are equal. -/
theorem Queues.read_nil (queues : Queues channel gone []) (now : UInt64) (reader : Reader) :
    channel.read now reader = (.nothing, reader, channel) := by
  have empty : channel.region.page.tail = channel.region.page.head := by
    rw [← UInt64.toNat_inj]
    exact queues.toNat_head.symm
  have look := Region.recordAtTail_of_eq reader.capacity empty
  have taken : reader.take channel.region = _ :=
    Reader.take_of_not_record (by rw [look]; nofun)
  rw [look] at taken
  rw [read, taken]

/-- The first record that waits is found byte for byte, and the tail moves behind it. -/
theorem Queues.read_cons {record : Record} {rest : List Record}
    (queues : Queues channel gone (record :: rest)) (now : UInt64) {reader : Reader}
    (same : reader.capacity = channel.capacity) :
    ∃ after, channel.read now reader = (.record record, reader.count record, after) ∧
      Queues after (gone ++ [record]) rest ∧ Kept channel after := by
  have framed : record.WellFormed :=
    queues.framed record (List.mem_append_right gone List.mem_cons_self)
  have look : channel.region.recordAtTail reader.capacity = .record record := by
    rw [same, Region.recordAtTail_eq_record_iff queues.power queues.held, queues.backlog_eq]
    exact ⟨⟨queues.ordered, queues.lap⟩, Record.front?_encode_append framed _⟩
  have freed := kept_release look
  have moved : (channel.region.release record).page.tail.toNat =
      (Record.stream (gone ++ [record])).length := by
    have span := Record.length_encode record framed
    have head := queues.toNat_head
    have top := channel.page.head.toNat_lt
    rw [Record.stream_cons, List.length_append] at head
    change (channel.page.tail + record.header.span).toNat = _
    rw [UInt64.toNat_add, Record.stream_append, List.length_append, ← queues.tail,
      Record.stream_cons, Record.stream_nil, List.append_nil, span]
    exact Nat.mod_eq_of_lt (by omega)
  simp only [read, Reader.take_of_record look]
  cases reader.inProcess with
  | true =>
      have unbound := freed.bound.trans queues.unbound
      have still := still_evaluateWatermarks now (.of_unbound unbound)
      refine ⟨_, rfl, queues.of_kept (freed.trans still.kept) ?_, freed.trans still.kept⟩
      rw [← moved]
      exact congrArg (fun region : Region => region.page.tail.toNat) still.region
  | false => exact ⟨_, rfl, queues.of_kept freed moved, freed⟩

/-- Reading on while anything is there delivers all that waits, in order. -/
theorem Queues.pollFor (queues : Queues channel gone waiting) (now : UInt64) {reader : Reader}
    (same : reader.capacity = channel.capacity) {fuel : Nat} (enough : waiting.length < fuel) :
    ∃ last after, channel.pollFor now reader fuel = (.drained, waiting, last, after) ∧
      last.capacity = reader.capacity ∧ Queues after (gone ++ waiting) [] ∧ Kept channel after := by
  -- Along the records: each look takes one of them, and one more look finds nothing.
  induction waiting generalizing channel gone reader fuel with
  | nil =>
      obtain ⟨fuel, rfl⟩ := Nat.exists_eq_succ_of_ne_zero (Nat.ne_of_gt enough)
      refine ⟨reader, channel, ?_, rfl, ?_, (Still.refl channel).kept⟩
      · rw [Channel.pollFor, queues.read_nil]
      · rw [List.append_nil]
        exact queues
  | cons record rest ih =>
      obtain ⟨fuel, rfl⟩ := Nat.exists_eq_succ_of_ne_zero (Nat.ne_of_gt (Nat.lt_of_le_of_lt
        (Nat.zero_le _) enough))
      obtain ⟨after, found, moved, kept⟩ := queues.read_cons now same
      have counted : (reader.count record).capacity = after.capacity := by
        rw [Reader.capacity_count, same, kept.capacity]
      have left : rest.length < fuel := by
        rw [List.length_cons] at enough
        omega
      obtain ⟨last, done, polled, capacity, drained, more⟩ := ih moved counted left
      refine ⟨last, done, ?_, ?_, ?_, kept.trans more⟩
      · rw [Channel.pollFor, found]
        simp only [polled]
      · rw [capacity, Reader.capacity_count]
      · rw [List.append_assoc] at drained
        exact drained

theorem Queues.poll (queues : Queues channel gone waiting) (now : UInt64) {reader : Reader}
    (same : reader.capacity = channel.capacity) :
    ∃ last after, channel.poll now reader = (.drained, waiting, last, after) ∧
      last.capacity = reader.capacity ∧ Queues after (gone ++ waiting) [] ∧ Kept channel after := by
  have few := Record.length_le_length_stream waiting
  have used := queues.toNat_used
  simp only [RecordHeader.size] at few
  exact queues.pollFor now same (by rw [Reader.pollFuel]; omega)

/-- A tail between the cursors is taken as it is, where no notifier can move it on. -/
theorem advanceTail_of_between (now position : UInt64)
    (unbound : channel.slot.bound = none) (ordered : channel.page.tail ≤ position)
    (within : position ≤ channel.page.head) :
    (channel.advanceTail now position).1 = .ok () ∧
      (channel.advanceTail now position).2.page.tail = position := by
  have crossed := (channel.withTail position).still_crossWatermarks now
  rw [advanceTail, moveTail_of_between now ordered within]
  generalize (channel.withTail position).crossWatermarks now = looked at crossed ⊢
  obtain ⟨edge, after⟩ := looked
  have tail : after.page.tail = position := congrArg (·.page.tail) crossed.region
  cases edge with
  | none => exact ⟨rfl, tail⟩
  | some edge =>
      cases edge with
      | rising =>
          have notified := still_notifyConsumer now (.of_unbound (crossed.bound.trans unbound))
          exact ⟨rfl, (congrArg (·.page.tail) notified.region).trans tail⟩
      | falling => exact ⟨rfl, tail⟩

/-- To the end of a record the tail can be moved. -/
theorem Queues.advanceTail {front rest : List Record}
    (queues : Queues channel gone (front ++ rest)) (now : UInt64) {position : UInt64}
    (boundary : position.toNat = (Record.stream (gone ++ front)).length) :
    (channel.advanceTail now position).1 = .ok () ∧
      Queues (channel.advanceTail now position).2 (gone ++ front) rest ∧
      Kept channel (channel.advanceTail now position).2 := by
  have head := queues.toNat_head
  have start := queues.tail
  have parts := boundary
  rw [Record.stream_append, List.length_append] at head parts
  obtain ⟨done, tail⟩ := advanceTail_of_between now position queues.unbound
    (by rw [UInt64.le_iff_toNat_le]; omega) (by rw [UInt64.le_iff_toNat_le]; omega)
  have kept := (channel.settles_advanceTail now position).of_unbound queues.unbound
  exact ⟨done, queues.of_kept kept (by rw [tail, boundary]), kept⟩

/-- Back it cannot be moved. -/
theorem advanceTail_of_behind (now position : UInt64)
    (behind : position < channel.page.tail) :
    channel.advanceTail now position =
      (.error (.outOfRange position channel.page.tail channel.page.head), channel) := by
  rw [advanceTail, moveTail_of_outside now (.inr behind)]

end Channel

end RecordRing
