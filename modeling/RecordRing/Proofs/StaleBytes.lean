import RecordRing.Channel.Control
import RecordRing.Proofs.UnreadBytes

set_option autoImplicit false

namespace RecordRing

namespace Channel

def withData (channel : Channel) (data : Buffer) : Channel :=
  { channel with region := { channel.region with data } }

@[simp] theorem page_withData (channel : Channel) (data : Buffer) :
    (channel.withData data).page = channel.page := rfl

/-- A data ring with the channel's bytes wherever there is something to be read. -/
structure SameUnread (channel : Channel) (data : Buffer) : Prop where
  power : isPowerOfTwo channel.capacity = true
  held : channel.capacity.toNat ≤ channel.region.data.size
  size : data.size = channel.region.data.size
  unread : ∀ position, channel.page.tail.toNat ≤ position → position < channel.page.head.toNat →
    data.get? (position % channel.capacity.toNat) =
      channel.region.data.get? (position % channel.capacity.toNat)

/-- No byte was written, and no more is to be read than was. -/
structure Narrows (before after : Channel) : Prop extends Framed before after where
  data : after.region.data = before.region.data
  unread : ∀ position, after.page.tail.toNat ≤ position → position < after.page.head.toNat →
    before.page.tail.toNat ≤ position ∧ position < before.page.head.toNat

variable {before after : Channel}

theorem Still.narrows (still : Still before after) : Narrows before after := by
  have page : after.page = before.page := congrArg Region.page still.region
  refine ⟨still.framed, by rw [still.region], fun position start stop => ?_⟩
  rw [page] at start stop
  exact ⟨start, stop⟩

theorem Steady.narrows (steady : Steady before after) : Narrows before after := by
  have forward := UInt64.le_iff_toNat_le.mp steady.tail_le
  refine ⟨steady.toFramed, steady.data, fun position start stop => ?_⟩
  rw [steady.head] at stop
  exact ⟨Nat.le_trans forward start, stop⟩

theorem Cleared.narrows (cleared : Cleared before after) : Narrows before after := by
  refine ⟨cleared.toFramed, cleared.data, fun position _ stop => ?_⟩
  rw [cleared.head] at stop
  cases stop

theorem Settles.narrows (settles : Settles before after) : Narrows before after := by
  cases settles with
  | kept kept => exact kept.toSteady.narrows
  | cleared answered cleared => exact cleared.narrows

theorem Narrows.trans {middle : Channel} (left : Narrows before middle)
    (right : Narrows middle after) : Narrows before after where
  toFramed := left.toFramed.trans right.toFramed
  data := right.data.trans left.data
  unread := fun position start stop =>
    let inside := right.unread position start stop
    left.unread position inside.1 inside.2

theorem narrows_bindNotifier (channel : Channel) (now : UInt64) (notifier : Option Notifier) :
    Narrows channel (channel.bindNotifier now notifier).2 := by
  have rebound : Narrows channel (channel.rebound notifier) :=
    ⟨channel.framed_rebound notifier, rfl, fun _ start stop => ⟨start, stop⟩⟩
  exact rebound.trans (channel.settles_bindNotifier now notifier).narrows

theorem SameUnread.of_narrows {data : Buffer} (same : before.SameUnread data)
    (narrows : Narrows before after) : after.SameUnread data where
  power := by rw [narrows.capacity]; exact same.power
  held := by rw [narrows.capacity, narrows.data]; exact same.held
  size := by rw [narrows.data]; exact same.size
  unread := fun position start stop => by
    obtain ⟨from_, upTo⟩ := narrows.unread position start stop
    rw [narrows.capacity, narrows.data]
    exact same.unread position from_ upTo

/-- Records that were written to both stand in both. -/
theorem SameUnread.of_wrote {records : List Record} {data : Buffer} (same : before.SameUnread data)
    (wrote : Wrote before records after)
    (room : before.page.used.toNat + (Record.stream records).length ≤ before.capacity.toNat) :
    after.SameUnread (ByteRing.fill before.capacity.toNat data before.page.head.toNat
      (Record.stream records)) := by
  have lap := before.capacity.toNat_lt
  have head : after.page.head.toNat =
      (before.page.head.toNat + (Record.stream records).length) % UInt64.size := by
    rw [wrote.head, UInt64.toNat_add, UInt64.toNat_ofNat', Nat.add_mod_mod]
  have used : before.page.used.toNat =
      (before.page.head.toNat + (UInt64.size - before.page.tail.toNat)) % UInt64.size := by
    rw [ControlPage.used, UInt64.toNat_sub, Nat.add_comm]
  have top := before.page.head.toNat_lt
  have bottom := before.page.tail.toNat_lt
  refine ⟨by rw [wrote.capacity]; exact same.power, ?_, ?_, fun position start stop => ?_⟩
  · rw [wrote.capacity, wrote.size]
    exact same.held
  · rw [wrote.size, ByteRing.size_fill]
    exact same.size
  · rw [wrote.tail] at start
    rw [head] at stop
    -- Where the head has wrapped, or had before, nothing is to be read.
    have size : UInt64.size = 18446744073709551616 := rfl
    rw [size] at used stop
    obtain ⟨behind, straight⟩ :
        before.page.tail.toNat + before.page.used.toNat = before.page.head.toNat ∧
          position < before.page.head.toNat + (Record.stream records).length := by omega
    rw [wrote.capacity, wrote.data]
    rcases Nat.lt_or_ge position before.page.head.toNat with old | new
    · have apart : ∀ i < (Record.stream records).length, position % before.capacity.toNat ≠
          (before.page.head.toNat + i) % before.capacity.toNat :=
        fun i hi => ByteRing.cell_ne (by omega) (by omega)
      rw [ByteRing.get?_fill_outside _ _ _ apart, ByteRing.get?_fill_outside _ _ _ apart]
      exact same.unread position start old
    · obtain ⟨i, rfl⟩ := Nat.exists_eq_add_of_le new
      rw [ByteRing.get?_fill_inside _ _ _ (by omega) (by rw [same.size]; exact same.held) (by omega),
        ByteRing.get?_fill_inside _ _ _ (by omega) same.held (by omega)]

theorem crossWatermarks_withData (channel : Channel) (data : Buffer) (now : UInt64) :
    (channel.withData data).crossWatermarks now =
      ((channel.crossWatermarks now).1, (channel.crossWatermarks now).2.withData data) := by
  have same : Edge.ofFill (channel.withData data).latched (channel.withData data).utilization
      (channel.withData data).page.hi (channel.withData data).page.lo =
    Edge.ofFill channel.latched channel.utilization channel.page.hi channel.page.lo := rfl
  unfold crossWatermarks
  dsimp only
  rw [same]
  cases Edge.ofFill channel.latched channel.utilization channel.page.hi channel.page.lo with
  | none => rfl
  | some edge => cases edge <;> rfl

theorem moveTail_withData (channel : Channel) (data : Buffer) (now position : UInt64) :
    (channel.withData data).moveTail now position =
      ((channel.moveTail now position).1, (channel.moveTail now position).2.withData data) := by
  rcases channel.between_or_outside position with ⟨ordered, within⟩ | outside
  · have crossed := crossWatermarks_withData (channel.withTail position) data now
    rw [moveTail_of_between now ordered within, @moveTail_of_between (channel.withData data) now _
      ordered within]
    exact congrArg (fun looked : _ × Channel => (Except.ok looked.1, looked.2)) crossed
  · rw [moveTail_of_outside now outside, @moveTail_of_outside (channel.withData data) now _ outside]
    rfl

theorem signal_withData (channel : Channel) (data : Buffer) (now : UInt64) (notifier : Notifier) :
    (channel.withData data).signal now notifier =
      ((channel.signal now notifier).1, (channel.signal now notifier).2.withData data) := by
  cases notifier with
  | counting number reaction =>
      cases reaction with
      | nothing => rfl
      | fail => rfl
      | drain =>
          have moved := moveTail_withData { channel with
            trace := channel.trace.push (.signalled (.counting number .drain))
            counts := channel.counts.modify number (· + 1) } data now channel.page.head
          exact congrArg (fun answer : _ × Channel => (Except.ok (), answer.2)) moved
      | reset => rfl
  | descriptor bell =>
      unfold signal
      dsimp only [withData]
      split
      · rfl
      · split <;> rfl

theorem fire_withData (channel : Channel) (data : Buffer) (now : UInt64) (notifier : Notifier)
    (times : Nat) :
    (channel.withData data).fire now notifier times =
      (channel.fire now notifier times).withData data := by
  induction times generalizing channel with
  | zero => rfl
  | succ times ih =>
      rw [fire, fire, signal_withData]
      obtain ⟨result, after⟩ := channel.signal now notifier
      cases result with
      | ok done => exact ih after
      | error cause => rfl

theorem deliver_withData (channel : Channel) (data : Buffer) (now : UInt64) :
    (channel.withData data).deliver now = (channel.deliver now).withData data := by
  obtain ⟨region, capacity, rate, tallies, latched, ⟨bound, pending⟩, counts, bells, trace⟩ := channel
  cases bound with
  | none => rfl
  | some notifier =>
      exact fire_withData ⟨region, capacity, rate, tallies, latched, ⟨some notifier, 0⟩, counts, bells,
        trace⟩ data now notifier pending

theorem notifyConsumer_withData (channel : Channel) (data : Buffer) (now : UInt64) :
    (channel.withData data).notifyConsumer now = (channel.notifyConsumer now).withData data :=
  deliver_withData { channel with
    trace := channel.trace.push .woken
    slot := { channel.slot with pending := channel.slot.pending + 1 } } data now

theorem evaluateWatermarks_withData (channel : Channel) (data : Buffer) (now : UInt64) :
    (channel.withData data).evaluateWatermarks now =
      (channel.evaluateWatermarks now).withData data := by
  rw [evaluateWatermarks, evaluateWatermarks, crossWatermarks_withData]
  obtain ⟨edge, after⟩ := channel.crossWatermarks now
  cases edge with
  | none => rfl
  | some edge =>
      cases edge with
      | rising => exact notifyConsumer_withData after data now
      | falling => rfl

theorem advanceTail_withData (channel : Channel) (data : Buffer) (now position : UInt64) :
    (channel.withData data).advanceTail now position =
      ((channel.advanceTail now position).1, (channel.advanceTail now position).2.withData data) := by
  rw [advanceTail, advanceTail, moveTail_withData]
  obtain ⟨result, after⟩ := channel.moveTail now position
  cases result with
  | error fault => rfl
  | ok edge =>
      cases edge with
      | none => rfl
      | some edge =>
          cases edge with
          | rising => exact congrArg (Prod.mk _) (notifyConsumer_withData after data now)
          | falling => rfl

theorem setWatermarks_withData (channel : Channel) (data : Buffer) (hi lo : UInt32) :
    (channel.withData data).setWatermarks hi lo =
      ((channel.setWatermarks hi lo).1, (channel.setWatermarks hi lo).2.withData data) := by
  unfold setWatermarks
  cases checkWatermarks hi lo <;> rfl

theorem setRate_withData (channel : Channel) (data : Buffer) (rate : UInt32) :
    (channel.withData data).setRate rate =
      ((channel.setRate rate).1, (channel.setRate rate).2.withData data) := by
  unfold setRate
  cases checkRate rate <;> rfl

theorem bindNotifier_withData (channel : Channel) (data : Buffer) (now : UInt64)
    (notifier : Option Notifier) :
    (channel.withData data).bindNotifier now notifier =
      ((channel.bindNotifier now notifier).1, (channel.bindNotifier now notifier).2.withData data) :=
  congrArg (Prod.mk _) (deliver_withData
    ((channel.rebound notifier).log (.notifierRebound notifier.isSome)) data now)

theorem noteDrop_withData (channel : Channel) (data : Buffer) (now need : UInt64) :
    (channel.withData data).noteDrop now need = (channel.noteDrop now need).withData data := by
  have same : (channel.withData data).page = channel.page := rfl
  rw [noteDrop, noteDrop, same]
  cases channel.page.isDropping <;> rfl

theorem writeRecord_withData (channel : Channel) (data : Buffer) (position : UInt64)
    (header : RecordHeader) (payload : Bytes) :
    ∃ other, (channel.withData data).writeRecord position header payload =
      ((channel.writeRecord position header payload).1,
        (channel.writeRecord position header payload).2.withData other) :=
  ⟨_, rfl⟩

theorem flushDropSummary_withData (channel : Channel) (data : Buffer) (position now : UInt64) :
    ∃ other, (channel.withData data).flushDropSummary position now =
      ((channel.flushDropSummary position now).1,
        (channel.flushDropSummary position now).2.withData other) :=
  ⟨_, rfl⟩

/-- Only the data ring tells where else a push was made. -/
theorem push_withData (channel : Channel) (data : Buffer) (now : UInt64) (payload : Bytes) :
    ∃ other, (channel.withData data).push now payload =
      ((channel.push now payload).1, (channel.push now payload).2.withData other) := by
  unfold push
  by_cases long : payload.length > channel.maxPayload.toNat
  · rw [if_pos long, if_pos (show payload.length > (channel.withData data).maxPayload.toNat from long)]
    exact ⟨data, rfl⟩
  · rw [if_neg long,
      if_neg (show ¬ payload.length > (channel.withData data).maxPayload.toNat from long)]
    have same : (channel.withData data).page = channel.page := rfl
    have free (need : UInt64) : (channel.withData data).reserve need = channel.reserve need := rfl
    simp only [same, free]
    split
    · exact ⟨data, congrArg (Prod.mk _) (noteDrop_withData channel data now _)⟩
    · rename_i head _
      cases channel.page.isDropping with
      | false =>
          obtain ⟨other, written⟩ := writeRecord_withData channel data head
            (.packet (UInt64.ofNat payload.length).toUInt32 now) payload
          simp only [Bool.false_eq_true, if_false, written, evaluateWatermarks_withData]
          exact ⟨other, rfl⟩
      | true =>
          obtain ⟨between, flushed⟩ := flushDropSummary_withData channel data head now
          simp only [if_true, flushed]
          obtain ⟨other, written⟩ := writeRecord_withData (channel.flushDropSummary head now).2 between
            (channel.flushDropSummary head now).1
            (.packet (UInt64.ofNat payload.length).toUInt32 now) payload
          simp only [written, evaluateWatermarks_withData]
          exact ⟨other, rfl⟩

/-- What a push leaves in the data ring: the records that it publishes behind the old head, or all as it
was. -/
theorem data_of_pushed {missed : Nat} {since now : UInt64} {payload : Bytes} {outcome : PushOutcome}
    (pushed : Pushed before missed since now payload outcome after) :
    after.region.data =
      if outcome = .written then
        ByteRing.fill before.capacity.toNat before.region.data before.page.head.toNat
          (Record.stream (Record.ofPush missed since now payload))
      else before.region.data := by
  cases pushed with
  | tooLarge long => exact (if_neg nofun).symm
  | dropped short full => exact (before.steady_noteDrop now _).data.trans (if_neg nofun).symm
  | written written short room wrote closed chronicle =>
      rw [(settles_evaluateWatermarks written now).narrows.data, wrote.data, if_pos rfl]

theorem framed_of_pushed {missed : Nat} {since now : UInt64} {payload : Bytes} {outcome : PushOutcome}
    (pushed : Pushed before missed since now payload outcome after) : Framed before after := by
  cases pushed with
  | tooLarge long => exact (Still.refl before).framed
  | dropped short full => exact (before.steady_noteDrop now _).toFramed
  | written written short room wrote closed chronicle =>
      exact wrote.toFramed.trans (settles_evaluateWatermarks written now).framed

/-- Two rings that agreed before a push agree behind it. -/
theorem SameUnread.of_push {channel : Channel} {data : Buffer} (same : channel.SameUnread data)
    (now : UInt64) (payload : Bytes) {other : Buffer}
    (answer : (channel.withData data).push now payload =
      ((channel.push now payload).1, (channel.push now payload).2.withData other)) :
    (channel.push now payload).2.SameUnread other := by
  have pushed := pushed_push same.power channel.misses_page now payload
  have found := data_of_pushed (@pushed_push (channel.withData data) same.power _ _
    (channel.withData data).misses_page now payload)
  rw [answer] at found
  change other = _ at found
  dsimp only at found
  rw [found]
  generalize channel.push now payload = done at pushed ⊢
  obtain ⟨outcome, after⟩ := done
  dsimp only at pushed ⊢
  cases pushed with
  | tooLarge long =>
      rw [if_neg nofun]
      exact same
  | dropped short full =>
      rw [if_neg nofun]
      exact same.of_narrows (channel.steady_noteDrop now _).narrows
  | written written short room wrote closed chronicle =>
      rw [if_pos rfl]
      exact (same.of_wrote wrote room).of_narrows (settles_evaluateWatermarks written now).narrows

end Channel

def Reader.blank (reader : Reader) : Reader :=
  { reader with packets := 0, lost := 0 }

@[simp] theorem Reader.blank_count (reader : Reader) (record : Record) :
    (reader.count record).blank = reader.blank := by
  cases record <;> rfl

theorem Reader.of_blank_eq {reader other : Reader} (alike : other.blank = reader.blank) :
    other.capacity = reader.capacity ∧ other.inProcess = reader.inProcess := by
  simpa [blank] using alike

namespace Channel

theorem recordAtTail_withData {channel : Channel} {data : Buffer} (same : channel.SameUnread data) :
    (channel.withData data).region.recordAtTail channel.capacity =
      channel.region.recordAtTail channel.capacity := by
  refine Region.recordAtTail_congr same.power same.held ?_ rfl rfl ?_
  · change _ ≤ data.size
    rw [same.size]
    exact same.held
  · refine ByteRing.stored_congr fun i hi => same.unread _ (Nat.le_add_right ..) ?_
    change i < channel.page.head.toNat - channel.page.tail.toNat at hi
    change channel.page.tail.toNat + i < _
    omega

/-- What is read is told by the bytes that are to be read, and not by what a reader has counted. -/
theorem read_withData {channel : Channel} {data : Buffer} (same : channel.SameUnread data)
    {reader other : Reader} (fits : reader.capacity = channel.capacity)
    (alike : other.blank = reader.blank) (now : UInt64) :
    ∃ counted, (channel.withData data).read now other =
        ((channel.read now reader).1, counted, (channel.read now reader).2.2.withData data) ∧
      counted.blank = reader.blank ∧ (channel.read now reader).2.1.blank = reader.blank := by
  obtain ⟨capacity, inProcess⟩ := Reader.of_blank_eq alike
  have look : (channel.withData data).region.recordAtTail other.capacity =
      channel.region.recordAtTail reader.capacity := by
    rw [capacity, fits]
    exact recordAtTail_withData same
  cases found : channel.region.recordAtTail reader.capacity with
  | record record =>
      rw [found] at look
      rw [read, read, Reader.take_of_record look, Reader.take_of_record found, inProcess]
      refine ⟨other.count record, ?_, by rw [Reader.blank_count, alike], reader.blank_count record⟩
      cases reader.inProcess with
      | false => rfl
      | true =>
          have looked := evaluateWatermarks_withData
            { channel with region := channel.region.release record } data now
          exact congrArg (fun after : Channel =>
            (ReadOutcome.record record, other.count record, after)) looked
  | corrupted place =>
      rw [found] at look
      simp only [read, Reader.take, look, found]
      exact ⟨other, rfl, alike, trivial⟩
  | nothing =>
      rw [found] at look
      simp only [read, Reader.take, look, found]
      exact ⟨other, rfl, alike, trivial⟩
  | overrun =>
      rw [found] at look
      simp only [read, Reader.take, look, found]
      exact ⟨other, rfl, alike, trivial⟩

theorem pollFor_withData {channel : Channel} {data : Buffer} (same : channel.SameUnread data)
    {reader other : Reader} (fits : reader.capacity = channel.capacity)
    (alike : other.blank = reader.blank) (now : UInt64) (fuel : Nat) :
    ∃ counted, (channel.withData data).pollFor now other fuel =
        ((channel.pollFor now reader fuel).1, (channel.pollFor now reader fuel).2.1, counted,
          (channel.pollFor now reader fuel).2.2.2.withData data) ∧
      counted.blank = reader.blank ∧
      (channel.pollFor now reader fuel).2.2.1.blank = reader.blank := by
  induction fuel generalizing channel reader other with
  | zero => exact ⟨other, rfl, alike, rfl⟩
  | succ fuel ih =>
      obtain ⟨counted, answer, countedAlike, kept⟩ := read_withData same fits alike now
      have settles := channel.settles_read now reader
      unfold pollFor
      rw [answer]
      generalize channel.read now reader = looked at settles kept ⊢
      obtain ⟨outcome, after, rest⟩ := looked
      dsimp only at settles kept ⊢
      cases outcome with
      | record record =>
          obtain ⟨last, polled, lastAlike, lastKept⟩ := ih (same.of_narrows settles.narrows)
            (by rw [settles.framed.capacity, ← fits]; exact (Reader.of_blank_eq kept).1)
            (countedAlike.trans kept.symm)
          dsimp only
          rw [polled]
          exact ⟨last, rfl, lastAlike.trans kept, lastKept.trans kept⟩
      | nothing => exact ⟨counted, rfl, countedAlike, kept⟩
      | corrupted place => exact ⟨counted, rfl, countedAlike, kept⟩
      | overrun => exact ⟨counted, rfl, countedAlike, kept⟩

/-- No signal is kept back. -/
def Idle (channel : Channel) : Prop :=
  channel.slot.pending = 0

theorem slot_crossWatermarks (channel : Channel) (now : UInt64) :
    (channel.crossWatermarks now).2.slot = channel.slot := by
  unfold crossWatermarks
  dsimp only
  split <;> rfl

theorem slot_moveTail (channel : Channel) (now position : UInt64) :
    (channel.moveTail now position).2.slot = channel.slot := by
  rcases channel.between_or_outside position with ⟨ordered, within⟩ | outside
  · rw [moveTail_of_between now ordered within]
    exact slot_crossWatermarks ..
  · rw [moveTail_of_outside now outside]

theorem slot_signal (channel : Channel) (now : UInt64) (notifier : Notifier) :
    (channel.signal now notifier).2.slot = channel.slot := by
  cases notifier with
  | counting number reaction =>
      cases reaction with
      | nothing => rfl
      | fail => rfl
      | drain => exact slot_moveTail ..
      | reset => rfl
  | descriptor bell =>
      unfold signal
      dsimp only
      split
      · rfl
      · split <;> rfl

theorem slot_fire (channel : Channel) (now : UInt64) (notifier : Notifier) (times : Nat) :
    (channel.fire now notifier times).slot = channel.slot := by
  induction times generalizing channel with
  | zero => rfl
  | succ times ih =>
      have first := slot_signal channel now notifier
      unfold fire
      split
      · rename_i after rings
        rw [rings] at first
        exact (ih after).trans first
      · rename_i cause after fails
        rw [fails] at first
        exact first

/-- Whoever is bound or not, nothing is kept back once signals are delivered. -/
theorem idle_deliver (channel : Channel) (now : UInt64) : (channel.deliver now).Idle := by
  unfold deliver
  dsimp only
  split
  · rfl
  · exact congrArg NotifierSlot.pending (slot_fire ..)

theorem idle_evaluateWatermarks {channel : Channel} (idle : channel.Idle) (now : UInt64) :
    (channel.evaluateWatermarks now).Idle := by
  have crossed := slot_crossWatermarks channel now
  unfold evaluateWatermarks
  split
  · exact idle_deliver ..
  · rename_i after _ rests
    rw [rests] at crossed
    exact (congrArg NotifierSlot.pending crossed).trans idle

theorem idle_advanceTail {channel : Channel} (idle : channel.Idle) (now position : UInt64) :
    (channel.advanceTail now position).2.Idle := by
  have moved := slot_moveTail channel now position
  unfold advanceTail
  split
  · rename_i same refused
    rw [refused] at moved
    exact (congrArg NotifierSlot.pending moved).trans idle
  · exact idle_deliver ..
  · rename_i after _ rests
    rw [rests] at moved
    exact (congrArg NotifierSlot.pending moved).trans idle

theorem idle_setWatermarks {channel : Channel} (idle : channel.Idle) (hi lo : UInt32) :
    (channel.setWatermarks hi lo).2.Idle := by
  unfold setWatermarks
  split <;> exact idle

theorem idle_setRate {channel : Channel} (idle : channel.Idle) (rate : UInt32) :
    (channel.setRate rate).2.Idle := by
  unfold setRate
  split <;> exact idle

theorem idle_push {channel : Channel} (idle : channel.Idle) (now : UInt64) (payload : Bytes) :
    (channel.push now payload).2.Idle := by
  unfold push
  split
  · exact idle
  · dsimp only
    split
    · unfold noteDrop
      cases channel.page.isDropping <;> exact idle
    · refine idle_evaluateWatermarks ?_ now
      cases channel.page.isDropping <;> exact idle

theorem idle_read {channel : Channel} (idle : channel.Idle) (now : UInt64) (reader : Reader) :
    (channel.read now reader).2.2.Idle := by
  unfold read
  split
  · dsimp only
    split
    · rename_i record counted region _ inProcess
      exact @idle_evaluateWatermarks { channel with region } idle now
    · exact idle
  · exact idle
  · exact idle

theorem idle_pollFor {channel : Channel} (idle : channel.Idle) (now : UInt64) (reader : Reader)
    (fuel : Nat) : (channel.pollFor now reader fuel).2.2.2.Idle := by
  induction fuel generalizing channel reader with
  | zero => exact idle
  | succ fuel ih =>
      have first := idle_read idle now reader
      unfold pollFor
      split
      · rename_i record counted after found
        rw [found] at first
        exact ih first counted
      · rename_i same after found
        rw [found] at first
        exact first
      · rename_i place same after found
        rw [found] at first
        exact first
      · rename_i same after found
        rw [found] at first
        exact first

/-- Something that is done to a ring, where stale bytes decide nothing: neither the answer, nor what
becomes of the ring. -/
structure Blind {α : Type} (act : Channel → α × Channel) : Prop where
  alike : ∀ {channel : Channel} {data : Buffer}, channel.SameUnread data →
    ∃ other, act (channel.withData data) = ((act channel).1, (act channel).2.withData other) ∧
      (act channel).2.SameUnread other
  framed : ∀ channel : Channel, isPowerOfTwo channel.capacity = true →
    Framed channel (act channel).2
  idle : ∀ channel : Channel, channel.Idle → (act channel).2.Idle

namespace Blind

variable {α β : Type} {act : Channel → α × Channel}

/-- An act that writes no byte is blind if it does the same over every data ring. -/
theorem of_narrows
    (same : ∀ (channel : Channel) (data : Buffer),
      act (channel.withData data) = ((act channel).1, (act channel).2.withData data))
    (narrows : ∀ channel, Narrows channel (act channel).2)
    (idle : ∀ channel, channel.Idle → (act channel).2.Idle) : Blind act where
  alike := fun {channel data} unread => ⟨data, same channel data, unread.of_narrows (narrows channel)⟩
  framed := fun channel _ => (narrows channel).toFramed
  idle := idle

/-- A look at a ring, by what is not in its data. -/
theorem of_look {look : Channel → α}
    (same : ∀ (channel : Channel) (data : Buffer), look (channel.withData data) = look channel) :
    Blind fun channel => (look channel, channel) :=
  of_narrows (fun channel data => congrArg (·, channel.withData data) (same channel data))
    (fun channel => (Still.refl channel).narrows) (fun _ => id)

theorem map (blind : Blind act) (answer : α → β) :
    Blind fun channel => (answer (act channel).1, (act channel).2) where
  alike := fun unread => by
    obtain ⟨other, same, after⟩ := blind.alike unread
    exact ⟨other, by rw [same], after⟩
  framed := blind.framed
  idle := blind.idle

/-- One act after another, of which both answers are kept. -/
theorem andThen (blind : Blind act) {more : Channel → β × Channel} (next : Blind more) :
    Blind fun channel => (((act channel).1, (more (act channel).2).1), (more (act channel).2).2) where
  alike := fun unread => by
    obtain ⟨between, same, middle⟩ := blind.alike unread
    obtain ⟨other, sameNext, after⟩ := next.alike middle
    exact ⟨other, by rw [same, sameNext], after⟩
  framed := fun channel power => by
    have first := blind.framed channel power
    exact first.trans (next.framed _ (by rw [first.capacity]; exact power))
  idle := fun channel idle => next.idle _ (blind.idle channel idle)

end Blind

theorem blind_push (now : UInt64) (payload : Bytes) :
    Blind fun channel => channel.push now payload where
  alike := fun {channel data} unread => by
    obtain ⟨other, answer⟩ := push_withData channel data now payload
    exact ⟨other, answer, unread.of_push now payload answer⟩
  framed := fun channel power =>
    framed_of_pushed (pushed_push power channel.misses_page now payload)
  idle := fun _ idle => idle_push idle now payload

theorem blind_pushTimes (now : UInt64) (payload : Bytes) (times : Nat) :
    Blind fun channel => channel.pushTimes now payload times := by
  induction times with
  | zero => exact .of_look fun _ _ => rfl
  | succ times ih =>
      exact ((blind_push now payload).andThen ih).map fun answers => answers.1 :: answers.2

theorem blind_advanceTail (now position : UInt64) :
    Blind fun channel => channel.advanceTail now position :=
  .of_narrows (fun channel data => advanceTail_withData channel data now position)
    (fun channel => (channel.settles_advanceTail now position).narrows)
    (fun _ idle => idle_advanceTail idle now position)

theorem blind_setWatermarks (hi lo : UInt32) :
    Blind fun channel => channel.setWatermarks hi lo :=
  .of_narrows (fun channel data => setWatermarks_withData channel data hi lo)
    (fun channel => (channel.kept_setWatermarks hi lo).toSteady.narrows)
    (fun _ idle => idle_setWatermarks idle hi lo)

theorem blind_setRate (rate : UInt32) : Blind fun channel => channel.setRate rate :=
  .of_narrows (fun channel data => setRate_withData channel data rate)
    (fun channel => (channel.kept_setRate rate).toSteady.narrows)
    (fun _ idle => idle_setRate idle rate)

theorem blind_reset : Blind fun channel => ((), channel.reset) :=
  .of_narrows (fun _ _ => rfl)
    (fun channel => channel.cleared_reset.narrows)
    (fun _ idle => idle)

/-- Something that a reader does to the ring, where neither stale bytes nor what the reader has counted
decide anything, and no byte is written. -/
structure BlindReading {α : Type} (act : Channel → Reader → α × Reader × Channel) : Prop where
  alike : ∀ {channel : Channel} {data : Buffer} {reader other : Reader}, channel.SameUnread data →
    reader.capacity = channel.capacity → other.blank = reader.blank →
      ∃ counted, act (channel.withData data) other =
          ((act channel reader).1, counted, (act channel reader).2.2.withData data) ∧
        counted.blank = reader.blank ∧ (act channel reader).2.1.blank = reader.blank
  narrows : ∀ (channel : Channel) (reader : Reader), Narrows channel (act channel reader).2.2
  idle : ∀ (channel : Channel) (reader : Reader), channel.Idle → (act channel reader).2.2.Idle

theorem blindReading_read (now : UInt64) :
    BlindReading fun channel reader => channel.read now reader where
  alike := fun unread fits alike => read_withData unread fits alike now
  narrows := fun channel reader => (channel.settles_read now reader).narrows
  idle := fun _ reader idle => idle_read idle now reader

theorem blindReading_poll (now : UInt64) :
    BlindReading fun channel reader =>
      (((channel.poll now reader).1, (channel.poll now reader).2.1), (channel.poll now reader).2.2) where
  alike := fun {channel data reader other} unread fits alike => by
    obtain ⟨counted, polled, blankOther, blank⟩ :=
      pollFor_withData unread fits alike now (Reader.pollFuel channel.page)
    have answer : (channel.withData data).poll now other = _ := polled
    exact ⟨counted, by rw [answer]; rfl, blankOther, blank⟩
  narrows := fun channel reader => (channel.settles_poll now reader).narrows
  idle := fun _ reader idle => idle_pollFor idle now reader _

end Channel

end RecordRing
