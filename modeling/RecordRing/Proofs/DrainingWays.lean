import RecordRing.Proofs.WholeRecords

set_option autoImplicit false

namespace RecordRing

namespace Channel

/-- Equal but for the lines of the log. -/
structure Alike (left right : Channel) : Prop where
  state : { left with trace := right.trace } = right
  signals : left.signals = right.signals

theorem Alike.refl (channel : Channel) : Alike channel channel :=
  ⟨rfl, rfl⟩

theorem Alike.symm {left right : Channel} (alike : Alike left right) : Alike right left :=
  ⟨by rw [← alike.state], alike.signals.symm⟩

theorem Alike.trans {first middle last : Channel} (left : Alike first middle)
    (right : Alike middle last) : Alike first last :=
  ⟨by rw [← right.state, ← left.state], left.signals.trans right.signals⟩

theorem Alike.region {left right : Channel} (alike : Alike left right) :
    left.region = right.region := by
  rw [← alike.state]

theorem Alike.capacity {left right : Channel} (alike : Alike left right) :
    left.capacity = right.capacity := by
  rw [← alike.state]

theorem alike_log (channel : Channel) (event : Event) : Alike (channel.log event) channel :=
  ⟨rfl, (signals_push _ (.logged event)).trans (List.append_nil _)⟩

def withGauge (channel : Channel) (gauge : Gauge) : Channel :=
  { channel with
    latched := gauge.latched
    tallies := { channel.tallies with
      highCrossed := gauge.highCrossed
      lowCrossed := gauge.lowCrossed } }

/-- A look at the latch changes the gauge and the log. -/
theorem alike_crossWatermarks (channel : Channel) (now : UInt64) :
    Alike (channel.crossWatermarks now).2 (channel.withGauge
      (channel.gauge.note channel.page.hi channel.page.lo now channel.utilization)) := by
  refine ⟨?_, (channel.hushed_crossWatermarks now).signals⟩
  unfold crossWatermarks Gauge.note
  dsimp only [gauge]
  cases Edge.ofFill channel.latched channel.utilization channel.page.hi channel.page.lo with
  | none => rfl
  | some edge => cases edge <;> rfl

/-- The channel with its tail moved on, before anyone looks at the latch. -/
def passed (channel : Channel) (count : Nat) : Channel :=
  { channel with region := channel.region.passed count }

def drained (channel : Channel) (now : UInt64) (count : Nat) : Channel :=
  ((channel.passed count).crossWatermarks now).2

variable {channel : Channel} {hi lo : UInt32} {now : UInt64} {count : Nat}
  {front rest : List Record}

theorem Alike.passed {left right : Channel} (alike : Alike left right) (count : Nat) :
    Alike (left.passed count) (right.passed count) := by
  rw [← alike.state]
  exact ⟨rfl, alike.signals⟩

theorem Alike.withGauge {left right : Channel} (alike : Alike left right) (gauge : Gauge) :
    Alike (left.withGauge gauge) (right.withGauge gauge) := by
  rw [← alike.state]
  exact ⟨rfl, alike.signals⟩

/-- Besides the log, the tail and the gauge are all that changes. -/
theorem alike_drained (channel : Channel) (now : UInt64) (count : Nat) :
    Alike (channel.drained now count)
      ((channel.passed count).withGauge (channel.drained now count).gauge) := by
  rw [drained, gauge_crossWatermarks]
  exact (channel.passed count).alike_crossWatermarks now

theorem region_drained (channel : Channel) (now : UInt64) (count : Nat) :
    (channel.drained now count).region = channel.region.passed count :=
  ((channel.passed count).still_crossWatermarks now).region

theorem capacity_drained (channel : Channel) (now : UInt64) (count : Nat) :
    (channel.drained now count).capacity = channel.capacity :=
  ((channel.passed count).still_crossWatermarks now).capacity

/-- The records behind the new tail are left. -/
theorem Lined.drained (lined : channel.Lined (front ++ rest)) (now : UInt64) :
    (channel.drained now (Record.stream front).length).Lined rest :=
  lined.passed (capacity_drained ..) (region_drained ..)

/-- A tail moved on over records that wait is a fill that has not grown. -/
theorem Lined.hushed_passed (lined : channel.Lined (front ++ rest)) :
    Hushed channel (channel.passed (Record.stream front).length) := by
  have passed : (channel.passed (Record.stream front).length).Lined rest := lined.passed rfl rfl
  refine ⟨⟨rfl, rfl, rfl, rfl, ?_⟩, rfl, rfl⟩
  rw [UInt64.le_iff_toNat_le, passed.toNat_used, lined.toNat_used, Record.stream_append,
    List.length_append]
  exact Nat.le_add_left ..

theorem Lined.drains (lined : channel.Lined (front ++ rest)) (gauged : channel.Gauged hi lo)
    (now : UInt64) :
    ((channel.passed (Record.stream front).length).crossWatermarks now).1 ≠ some .rising ∧
      Drained hi lo now true channel (channel.drained now (Record.stream front).length) :=
  drained_crossWatermarks gauged lined.hushed_passed rfl

/-- Where a look at the fill would find nothing, a tail that stays leaves all as it is. -/
theorem drained_zero (fits : channel.gauge.Fits channel.page.hi channel.page.lo channel.utilization)
    (now : UInt64) : Alike channel (channel.drained now 0) := by
  have same : channel.passed 0 = channel := by
    rw [passed, Region.passed_zero]
  have looked := channel.alike_crossWatermarks now
  rw [Gauge.note_of_fits fits] at looked
  rw [Channel.drained, same]
  exact looked.symm

/-- To drain some records and then others is to drain them all at once. -/
theorem drained_drained {next : List Record} (lined : channel.Lined (front ++ (next ++ rest)))
    (gauged : channel.Gauged hi lo) (apart : lo < hi) (now : UInt64) :
    Alike
      ((channel.drained now (Record.stream front).length).drained now (Record.stream next).length)
      (channel.drained now (Record.stream (front ++ next)).length) := by
  have first := (lined.drains gauged now).2
  have gaugedNext := first.gauged gauged apart
  have second := ((lined.drained now).drains gaugedNext now).2
  have both := first.trans gauged apart second
  have whole : channel.Lined ((front ++ next) ++ rest) := by
    rw [List.append_assoc]
    exact lined
  have once := (whole.drains gauged now).2
  generalize moved : channel.drained now (Record.stream front).length = middle at *
  have total : (Record.stream (front ++ next)).length =
      (Record.stream front).length + (Record.stream next).length := by
    rw [Record.stream_append, List.length_append]
  have region : (middle.drained now (Record.stream next).length).region =
      (channel.drained now (Record.stream (front ++ next)).length).region := by
    rw [region_drained, region_drained, ← moved, region_drained, Region.passed_passed, total]
  have capacity : (middle.drained now (Record.stream next).length).capacity =
      (channel.drained now (Record.stream (front ++ next)).length).capacity := by
    rw [capacity_drained, capacity_drained, ← moved, capacity_drained]
  have level : (middle.drained now (Record.stream next).length).utilization =
      (channel.drained now (Record.stream (front ++ next)).length).utilization := by
    rw [utilization, utilization, capacity]
    exact congrArg (fun region : Region => RecordRing.utilization region.page.used _) region
  have gauge : (middle.drained now (Record.stream next).length).gauge =
      (channel.drained now (Record.stream (front ++ next)).length).gauge := by
    rw [both.gauge, once.gauge, level]
  -- Two moves of the tail are one, and the gauge that the first of them left is replaced.
  have joined : Alike ((middle.passed (Record.stream next).length).withGauge
        (channel.drained now (Record.stream (front ++ next)).length).gauge)
      ((channel.passed (Record.stream (front ++ next)).length).withGauge
        (channel.drained now (Record.stream (front ++ next)).length).gauge) := by
    have inner := ((channel.alike_drained now (Record.stream front).length).passed
      (Record.stream next).length).withGauge
        (channel.drained now (Record.stream (front ++ next)).length).gauge
    rw [moved] at inner
    refine inner.trans ⟨?_, rfl⟩
    rw [passed, passed, passed, total, ← Region.passed_passed]
    rfl
  have left := middle.alike_drained now (Record.stream next).length
  rw [gauge] at left
  exact (left.trans joined).trans (channel.alike_drained now _).symm

/-- Reading in the process of the producer drains the first record that waits. -/
theorem Lined.read_eq {record : Record} (lined : channel.Lined (record :: rest))
    (ordered : channel.page.tail ≤ channel.page.head) (gauged : channel.Gauged hi lo)
    {reader : Reader} (sized : reader.capacity = channel.capacity)
    (inProcess : reader.inProcess = true) (now : UInt64) :
    channel.read now reader =
      (.record record, reader.count record, channel.drained now (Record.stream [record]).length) := by
  have found := lined.found ordered
  rw [← sized] at found
  obtain ⟨quiet, -⟩ := @Lined.drains channel hi lo [record] rest lined gauged now
  simp only [read, Reader.take_of_record found, inProcess, if_true, lined.release_eq]
  exact congrArg (fun after => (_, _, after)) (evaluateWatermarks_of_not_rising quiet)

/-- Where the cursors are in order, the end of a record that waits lies between them. -/
theorem Lined.between (lined : channel.Lined (front ++ rest))
    (ordered : channel.page.tail ≤ channel.page.head) :
    channel.page.tail ≤ channel.page.tail + UInt64.ofNat (Record.stream front).length ∧
      channel.page.tail + UInt64.ofNat (Record.stream front).length ≤ channel.page.head := by
  have used := ControlPage.toNat_used ordered
  have top := channel.page.head.toNat_lt
  rw [lined.toNat_used, Record.stream_append, List.length_append] at used
  rw [UInt64.le_iff_toNat_le] at ordered
  have position : (channel.page.tail + UInt64.ofNat (Record.stream front).length).toNat =
      channel.page.tail.toNat + (Record.stream front).length := by
    rw [UInt64.toNat_add, UInt64.toNat_ofNat', Nat.add_mod_mod]
    exact Nat.mod_eq_of_lt (by omega)
  rw [UInt64.le_iff_toNat_le, UInt64.le_iff_toNat_le, position]
  omega

/-- The control surface drains as many of them as it is asked for. -/
theorem Lined.advanceTail_eq (lined : channel.Lined (front ++ rest))
    (ordered : channel.page.tail ≤ channel.page.head) (gauged : channel.Gauged hi lo)
    (now : UInt64) :
    channel.advanceTail now
        (channel.page.tail + UInt64.ofNat (Record.stream front).length) =
      (.ok (), channel.drained now (Record.stream front).length) := by
  obtain ⟨quiet, -⟩ := lined.drains gauged now
  obtain ⟨forward, within⟩ := lined.between ordered
  have moved : channel.withTail
      (channel.page.tail + UInt64.ofNat (Record.stream front).length) =
        channel.passed (Record.stream front).length := rfl
  rw [advanceTail, moveTail_of_between now forward within, moved, Channel.drained]
  generalize (channel.passed (Record.stream front).length).crossWatermarks now = found at quiet
  obtain ⟨edge, crossed⟩ := found
  cases edge with
  | none => rfl
  | some edge =>
      cases edge with
      | rising => exact absurd rfl quiet
      | falling => rfl

inductive Takes (now : UInt64) : Channel → Reader → List Record → Channel → Reader → Prop
  | none (channel : Channel) (reader : Reader) : Takes now channel reader [] channel reader
  | one {channel after last : Channel} {reader finished : Reader} {record : Record}
      {records : List Record}
      (read : channel.read now reader = (.record record, reader.count record, after))
      (takes : Takes now after (reader.count record) records last finished) :
      Takes now channel reader (record :: records) last finished

/-- To read records one after another is to drain them all at once. -/
theorem Lined.takes (lined : channel.Lined (front ++ rest))
    (ordered : channel.page.tail ≤ channel.page.head) (gauged : channel.Gauged hi lo)
    (fits : channel.gauge.Fits hi lo channel.utilization) (apart : lo < hi) {reader : Reader}
    (sized : reader.capacity = channel.capacity) (inProcess : reader.inProcess = true)
    (now : UInt64) :
    ∃ last, Takes now channel reader front last (front.foldl Reader.count reader) ∧
      Alike last (channel.drained now (Record.stream front).length) := by
  induction front generalizing channel reader with
  | nil =>
      refine ⟨channel, .none channel reader, drained_zero ?_ now⟩
      rw [gauged.high, gauged.low]
      exact fits
  | cons record front ih =>
      have read := lined.read_eq ordered gauged sized inProcess now
      have first := (@Lined.drains channel hi lo [record] (front ++ rest) lined gauged now).2
      have left := @Lined.drained channel [record] (front ++ rest) lined now
      have settled : (channel.drained now (Record.stream [record]).length).gauge.Fits hi lo
          (channel.drained now (Record.stream [record]).length).utilization := by
        rw [first.gauge]
        exact Gauge.fits_note apart now
      have next : (channel.drained now (Record.stream [record]).length).page.tail ≤
          (channel.drained now (Record.stream [record]).length).page.head := by
        rw [Channel.page, region_drained]
        exact (@Lined.between channel [record] (front ++ rest) lined ordered).2
      obtain ⟨last, takes, alike⟩ := ih left next (first.gauged gauged apart) settled
        ((reader.capacity_count record).trans (sized.trans (capacity_drained ..).symm))
        ((inProcess_count reader record).trans inProcess)
      refine ⟨last, .one read takes, alike.trans ?_⟩
      exact @drained_drained channel hi lo [record] rest front lined gauged apart now

/-- Where nothing waits, nothing is found. -/
theorem Lined.read_nil (lined : channel.Lined []) (now : UInt64) (reader : Reader) :
    channel.read now reader = (.nothing, reader, channel) := by
  have empty : channel.region.page.tail = channel.region.page.head :=
    (lined.head_eq.trans (UInt64.add_zero _)).symm
  have look := Region.recordAtTail_of_eq reader.capacity empty
  have taken : reader.take channel.region = _ :=
    Reader.take_of_not_record (by rw [look]; nofun)
  rw [look] at taken
  rw [read, taken]

/-- A poll that ends behind the last record has read them all. -/
theorem Takes.pollFor {last : Channel} {reader finished : Reader} {records : List Record}
    (takes : Takes now channel reader records last finished)
    (stops : last.read now finished = (.nothing, finished, last)) {fuel : Nat}
    (enough : records.length < fuel) :
    channel.pollFor now reader fuel = (.drained, records, finished, last) := by
  induction takes generalizing fuel with
  | none channel reader =>
      obtain ⟨fuel, rfl⟩ := Nat.exists_eq_succ_of_ne_zero (Nat.ne_of_gt enough)
      rw [Channel.pollFor, stops]
  | one read takes ih =>
      obtain ⟨fuel, rfl⟩ := Nat.exists_eq_succ_of_ne_zero
        (Nat.ne_of_gt (Nat.lt_of_le_of_lt (Nat.zero_le _) enough))
      rw [List.length_cons] at enough
      rw [Channel.pollFor, read]
      simp only [ih stops (Nat.lt_of_succ_lt_succ enough)]

/-- Where the head has gone past the last word and the tail has not, no record is found. -/
theorem read_of_astray (astray : ¬ channel.page.tail ≤ channel.page.head) (now : UInt64)
    (reader : Reader) :
    ∃ place, channel.read now reader =
      (.corrupted place, reader, channel.log (.desynchronised place)) := by
  have look := @Region.recordAtTail_of_not_spanned channel.region reader.capacity
    (fun spanned => astray spanned.1)
  have taken : reader.take channel.region = _ :=
    Reader.take_of_not_record (by rw [look]; nofun)
  rw [look] at taken
  rw [read, taken]
  exact ⟨_, rfl⟩

/-- Nor is the tail moved. -/
theorem advanceTail_of_astray (astray : ¬ channel.page.tail ≤ channel.page.head)
    (now position : UInt64) :
    ∃ error, channel.advanceTail now position = (.error error, channel) := by
  have outside : channel.page.head < position ∨ position < channel.page.tail := by
    rcases channel.between_or_outside position with ⟨ordered, within⟩ | outside
    · exact absurd (UInt64.le_trans ordered within) astray
    · exact outside
  rw [advanceTail, moveTail_of_outside now outside]
  exact ⟨_, rfl⟩

end Channel

namespace Session

/-- Tidy commands that leave the watermarks as they were made, from handles in the process of the
producer. -/
structure Homely (session : Session) (command : Command) : Prop extends Tidy session command where
  marks : ∀ hi lo, command ≠ .setWatermarks hi lo
  inside : ∀ number reader, command = .read number ∨ command = .poll number →
    session.readers[number]? = some reader → reader.inProcess = true

def readTimes (session : Session) (number : Nat) (time : UInt64) : Nat → List Reply × Session
  | 0 => ([], session)
  | times + 1 =>
      let (reply, after) := session.step (some time) (.read number)
      let (replies, last) := after.readTimes number time times
      (reply :: replies, last)

/-- These first records that wait can be read one after another, or the tail can be moved behind them at
once: the two rings are equal but for lines of the log, and no notifier is asked. -/
structure DrainsAlike (session : Session) (channel : Channel) (number : Nat) (reader : Reader)
    (time : UInt64) (front : List Record) : Prop where
  ring : ∃ read moved,
    (session.readTimes number time front.length).2.channel? = some read ∧
      (session.step (some time) (.advanceTail
        (channel.page.tail + UInt64.ofNat (Record.stream front).length))).2.channel? =
          some moved ∧
      read.Alike moved ∧ moved.signals = channel.signals ∧
      (channel.page.tail ≤ channel.page.head →
        moved.region = channel.region.passed (Record.stream front).length)
  /-- The readers differ in what the one that read has counted. -/
  readers : channel.page.tail ≤ channel.page.head →
    (session.readTimes number time front.length).2.readers =
      session.readers.setIfInBounds number (front.foldl Reader.count reader)
  found : channel.page.tail ≤ channel.page.head →
    (session.readTimes number time front.length).1 = front.map fun record => .read (.record record)
  moved : channel.page.tail ≤ channel.page.head →
    (session.step (some time) (.advanceTail
      (channel.page.tail + UInt64.ofNat (Record.stream front).length))).1 = .done

/-- All records that wait can be polled as well, or the tail can be moved behind them at once. -/
structure PollsAlike (session : Session) (channel : Channel) (number : Nat) (reader : Reader)
    (time : UInt64) (waiting : List Record) : Prop where
  ring : ∃ polled moved,
    (session.step (some time) (.poll number)).2.channel? = some polled ∧
      (session.step (some time) (.advanceTail
        (channel.page.tail + UInt64.ofNat (Record.stream waiting).length))).2.channel? =
          some moved ∧
      polled.Alike moved
  readers : channel.page.tail ≤ channel.page.head →
    (session.step (some time) (.poll number)).2.readers =
      session.readers.setIfInBounds number (waiting.foldl Reader.count reader)
  found : channel.page.tail ≤ channel.page.head →
    (session.step (some time) (.poll number)).1 = .polled .drained waiting

variable {session : Session} {channel last : Channel} {named : Bool} {number : Nat}
  {reader finished : Reader} {time : UInt64} {records waiting : List Record} {hi lo : UInt32}

theorem readTimes_of_takes (takes : channel.Takes time reader records last finished)
    (store : session.store = .ring channel named)
    (found : session.readers[number]? = some reader) :
    (session.readTimes number time records.length).1 =
        records.map (fun record => .read (.record record)) ∧
      (session.readTimes number time records.length).2.store = .ring last named ∧
      (session.readTimes number time records.length).2.readers =
        session.readers.setIfInBounds number finished := by
  induction takes generalizing session with
  | none channel reader =>
      refine ⟨rfl, store, ?_⟩
      obtain ⟨inside, rfl⟩ := Array.getElem?_eq_some_iff.mp found
      rw [Array.setIfInBounds, dif_pos inside]
      exact (Array.set_getElem_self inside).symm
  | @one channel after last reader finished record records read takes ih =>
      have answer := step_read store found time
      rw [read] at answer
      obtain ⟨replies, store, readers⟩ := @ih (session.step (some time) (.read number)).2
        (by rw [answer]) (by rw [answer]; exact getElem?_setIfInBounds_of_found found _)
      refine ⟨?_, store, ?_⟩
      · rw [List.length_cons, readTimes, List.map_cons, ← replies, answer]
      · rw [List.length_cons, readTimes]
        dsimp only
        rw [readers, answer]
        exact Array.setIfInBounds_setIfInBounds ..

/-- In front of cursors that are out of order, reading again and again changes nothing. -/
theorem readTimes_of_astray (astray : ¬ channel.page.tail ≤ channel.page.head)
    (store : session.store = .ring channel named)
    (found : session.readers[number]? = some reader) (times : Nat) :
    ∃ last, (session.readTimes number time times).2.store = .ring last named ∧
      last.Alike channel := by
  induction times generalizing session channel with
  | zero => exact ⟨channel, store, .refl channel⟩
  | succ times ih =>
      obtain ⟨place, read⟩ := Channel.read_of_astray astray time reader
      have answer := step_read store found time
      rw [read] at answer
      obtain ⟨last, store, alike⟩ := @ih (session.step (some time) (.read number)).2
        (channel.log (.desynchronised place)) astray (by rw [answer])
        (by rw [answer]; exact getElem?_setIfInBounds_of_found found _)
      exact ⟨last, store, alike.trans (channel.alike_log _)⟩

variable {front rest : List Record}

theorem channel?_of_store (store : session.store = .ring channel named) :
    session.channel? = some channel := by
  rw [channel?, store]

theorem drainsAlike_of_ordered (store : session.store = .ring channel named)
    (found : session.readers[number]? = some reader) (sized : reader.capacity = channel.capacity)
    (inProcess : reader.inProcess = true) (lined : channel.Lined (front ++ rest))
    (gauged : channel.Gauged hi lo) (fits : channel.gauge.Fits hi lo channel.utilization)
    (apart : lo < hi) (ordered : channel.page.tail ≤ channel.page.head) (time : UInt64) :
    session.DrainsAlike channel number reader time front := by
  obtain ⟨last, takes, alike⟩ := lined.takes ordered gauged fits apart sized inProcess time
  obtain ⟨replies, left, readers⟩ := readTimes_of_takes takes store found
  have quiet := (lined.drains gauged time).2.hushed.signals
  have moved := channel.region_drained time (Record.stream front).length
  have answer := step_advanceTail store time
    (channel.page.tail + UInt64.ofNat (Record.stream front).length)
  rw [lined.advanceTail_eq ordered gauged time] at answer
  refine ⟨⟨last, _, channel?_of_store left, ?_, alike, quiet, fun _ => moved⟩, fun _ => readers,
    fun _ => replies, fun _ => by rw [answer]; rfl⟩
  rw [answer]
  rfl

theorem drainsAlike_of_astray (store : session.store = .ring channel named)
    (found : session.readers[number]? = some reader)
    (astray : ¬ channel.page.tail ≤ channel.page.head) (time : UInt64) (front : List Record) :
    session.DrainsAlike channel number reader time front := by
  obtain ⟨last, left, alike⟩ := @readTimes_of_astray session channel named number reader time
    astray store found front.length
  have answer := step_advanceTail store time
    (channel.page.tail + UInt64.ofNat (Record.stream front).length)
  obtain ⟨error, refused⟩ := Channel.advanceTail_of_astray astray time
    (channel.page.tail + UInt64.ofNat (Record.stream front).length)
  rw [refused] at answer
  refine ⟨⟨last, channel, channel?_of_store left, ?_, alike, rfl, fun ordered => absurd ordered astray⟩,
    fun ordered => absurd ordered astray, fun ordered => absurd ordered astray,
    fun ordered => absurd ordered astray⟩
  rw [answer]
  rfl

theorem pollsAlike_of_ordered (store : session.store = .ring channel named)
    (found : session.readers[number]? = some reader) (sized : reader.capacity = channel.capacity)
    (inProcess : reader.inProcess = true) (lined : channel.Lined waiting)
    (gauged : channel.Gauged hi lo) (fits : channel.gauge.Fits hi lo channel.utilization)
    (apart : lo < hi) (ordered : channel.page.tail ≤ channel.page.head) (time : UInt64) :
    session.PollsAlike channel number reader time waiting := by
  have whole : channel.Lined (waiting ++ []) := by
    rw [List.append_nil]
    exact lined
  obtain ⟨last, takes, alike⟩ := whole.takes ordered gauged fits apart sized inProcess time
  have stops := ((whole.drained time).of_region alike.capacity alike.region).read_nil time
    (waiting.foldl Reader.count reader)
  have few := Record.length_le_length_stream waiting
  have used := lined.toNat_used
  simp only [RecordHeader.size] at few
  have polled := takes.pollFor stops
    (by rw [Reader.pollFuel]; omega : waiting.length < Reader.pollFuel channel.page)
  have read := step_poll store found time
  rw [Channel.poll, polled] at read
  have answer := step_advanceTail store time
    (channel.page.tail + UInt64.ofNat (Record.stream waiting).length)
  rw [whole.advanceTail_eq ordered gauged time] at answer
  refine ⟨⟨last, _, ?_, ?_, alike⟩, fun _ => by rw [read], fun _ => by rw [read]⟩
  · rw [read]
    rfl
  · rw [answer]
    rfl

theorem pollsAlike_of_astray (store : session.store = .ring channel named)
    (found : session.readers[number]? = some reader)
    (astray : ¬ channel.page.tail ≤ channel.page.head) (time : UInt64) (waiting : List Record) :
    session.PollsAlike channel number reader time waiting := by
  obtain ⟨place, stops⟩ := Channel.read_of_astray astray time reader
  have read := step_poll store found time
  have polled : channel.poll time reader =
      (.corrupted place, [], reader, channel.log (.desynchronised place)) := by
    rw [Channel.poll, Reader.pollFuel, Channel.pollFor, stops]
  rw [polled] at read
  have answer := step_advanceTail store time
    (channel.page.tail + UInt64.ofNat (Record.stream waiting).length)
  obtain ⟨error, refused⟩ := Channel.advanceTail_of_astray astray time
    (channel.page.tail + UInt64.ofNat (Record.stream waiting).length)
  rw [refused] at answer
  refine ⟨⟨_, channel, ?_, ?_, channel.alike_log (.desynchronised place)⟩,
    fun ordered => absurd ordered astray, fun ordered => absurd ordered astray⟩
  · rw [read]
    rfl
  · rw [answer]
    rfl

variable {origin : Origin} {plan : RingPlan} {path : String} {now : UInt64} {view : CreationView}
  {reached : Session}

/-- An observer could have watched all of it. -/
theorem watched_of_reaches (reaches : Reaches Homely session reached) :
    ∃ watched, Watched.Run Watched.Inside ⟨session, none, []⟩ watched ∧ watched.session = reached := by
  induction reaches with
  | start => exact ⟨_, .start, rfl⟩
  | step reaches time command permitted ih =>
      obtain ⟨watched, run, rfl⟩ := ih
      have inside : watched.Inside command :=
        ⟨⟨permitted.ordinary, permitted.marks⟩, permitted.inside⟩
      exact ⟨_, run.step time command inside, rfl⟩

/-- Whatever waits in a ring whose marks are apart, and whatever notifier is bound: to read some of it
record after record, to move the tail behind it at once, and, for all of it, to poll leave rings that
differ in lines of the log only. No notifier is asked. -/
theorem drains_alike (started : start origin plan path now = (.created view, some session))
    (apart : plan.lo < plan.hi) (reaches : Reaches Homely session reached)
    (found : reached.readers[number]? = some reader) (inProcess : reader.inProcess = true)
    (time : UInt64) :
    ∃ channel waiting, reached.channel? = some channel ∧ channel.Lined waiting ∧
      (∀ count ≤ waiting.length,
        reached.DrainsAlike channel number reader time (waiting.take count)) ∧
      reached.PollsAlike channel number reader time waiting := by
  obtain ⟨channel, orderly⟩ := orderly_of_reaches started Homely.toTidy reaches
  obtain ⟨watched, run, rfl⟩ := watched_of_reaches reaches
  obtain ⟨other, minds, accounts⟩ := Watched.accounts_of_run started apart run
  obtain ⟨named, store⟩ := orderly.store
  have same : other = channel := by
    obtain ⟨_, stored⟩ := minds.store
    rw [store] at stored
    cases stored
    rfl
  subst same
  obtain ⟨waiting, lined⟩ := orderly.whole.lined
  have sized := (orderly.sized found).trans orderly.whole.capacity.symm
  have fits := Mark.fits_gauge apart (Moment.marks watched.moments)
  rw [← accounts.gauge, ← accounts.level] at fits
  refine ⟨other, waiting, orderly.channel?_eq, lined, fun count _ => ?_, ?_⟩
  · by_cases ordered : other.page.tail ≤ other.page.head
    · have split : other.Lined (waiting.take count ++ waiting.drop count) := by
        rw [List.take_append_drop]
        exact lined
      exact drainsAlike_of_ordered store found sized inProcess split minds.gauged fits apart ordered
        time
    · exact drainsAlike_of_astray store found ordered time _
  · by_cases ordered : other.page.tail ≤ other.page.head
    · exact pollsAlike_of_ordered store found sized inProcess lined minds.gauged fits apart ordered time
    · exact pollsAlike_of_astray store found ordered time _

theorem homely_of_all {command : Command} (ordinary : command.Ordinary)
    (others : ∀ position, command ≠ .advanceTail position) (marks : ∀ hi lo, command ≠ .setWatermarks hi lo)
    (all : session.readers.all Reader.inProcess = true) : session.Homely command := by
  refine ⟨⟨ordinary, fun position _ same => absurd same (others position)⟩, marks, ?_⟩
  exact fun number reader _ found => Array.all_eq_true'.mp all reader (Array.mem_of_getElem? found)

/-- The ring is filled to the high mark while a notifier is bound; two records of 28 bytes wait. -/
theorem drains_alike_after_a_rise :
    let full := ((((small.step (some 1) (.bind (.counting .nothing))).2.step (some 2)
      (.push (List.replicate 12 7) 1)).2).step (some 3) (.push (List.replicate 12 8) 1)).2
    ∃ channel waiting, full.channel? = some channel ∧ channel.latched = true ∧
      (Record.stream waiting).length = 56 ∧
      (∀ count ≤ waiting.length, full.DrainsAlike channel 0 { capacity := 64, inProcess := true } 4
        (waiting.take count)) ∧
      full.PollsAlike channel 0 { capacity := 64, inProcess := true } 4 waiting := by
  intro full
  obtain ⟨view, started⟩ := start_small
  have reaches : Reaches Homely small full :=
    .step (.step (.step .start
      1 _ (homely_of_all (.bind _) nofun nofun (by decide +kernel)))
      2 _ (homely_of_all (.push _) nofun nofun (by decide +kernel)))
      3 _ (homely_of_all (.push _) nofun nofun (by decide +kernel))
  obtain ⟨channel, waiting, there, lined, drains, polls⟩ :=
    drains_alike started (by decide) reaches
      (by decide +kernel : full.readers[0]? = some { capacity := 64, inProcess := true }) rfl 4
  have latched : full.channel?.map Channel.latched = some true := by decide +kernel
  have used : full.channel?.map (·.page.used) = some 56 := by decide +kernel
  rw [there] at latched used
  refine ⟨channel, waiting, there, Option.some.inj latched, ?_, drains, polls⟩
  rw [← lined.toNat_used]
  exact congrArg UInt64.toNat (Option.some.inj used)

end Session

end RecordRing
