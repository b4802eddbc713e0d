import RecordRing.Proofs.Crossings

set_option autoImplicit false

namespace RecordRing

/-- How the producing side takes notice of the fill in an operation. -/
inductive Sight where
  | idle
  /-- The tail is moved, and the latch is not looked at. -/
  | overlooked
  /-- The latch is looked at. -/
  | seen
  deriving DecidableEq

namespace Channel

/-- Bytes that a push takes: those of its record, and those of the summary that is owed. -/
def toll (channel : Channel) (payload : Bytes) : UInt64 :=
  if channel.page.isDropping then 16 + UInt64.ofNat payload.length + 36
  else 16 + UInt64.ofNat payload.length

/-- The fill with a payload in the ring that nobody has read yet. -/
def crest (channel : Channel) (payload : Bytes) : UInt32 :=
  RecordRing.utilization (channel.page.used + channel.toll payload) channel.capacity

/-- A channel with these marks, to which no more is published than it has room for, and no signal of
which is pending. -/
structure Scaled (hi lo : UInt32) (channel : Channel) : Prop where
  high : channel.page.hi = hi
  low : channel.page.lo = lo
  room : channel.page.used ≤ channel.capacity
  pending : channel.slot.pending = 0

/-- Between two operations, a fill at the high mark or over it has been noted. -/
structure Gauged (hi lo : UInt32) (channel : Channel) : Prop extends Scaled hi lo channel where
  below : channel.latched = false → channel.utilization < hi

/-- What an operation makes of the fill and of the latch. The crest is its highest fill: the one that a
notifier is asked for, before it can act. -/
inductive Stirs (hi lo : UInt32) (now : UInt64) (before : Channel) : Sight → UInt32 → Channel → Prop
  | idle {after : Channel} (level : after.utilization = before.utilization)
      (gauge : after.gauge = before.gauge) (signals : after.signals = before.signals)
      (resets : after.resets = before.resets) :
      Stirs hi lo now before .idle after.utilization after
  | overlooked {after : Channel} (level : after.utilization ≤ before.utilization)
      (gauge : after.gauge = before.gauge) (signals : after.signals = before.signals)
      (resets : after.resets = before.resets) :
      Stirs hi lo now before .overlooked after.utilization after
  | seen {crest : UInt32} {after : Channel} (falls : after.utilization ≤ crest)
      (gauge : after.gauge = (before.gauge.note hi lo now crest).note hi lo now after.utilization)
      (signals : after.signals = before.signals ++ before.due crest)
      (resets : after.resets = before.resets) :
      Stirs hi lo now before .seen crest after
  | cleared {crest : UInt32} {after : Channel} (gauge : after.gauge = {})
      (signals : after.signals = before.signals ++ before.due crest)
      (resets : before.resets < after.resets) (empty : after.utilization = 0) :
      Stirs hi lo now before .seen crest after

variable {hi lo : UInt32} {now : UInt64} {channel after : Channel}

theorem Ebbs.scaled (ebbs : Ebbs channel after) (scaled : channel.Scaled hi lo) :
    after.Scaled hi lo where
  high := ebbs.hi.trans scaled.high
  low := ebbs.lo.trans scaled.low
  room := by rw [ebbs.capacity]; exact UInt64.le_trans ebbs.used scaled.room
  pending := by rw [ebbs.slot]; exact scaled.pending

structure Rests (before after : Channel) : Prop extends Hushed before after where
  rest : after.page.used = before.page.used
  gauge : after.gauge = before.gauge

theorem Rests.level (rests : Rests channel after) : after.utilization = channel.utilization := by
  rw [utilization, utilization, rests.rest, rests.capacity]

theorem Rests.refl (channel : Channel) : Rests channel channel :=
  ⟨Hushed.refl channel, rfl, rfl⟩

theorem rests_push (channel : Channel) {effect : Effect} (other : effect ≠ .logged .ringReset)
    (silent : effect.asked? = none) :
    Rests channel { channel with trace := channel.trace.push effect } :=
  ⟨channel.hushed_push other silent, rfl, rfl⟩

theorem Rests.gauged (rests : Rests channel after) (gauged : channel.Gauged hi lo) :
    after.Gauged hi lo := by
  refine ⟨rests.toEbbs.scaled gauged.toScaled, fun clear => ?_⟩
  have same : after.latched = channel.latched := congrArg Gauge.latched rests.gauge
  rw [rests.level]
  exact gauged.below (same ▸ clear)

theorem Rests.stirs (rests : Rests channel after) :
    Stirs hi lo now channel .idle after.utilization after :=
  .idle rests.level rests.gauge rests.signals rests.resets

/-- An ebb cannot make a clear latch rise. -/
theorem Gauged.below_of_ebbs (gauged : channel.Gauged hi lo) (ebbs : Ebbs channel after)
    (clear : channel.latched = false) : after.utilization < hi :=
  UInt32.lt_of_le_of_lt (ebbs.utilization_le gauged.room) (gauged.below clear)

theorem Gauged.due_eq_nil (gauged : channel.Gauged hi lo) {percent : UInt32}
    (below : channel.latched = false → percent < hi) : channel.due percent = [] := by
  rw [due, if_neg]
  rintro ⟨clear, high⟩
  rw [gauged.high] at high
  exact UInt32.not_le.mpr (below clear) high

/-- The tail was moved, and the latch may have been looked at: no edge can have risen. -/
structure Drained (hi lo : UInt32) (now : UInt64) (looked : Bool) (before after : Channel) :
    Prop where
  hushed : Hushed before after
  gauge : after.gauge =
    if looked then before.gauge.note hi lo now after.utilization else before.gauge

variable {looked : Bool}

theorem Drained.below (drained : Drained hi lo now looked channel after)
    (gauged : channel.Gauged hi lo) (apart : lo < hi) :
    after.latched = false → after.utilization < hi := by
  intro clear
  have gauge := drained.gauge
  cases looked with
  | true =>
      have fits : after.gauge.Fits hi lo after.utilization := by
        rw [gauge]
        exact Gauge.fits_note apart now
      exact fits.below clear
  | false =>
      have same : after.latched = channel.latched := congrArg Gauge.latched gauge
      exact gauged.below_of_ebbs drained.hushed.toEbbs (same ▸ clear)

theorem Drained.gauged (drained : Drained hi lo now looked channel after)
    (gauged : channel.Gauged hi lo) (apart : lo < hi) : after.Gauged hi lo :=
  ⟨drained.hushed.toEbbs.scaled gauged.toScaled, drained.below gauged apart⟩

theorem Drained.trans {last : Channel} (gauged : channel.Gauged hi lo) (apart : lo < hi)
    (left : Drained hi lo now looked channel after) (right : Drained hi lo now looked after last) :
    Drained hi lo now looked channel last := by
  refine ⟨left.hushed.trans right.hushed, ?_⟩
  have first := left.gauge
  have second := right.gauge
  cases looked with
  | true =>
      have lower := right.hushed.toEbbs.utilization_le (left.gauged gauged apart).room
      rw [second, first]
      exact Gauge.note_note apart lower (gauged.below_of_ebbs left.hushed.toEbbs) now
  | false => exact second.trans first

theorem Drained.stirs (drained : Drained hi lo now looked channel after)
    (gauged : channel.Gauged hi lo) (apart : lo < hi) :
    Stirs hi lo now channel (if looked then .seen else .overlooked) after.utilization after := by
  have gauge := drained.gauge
  cases looked with
  | true =>
      have silent := gauged.due_eq_nil (gauged.below_of_ebbs drained.hushed.toEbbs)
      refine .seen (UInt32.le_refl _) ?_ ?_ drained.hushed.resets
      · rw [Gauge.note_of_fits (Gauge.fits_note apart now)]
        exact gauge
      · rw [silent, List.append_nil]
        exact drained.hushed.signals
  | false =>
      exact .overlooked (drained.hushed.toEbbs.utilization_le gauged.room) gauge drained.hushed.signals
        drained.hushed.resets

/-- A look that can find no rise. -/
theorem drained_crossWatermarks {moved : Channel} (gauged : channel.Gauged hi lo)
    (hushed : Hushed channel moved) (gauge : moved.gauge = channel.gauge) :
    (moved.crossWatermarks now).1 ≠ some .rising ∧
      Drained hi lo now true channel (moved.crossWatermarks now).2 := by
  have clear : moved.latched = channel.latched := congrArg Gauge.latched gauge
  have crossed := moved.hushed_crossWatermarks now
  have region := (moved.still_crossWatermarks now).region
  refine ⟨?_, hushed.trans crossed, ?_⟩
  · rw [crossWatermarks_fst, Ne, Edge.ofFill_eq_rising_iff, hushed.hi, gauged.high, clear]
    rintro ⟨unlatched, high⟩
    exact UInt32.not_le.mpr (gauged.below_of_ebbs hushed.toEbbs unlatched) high
  · have level : (moved.crossWatermarks now).2.utilization = moved.utilization := by
      rw [utilization, utilization, crossed.capacity]
      exact congrArg (fun region : Region => RecordRing.utilization region.page.used _) region
    rw [gauge_crossWatermarks, gauge, hushed.hi, hushed.lo, gauged.high, gauged.low, level]
    rfl

/-- An answer of the control surface tells whether the tail was moved. -/
theorem stirs_advanceTail (gauged : channel.Gauged hi lo) (apart : lo < hi) (position : UInt64) :
    Stirs hi lo now channel
        (match (channel.advanceTail now position).1 with | .ok _ => .seen | .error _ => .idle)
        (channel.advanceTail now position).2.utilization (channel.advanceTail now position).2 ∧
      Hushed channel (channel.advanceTail now position).2 ∧
      (channel.advanceTail now position).2.Gauged hi lo := by
  rcases channel.moveTail_cases now position with ⟨error, refused⟩ | ⟨moved, hushed, gauge, looked⟩
  · rw [advanceTail, refused]
    exact ⟨(Rests.refl channel).stirs, Hushed.refl channel, gauged⟩
  · obtain ⟨quiet, drained⟩ := drained_crossWatermarks gauged hushed gauge
    have moves : channel.advanceTail now position = (.ok (), (moved.crossWatermarks now).2) := by
      rw [advanceTail, looked]
      generalize moved.crossWatermarks now = found at quiet
      obtain ⟨edge, crossed⟩ := found
      cases edge with
      | none => rfl
      | some edge =>
          cases edge with
          | rising => exact absurd rfl quiet
          | falling => rfl
    rw [moves]
    exact ⟨drained.stirs gauged apart, drained.hushed, drained.gauged gauged apart⟩

theorem hushed_release {capacity : UInt64} {record : Record}
    (found : channel.region.recordAtTail capacity = .record record) :
    Hushed channel { channel with region := channel.region.release record } := by
  have kept := kept_release found
  have ordered : channel.page.tail ≤ channel.page.head := (Region.span_le_of_recordAtTail found).1
  refine ⟨⟨rfl, rfl, rfl, rfl, ?_⟩, rfl, rfl⟩
  have within := kept.tail_le_head ordered
  have forward := kept.tail_le
  have head := kept.head
  rw [UInt64.le_iff_toNat_le, ControlPage.toNat_used within, ControlPage.toNat_used ordered, head]
  rw [UInt64.le_iff_toNat_le] at forward
  omega

inductive Reads (hi lo : UInt32) (now : UInt64) (looked : Bool) (before : Channel) :
    List Record → Channel → Prop
  | nothing {after : Channel} (rests : Rests before after) : Reads hi lo now looked before [] after
  | some {record : Record} {records : List Record} {after : Channel}
      (drained : Drained hi lo now looked before after) :
      Reads hi lo now looked before (record :: records) after

theorem Drained.reads (gauged : channel.Gauged hi lo) (apart : lo < hi) (record : Record)
    {records : List Record} {last : Channel} (drained : Drained hi lo now looked channel after)
    (reads : Reads hi lo now looked after records last) :
    Reads hi lo now looked channel (record :: records) last := by
  cases reads with
  | nothing rests =>
      refine .some ⟨drained.hushed.trans rests.toHushed, ?_⟩
      rw [rests.gauge, rests.level]
      exact drained.gauge
  | some more => exact .some (drained.trans gauged apart more)

theorem Reads.stirs {records : List Record} (reads : Reads hi lo now looked channel records after)
    (gauged : channel.Gauged hi lo) (apart : lo < hi) :
    Stirs hi lo now channel
        (if records = [] then .idle else if looked then .seen else .overlooked)
        after.utilization after ∧
      Hushed channel after ∧ after.Gauged hi lo := by
  cases reads with
  | nothing rests => exact ⟨rests.stirs, rests.toHushed, rests.gauged gauged⟩
  | some drained =>
      exact ⟨drained.stirs gauged apart, drained.hushed, drained.gauged gauged apart⟩

theorem inProcess_count (reader : Reader) (record : Record) :
    (reader.count record).inProcess = reader.inProcess := by
  cases record <;> rfl

/-- A read that finds a record drains it; any other leaves the fill and the latch alone. -/
theorem read_cases (gauged : channel.Gauged hi lo) (now : UInt64) (reader : Reader) :
    (∃ record after, channel.read now reader = (.record record, reader.count record, after) ∧
        Drained hi lo now reader.inProcess channel after) ∨
      ∃ outcome after, channel.read now reader = (outcome, reader, after) ∧
        (∀ record, outcome ≠ .record record) ∧ Rests channel after := by
  cases look : channel.region.recordAtTail reader.capacity with
  | record record =>
      have freed := hushed_release look
      obtain ⟨quiet, drained⟩ := @drained_crossWatermarks hi lo now channel _ gauged freed rfl
      simp only [read, Reader.take_of_record look]
      cases reader.inProcess with
      | true =>
          refine Or.inl ⟨record, _, rfl, ?_⟩
          rw [if_pos rfl, evaluateWatermarks_of_not_rising quiet]
          exact drained
      | false => exact Or.inl ⟨record, _, rfl, freed, rfl⟩
  | corrupted place =>
      simp only [read, Reader.take, look]
      refine Or.inr ⟨_, _, rfl, ?_, channel.rests_push ?_ rfl⟩
      · intro record same
        cases same
      · intro same
        cases same
  | nothing =>
      simp only [read, Reader.take, look]
      refine Or.inr ⟨_, _, rfl, ?_, Rests.refl channel⟩
      intro record same
      cases same
  | overrun =>
      simp only [read, Reader.take, look]
      refine Or.inr ⟨_, _, rfl, ?_, Rests.refl channel⟩
      intro record same
      cases same

theorem reads_read (gauged : channel.Gauged hi lo) (now : UInt64) (reader : Reader) :
    (channel.read now reader).2.1.inProcess = reader.inProcess ∧
      Reads hi lo now reader.inProcess channel
        (match (channel.read now reader).1 with | .record record => [record] | _ => [])
        (channel.read now reader).2.2 := by
  rcases read_cases gauged now reader with ⟨record, after, found, drained⟩ |
    ⟨outcome, after, found, other, rests⟩
  · rw [found]
    exact ⟨inProcess_count reader record, .some drained⟩
  · rw [found]
    refine ⟨rfl, ?_⟩
    cases outcome with
    | record record => exact absurd rfl (other record)
    | _ => exact .nothing rests

theorem reads_pollFor (gauged : channel.Gauged hi lo) (apart : lo < hi) (now : UInt64)
    (reader : Reader) (fuel : Nat) :
    (channel.pollFor now reader fuel).2.2.1.inProcess = reader.inProcess ∧
      Reads hi lo now reader.inProcess channel (channel.pollFor now reader fuel).2.1
        (channel.pollFor now reader fuel).2.2.2 := by
  induction fuel generalizing channel reader with
  | zero => exact ⟨rfl, .nothing (Rests.refl channel)⟩
  | succ fuel ih =>
      rcases read_cases gauged now reader with ⟨record, after, found, drained⟩ |
        ⟨outcome, after, found, other, rests⟩
      · obtain ⟨same, reads⟩ := ih (drained.gauged gauged apart) (reader.count record)
        rw [inProcess_count] at same reads
        simp only [pollFor, found]
        exact ⟨same, drained.reads gauged apart record reads⟩
      · simp only [pollFor, found]
        cases outcome with
        | record record => exact absurd rfl (other record)
        | _ => exact ⟨rfl, .nothing rests⟩

structure Swells (before : Channel) (more : UInt64) (after : Channel) : Prop where
  capacity : after.capacity = before.capacity
  hi : after.page.hi = before.page.hi
  lo : after.page.lo = before.page.lo
  slot : after.slot = before.slot
  used : after.page.used = before.page.used + more
  gauge : after.gauge = before.gauge
  signals : after.signals = before.signals
  resets : after.resets = before.resets

theorem Swells.trans {last : Channel} {more rest : UInt64} (left : Swells channel more after)
    (right : Swells after rest last) : Swells channel (more + rest) last where
  capacity := right.capacity.trans left.capacity
  hi := right.hi.trans left.hi
  lo := right.lo.trans left.lo
  slot := right.slot.trans left.slot
  used := by rw [right.used, left.used, UInt64.add_assoc]
  gauge := right.gauge.trans left.gauge
  signals := right.signals.trans left.signals
  resets := right.resets.trans left.resets

theorem swells_writeRecord (channel : Channel) (header : RecordHeader) (payload : Bytes) :
    Swells channel header.span (channel.writeRecord channel.page.head header payload).2 := by
  refine ⟨rfl, rfl, rfl, rfl, ?_, rfl, rfl, rfl⟩
  change channel.page.head + header.span - channel.page.tail =
    channel.page.head - channel.page.tail + header.span
  rw [UInt64.sub_eq_add_neg, UInt64.sub_eq_add_neg, UInt64.add_assoc, UInt64.add_assoc,
    UInt64.add_comm header.span]

/-- Closing the episode and saying so adds no byte. -/
theorem Swells.closed {more : UInt64} (swells : Swells channel more after) {event : Event}
    (other : event ≠ .ringReset) :
    Swells channel more ((after.modifyPage fun page => page.setDropping false).log event) :=
  { swells with
    signals := (signals_push _ (.logged event)).trans ((List.append_nil _).trans swells.signals)
    resets := (resets_push _ (by simpa using other)).trans swells.resets }

theorem swells_flushDropSummary (channel : Channel) (now : UInt64) :
    Swells channel 36 (channel.flushDropSummary channel.page.head now).2 ∧
      (channel.flushDropSummary channel.page.head now).1 =
        (channel.flushDropSummary channel.page.head now).2.page.head := by
  have written := swells_writeRecord channel (.dropSummary now)
    (DropSummary.encode ⟨if channel.page.episodeCount < 0x100000000 then
      channel.page.episodeCount.toUInt32 else 0xFFFFFFFF, channel.page.episodeStart, now⟩)
  exact ⟨written.closed nofun, rfl⟩

theorem rests_noteDrop (channel : Channel) (now need : UInt64) :
    Rests channel (channel.noteDrop now need) := by
  unfold noteDrop
  cases channel.page.isDropping with
  | true => exact ⟨⟨⟨rfl, rfl, rfl, rfl, UInt64.le_refl _⟩, rfl, rfl⟩, rfl, rfl⟩
  | false =>
      refine ⟨⟨⟨rfl, rfl, rfl, rfl, UInt64.le_refl _⟩, ?_, ?_⟩, rfl, rfl⟩
      · exact (signals_push _ (.logged _)).trans (List.append_nil _)
      · exact resets_push _ nofun

/-- A push that is written takes its toll, and then the latch is looked at; any other leaves the fill
and the latch alone. -/
theorem push_cases (channel : Channel) (now : UInt64) (payload : Bytes) :
    (∃ written, channel.push now payload = (.written, written.evaluateWatermarks now) ∧
        Swells channel (channel.toll payload) written ∧ written.page.used ≤ channel.capacity) ∨
      ∃ outcome after, channel.push now payload = (outcome, after) ∧ outcome ≠ .written ∧
        Rests channel after := by
  unfold push
  split
  · exact Or.inr ⟨_, _, rfl, nofun, Rests.refl channel⟩
  · rename_i within
    have short : payload.length < UInt32.size :=
      Nat.lt_of_le_of_lt (Nat.le_of_not_lt within) channel.toNat_maxPayload_lt
    have span : (RecordHeader.packet (UInt64.ofNat payload.length).toUInt32 now).span =
        16 + UInt64.ofNat payload.length := by
      have length : (UInt64.ofNat payload.length).toUInt32.toUInt64 = UInt64.ofNat payload.length := by
        apply UInt64.toNat_inj.mp
        have narrow : UInt32.size = 4294967296 := rfl
        simp only [UInt32.toNat_toUInt64, UInt64.toNat_toUInt32, UInt64.toNat_ofNat']
        omega
      exact congrArg (16 + ·) length
    dsimp only
    split
    · exact Or.inr ⟨_, _, rfl, nofun, channel.rests_noteDrop now _⟩
    · rename_i position free
      obtain ⟨room, rfl⟩ := (channel.reserve_eq_some_iff _ position).mp free
      have fits {written : Channel} (swells : Swells channel (channel.toll payload) written) :
          written.page.used ≤ channel.capacity := by
        have most := channel.capacity.toNat_lt
        rw [swells.used, UInt64.le_iff_toNat_le, UInt64.toNat_add]
        exact Nat.le_trans (Nat.mod_le _ _) room
      cases dropping : channel.page.isDropping with
      | false =>
          have swells := channel.swells_writeRecord
            (.packet (UInt64.ofNat payload.length).toUInt32 now) payload
          have toll : channel.toll payload = 16 + UInt64.ofNat payload.length :=
            if_neg (by rw [dropping]; nofun)
          rw [span, ← toll] at swells
          exact Or.inl ⟨_, rfl, swells, fits swells⟩
      | true =>
          obtain ⟨flushed, next⟩ := channel.swells_flushDropSummary now
          have packet := swells_writeRecord (channel.flushDropSummary channel.page.head now).2
            (.packet (UInt64.ofNat payload.length).toUInt32 now) payload
          have swells := flushed.trans packet
          have toll : channel.toll payload = 36 + (16 + UInt64.ofNat payload.length) := by
            rw [toll, if_pos dropping, UInt64.add_comm]
          rw [span, ← toll, ← next] at swells
          exact Or.inl ⟨_, rfl, swells, fits swells⟩

theorem Swells.due_eq {more : UInt64} (swells : Swells channel more after) (percent : UInt32) :
    after.due percent = channel.due percent := by
  have clear : after.latched = channel.latched := congrArg Gauge.latched swells.gauge
  rw [due, due, clear, swells.hi, swells.slot]

/-- How a push takes notice of the fill: not at all, if nothing was written. -/
theorem stirs_push (gauged : channel.Gauged hi lo) (apart : lo < hi) (payload : Bytes) :
    Stirs hi lo now channel
        (if (channel.push now payload).1 = .written then .seen else .idle)
        (if (channel.push now payload).1 = .written then channel.crest payload
          else (channel.push now payload).2.utilization)
        (channel.push now payload).2 ∧
      (channel.push now payload).2.slot = channel.slot ∧
      (channel.push now payload).2.Gauged hi lo := by
  rcases channel.push_cases now payload with ⟨written, pushed, swells, room⟩ |
    ⟨outcome, after, pushed, other, rests⟩
  · rw [pushed, if_pos rfl, if_pos rfl]
    have scaled : written.Scaled hi lo := by
      refine ⟨swells.hi.trans gauged.high, swells.lo.trans gauged.low, ?_, ?_⟩
      · rw [swells.capacity]
        exact room
      · rw [swells.slot]
        exact gauged.pending
    have crest : written.utilization = channel.crest payload := by
      rw [utilization, swells.used, swells.capacity, crest]
    obtain ⟨ebbs, signals, noted, page, resets, gauge, answers⟩ :=
      evaluated now scaled.pending (by rw [scaled.low, scaled.high]; exact apart)
    have falls := ebbs.utilization_le scaled.room
    rw [crest, swells.due_eq, swells.signals] at signals
    rw [crest, scaled.high, scaled.low, swells.gauge] at gauge
    rw [swells.resets] at resets
    rw [crest] at falls
    cases answers with
    | noted same again =>
        rw [gauge, page, scaled.high, scaled.low] at again
        refine ⟨.seen falls again signals (same.trans resets), ebbs.slot.trans swells.slot,
          ebbs.scaled scaled, ?_⟩
        have fits := @Gauge.fits_note (channel.gauge.note hi lo now (channel.crest payload)) hi lo
          (written.evaluateWatermarks now).utilization apart now
        rw [← again] at fits
        exact fits.below
    | cleared more fresh empty =>
        have level : (written.evaluateWatermarks now).utilization = 0 := by
          rw [utilization, empty, utilization_zero]
        refine ⟨.cleared fresh signals (resets ▸ more) level, ebbs.slot.trans swells.slot,
          ebbs.scaled scaled, fun _ => ?_⟩
        rw [level]
        exact UInt32.lt_of_le_of_lt UInt32.zero_le apart
  · rw [pushed, if_neg other, if_neg other]
    exact ⟨rests.stirs, rests.slot, rests.gauged gauged⟩

theorem stirs_reset (gauged : channel.Gauged hi lo) (apart : lo < hi) :
    Stirs hi lo now channel .seen channel.reset.utilization channel.reset ∧
      channel.reset.Gauged hi lo := by
  have level : channel.reset.utilization = 0 := by
    rw [utilization, used_reset, utilization_zero]
  have low : (0 : UInt32) < hi := UInt32.lt_of_le_of_lt UInt32.zero_le apart
  rw [level]
  refine ⟨.cleared rfl ?_ channel.cleared_reset.resets_lt level, ⟨gauged.high, gauged.low, ?_,
    gauged.pending⟩, fun _ => ?_⟩
  · rw [gauged.due_eq_nil (fun _ => low)]
    exact signals_push _ (.logged .ringReset)
  · rw [used_reset]
    exact UInt64.zero_le
  · rw [level]
    exact low

/-- Where no signal is pending, nobody is asked when the notifier is replaced. -/
theorem bindNotifier_eq (pending : channel.slot.pending = 0) (now : UInt64)
    (notifier : Option Notifier) :
    (channel.bindNotifier now notifier).2 =
      { channel.log (.notifierRebound notifier.isSome) with slot := ⟨notifier, 0⟩ } := by
  obtain ⟨region, capacity, rate, tallies, latched, ⟨bound, _⟩, counts, bells, trace⟩ := channel
  cases pending
  cases notifier <;> rfl

theorem stirs_bindNotifier {ready : Channel} (rests : Rests channel ready)
    (gauged : channel.Gauged hi lo) (notifier : Option Notifier) :
    Stirs hi lo now channel .idle (ready.bindNotifier now notifier).2.utilization
        (ready.bindNotifier now notifier).2 ∧
      (ready.bindNotifier now notifier).2.slot.bound = notifier ∧
      (ready.bindNotifier now notifier).2.Gauged hi lo := by
  have same := rests.gauged gauged
  have logged : Rests ready (ready.log (.notifierRebound notifier.isSome)) := by
    refine ready.rests_push ?_ rfl
    nofun
  rw [bindNotifier_eq same.pending]
  refine ⟨.idle (logged.level.trans rests.level) rests.gauge (logged.signals.trans rests.signals)
    (logged.resets.trans rests.resets), rfl, ⟨same.high, same.low, same.room, rfl⟩, same.below⟩

theorem rests_setRate (channel : Channel) (rate : UInt32) : Rests channel (channel.setRate rate).2 := by
  unfold setRate
  split
  · exact Rests.refl channel
  · have logged := @rests_push channel (.logged (.rateUpdated rate)) nofun rfl
    exact ⟨⟨⟨rfl, rfl, rfl, rfl, UInt64.le_refl _⟩, logged.signals, logged.resets⟩, rfl, rfl⟩

end Channel

end RecordRing
