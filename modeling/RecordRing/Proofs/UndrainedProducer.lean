import RecordRing.Proofs.LongestPrefix
import RecordRing.Proofs.PushTimes
import RecordRing.Proofs.UndrainedRuns

set_option autoImplicit false

namespace RecordRing

open ProducerRun (reportInterval period)
open LoadGenerator (intervalNanos)

/-- A run from the first cell on, within one lap, is what stands there. -/
theorem ByteRing.stored_zero {capacity length : Nat} {data : Buffer} (held : capacity ≤ data.size)
    (fits : length ≤ capacity) : stored capacity data 0 length = Buffer.read data 0 length := by
  have long : (Buffer.read data 0 length).length = length := by
    rw [Buffer.length_read]
    omega
  apply List.ext_getElem?
  intro index
  by_cases inside : index < length
  · have there : data.get? index = some (data.held.getD index 0) := if_pos (by omega)
    rw [getElem?_stored _ _ inside, Buffer.getElem?_read _ _ _ _ inside, Nat.zero_add,
      Nat.mod_eq_of_lt (by omega), there]
    rfl
  · rw [List.getElem?_eq_none (by rw [length_stored]; omega), List.getElem?_eq_none (by omega)]

namespace LoadGenerator

variable {generator : LoadGenerator} {channel : Channel} {capacity : UInt64} {length : Nat}
  {pushes : List Push} {records : List Record}

/-- The ring does not look at what is told. -/
theorem Filled.log (filled : Filled capacity length pushes records generator channel) (event : Event) :
    Filled capacity length pushes records generator (channel.log event) :=
  { filled with
    suits := filled.suits.of_capacity rfl
    lined := filled.lined.of_same rfl rfl rfl rfl rfl
    misses := { filled.misses with } }

/-- So many more cycles are so many more pushes. -/
theorem Filled.cycles {run : Run}
    (filled : Filled capacity length pushes records run.generator run.channel) (done left : Nat) :
    let later := run.cycles (fun _ => {}) done left
    ∃ more, Filled capacity length (pushes ++ run.pushes left) (records ++ more) later.generator
      later.channel := by
  induction left generalizing run pushes records done with
  | zero =>
      refine ⟨[], ?_⟩
      rw [List.append_nil]
      exact (List.append_nil pushes).symm ▸ filled
  | succ left ih =>
      obtain ⟨first, one⟩ := filled.tick run.now
      have next : Filled capacity length (pushes ++ [run.push]) (records ++ first)
          (run.cycle {}).generator (run.cycle {}).channel := one
      obtain ⟨more, rest⟩ := ih next (done + 1)
      rw [List.append_assoc, List.append_assoc] at rest
      exact ⟨first ++ more, rest⟩

end LoadGenerator

namespace ProducerRun

open LoadGenerator (Filled)

def Undisturbed (others : Surroundings) : Prop :=
  ∀ (mapping : Mapping) (idle : Nat) (files : FileTree),
    mapping.afterIdle others idle files = (files, mapping)

variable {others : Surroundings} {capacity : UInt64} {length : Nat} {pushes : List Push}
  {records : List Record}

theorem changedBy_of_undisturbed (undisturbed : Undisturbed others) (run : ProducerRun) :
    run.changedBy others = run := by
  unfold changedBy
  rw [undisturbed]
  rfl

/-- The pushes of a second go on with the pushes before it, and so do those of all that follow. -/
theorem filled_reports {run : ProducerRun} (undisturbed : Undisturbed others)
    (filled : Filled capacity length pushes records run.load.generator run.load.channel)
    (ticks start lifetime fuel : Nat) :
    let later := (run.reports others ticks start lifetime fuel).1
    ∃ more, Filled capacity length
      (pushes ++ Second.pushed (run.seconds others ticks start lifetime fuel)) (records ++ more)
        later.load.generator later.load.channel := by
  induction fuel generalizing run pushes records with
  | zero =>
      refine ⟨[], ?_⟩
      rw [List.append_nil]
      exact (List.append_nil pushes).symm ▸ filled
  | succ fuel ih =>
      obtain ⟨first, worked⟩ := filled.cycles 0 ticks
      have slept : Filled capacity length (pushes ++ run.load.pushes ticks) (records ++ first)
          (run.sleep others ticks).load.generator (run.sleep others ticks).load.channel := by
        unfold sleep
        rw [changedBy_of_undisturbed undisturbed]
        exact worked
      have told : Filled capacity length (pushes ++ run.load.pushes ticks) (records ++ first)
          (run.sleep others ticks).report.load.generator
          (run.sleep others ticks).report.load.channel := slept.log _
      unfold ProducerRun.reports ProducerRun.seconds
      dsimp only
      by_cases late : lifetime ≤ (run.sleep others ticks).report.now - start
      · rw [if_pos late, if_pos late]
        refine ⟨first, ?_⟩
        rw [Second.pushed_cons, Second.pushed_nil, List.append_nil]
        exact told
      · rw [if_neg late, if_neg late]
        obtain ⟨more, rest⟩ := ih told
        rw [List.append_assoc, List.append_assoc] at rest
        exact ⟨first ++ more, rest⟩

end ProducerRun

namespace Host

open LoadGenerator (Filled)

variable {host : Host} {arguments : List String} {settings : Settings} {seconds : Nat}
  {location : List String}

theorem undisturbed (unfed : host.feed.entries = []) :
    ProducerRun.Undisturbed host.surroundings :=
  fun mapping idle files => mapping.afterIdle_of_nothing unfed host.fedLocation idle files

/-- At the start nothing was pushed, and the ring is blank. -/
theorem Launches.filled (launches : host.Launches arguments settings seconds location) :
    Filled settings.capacity settings.payloadSize.toNat [] []
      (host.begun settings location).load.generator (host.begun settings location).load.channel := by
  have fresh := launches.fresh
  have working := launches.working
  have page := launches.page_begun
  obtain ⟨power, -⟩ := (RingPlan.validate_eq_ok_iff _).mp fresh.valid
  have length : (bytesForRing settings.capacity).toNat =
      controlPageSize.toNat + settings.capacity.toNat := toNat_bytesForRing power
  have blank : (host.begun settings location).load.channel.region.data =
      .zeros settings.capacity.toNat := by
    refine (Channel.data_ofMemory (bytesForRing settings.capacity).toNat (planned settings)).trans ?_
    rw [length, Nat.add_sub_cancel_left]
  have capacity : (host.begun settings location).load.channel.capacity = settings.capacity := rfl
  obtain ⟨least, -, -⟩ := LoadGenerator.make_eq_ok_iff.mp launches.make_eq
  constructor
  case capacity => exact capacity
  case unbound => exact working.able.unbound
  case suits => exact working.able.suits
  case size => rfl
  case least => exact least
  case sequence => rfl
  case count => exact (Nat.zero_min _).symm
  case numbers => nofun
  case written => rfl
  case lined =>
    obtain ⟨-, waiting, lined⟩ := fresh.whole
    refine ⟨power, ?_, ?_, nofun, Nat.zero_le _, ?_, rfl⟩
    · rw [blank, capacity]
      exact Nat.le_refl _
    · rw [page]
      rfl
    · rw [page]
      exact UInt64.sub_self 0
  case tail =>
    rw [page]
    rfl
  case exact =>
    rw [blank, capacity]
    rfl
  case blank =>
    intro index _ inside
    rw [blank, Buffer.get?_zeros]
    exact if_pos inside
  case misses =>
    refine ⟨?_, nofun, nofun⟩
    rw [page]
    change ((0 : UInt32) &&& 1 != 0) = true ↔ 0 < 0
    decide
  case episode =>
    rw [page]
    rfl

/-- How many of so many pushes of these settings find room in an empty ring. -/
def fitting (settings : Settings) (pushes : Nat) : Nat :=
  min pushes (settings.capacity.toNat / (16 + settings.payloadSize.toNat))

/-- What these pushes leave in the ring of a producer that nobody drained. -/
structure Leaves (settings : Settings) (pushes : List Push) (region : Region) : Prop where
  head : region.page.head.toNat =
    fitting settings pushes.length * (16 + settings.payloadSize.toNat)
  tail : region.page.tail = 0
  dropping : region.page.isDropping = true ↔ fitting settings pushes.length < pushes.length
  episodeCount : region.page.episodeCount =
    UInt64.ofNat (pushes.length - fitting settings pushes.length)
  /-- The episode began with the first push that did not fit. -/
  episodeStart : ∀ push, pushes[fitting settings pushes.length]? = some push →
    region.page.episodeStart = push.time
  /-- The bytes in front of the head are taken apart into just the packets of the pushes that fitted. -/
  packets : ∃ records,
    Record.Parts (Buffer.read region.data 0
      (fitting settings pushes.length * (16 + settings.payloadSize.toNat))) records [] ∧
    records.length = fitting settings pushes.length ∧
    ∀ (place : Nat) (record : Record), records[place]? = some record →
      record.Numbers settings.payloadSize.toNat pushes place
  size : region.data.size = settings.capacity.toNat
  blank : ∀ index,
    fitting settings pushes.length * (16 + settings.payloadSize.toNat) ≤ index →
      index < settings.capacity.toNat → region.data.get? index = some 0

/-- What fills the ring is left in it. -/
theorem leaves_of_filled {pushes : List Push} {records : List Record} {generator : LoadGenerator}
    {channel : Channel}
    (filled : Filled settings.capacity settings.payloadSize.toNat pushes records generator channel)
    {region : Region} (page : region.page = channel.page) (data : region.data = channel.region.data) :
    Leaves settings pushes region := by
  have fits : records.length = fitting settings pushes.length := by
    rw [fitting, ← filled.capacity]
    exact filled.count
  obtain ⟨few, -⟩ := filled.toNat_used
  have stream := Record.length_stream_of_numbers filled.numbers
  constructor
  case head =>
    rw [page, filled.toNat_head, fits]
  case tail =>
    rw [page]
    exact filled.tail
  case dropping =>
    rw [page, filled.misses.dropping, fits]
    omega
  case episodeCount =>
    rw [page, ← fits]
    exact filled.episode
  case episodeStart =>
    intro push made
    rw [← fits] at made
    obtain ⟨inside, -⟩ := List.getElem?_eq_some_iff.mp made
    have start := filled.misses.start (Nat.sub_pos_of_lt inside)
    rw [made] at start
    exact page ▸ start
  case packets =>
    refine ⟨records, ?_, fits, filled.numbers⟩
    have bytes := filled.lined.bytes
    have room := filled.lined.room
    rw [filled.tail, stream] at bytes
    rw [stream] at room
    -- The tail is at the first byte and no lap is over, so what is stored is read without a wrap.
    have same : Buffer.read region.data 0 (records.length * (16 + settings.payloadSize.toNat)) =
        Record.stream records := by
      rw [← bytes, data]
      exact (ByteRing.stored_zero filled.lined.held room).symm
    rw [← fits, same]
    exact Record.parts_stream filled.lined.framed
  case size =>
    rw [data, filled.exact, filled.capacity]
  case blank =>
    intro index behind inside
    rw [data]
    refine filled.blank index ?_ ?_
    · rw [stream, fits]
      exact behind
    · rw [filled.capacity]
      exact inside

/-- What a run of a producer comes to that nobody drained. -/
structure Closes (host : Host) (settings : Settings) (seconds : Nat) (pushes : List Push)
    (outcome : RunOutcome) : Prop where
  ending : outcome.ending = .finished
  /-- How many pushes there were: the same number in every second, and seconds until the time was up. -/
  pushed : pushes.length = host.ticks * max 1
    ((seconds * reportInterval + period settings.rate host.ticks - 1) /
      period settings.rate host.ticks)
  times : ∀ (place : Nat) (push : Push), pushes[place]? = some push →
    push.time = UInt64.ofNat (host.start +
      place / host.ticks * period settings.rate host.ticks +
      place % host.ticks * intervalNanos settings.rate)
  log : ∃ events, outcome.log = (LogFilter.ofText settings.logLevel).lines events ∧
    (∀ event ∈ events, event.isReport = true → (LogFilter.ofText settings.logLevel).allows event = true) ∧
    (events.filter Event.isReport).getLast? =
      some (.producerFinished (UInt64.ofNat (fitting settings pushes.length))
        (UInt64.ofNat (pushes.length - fitting settings pushes.length)))
  ring : ∃ location bytes region,
    outcome.files.openMapped settings.ringPath = .ok (location, bytes) ∧
      RingFile.ofBytes bytes = .whole region ∧ Leaves settings pushes region

/-- The number of its pushes tells what a run leaves behind that nobody feeds or drains, and the settings
tell that number. -/
theorem run_closes (launches : host.Launches arguments settings seconds location)
    (unfed : host.feed.entries = []) :
    Closes host settings seconds (Second.pushed (host.secondsOf settings seconds location))
      (host.runProducer arguments) := by
  have drains : ∀ entry ∈ host.feed.entries, entry.2.OnlyDrains := by
    rw [unfed]
    nofun
  have surrounds := surrounded drains settings.ringPath location
  have working := launches.working
  obtain ⟨last, ended, works, lived, counts⟩ := launches.ends drains
  obtain ⟨records, filled⟩ := ProducerRun.filled_reports (undisturbed unfed) launches.filled host.ticks
    host.start (seconds * reportInterval) (seconds + 1)
  rw [List.nil_append, List.nil_append] at filled
  have long : (host.secondsOf settings seconds location).length = _ :=
    working.length_seconds surrounds (Nat.le_refl host.start) (Nat.succ_pos seconds)
      (by rw [Nat.succ_mul]; omega)
  have timed : ∀ (place : Nat) (push : Push), 0 < host.ticks →
      (Second.pushed (host.secondsOf settings seconds location))[place]? = some push →
        push.time = _ :=
    fun place push some made => working.time_pushed surrounds rfl some made
  change Filled _ _ (Second.pushed (host.secondsOf settings seconds location)) records
    (host.lived settings seconds location).1.load.generator
    (host.lived settings seconds location).1.load.channel at filled
  rw [ended] at filled
  rw [launches.runProducer_eq ended]
  generalize host.secondsOf settings seconds location = lives at lived counts long timed filled ⊢
  have total := Second.length_pushed counts
  constructor
  case ending => rfl
  case pushed =>
    rw [total, long]
    change host.ticks * max 1 ((seconds * reportInterval - (host.start - host.start) +
      period settings.rate host.ticks - 1) / period settings.rate host.ticks) = _
    rw [Nat.sub_self, Nat.sub_zero]
  case times =>
    intro place push made
    obtain ⟨inside, -⟩ := List.getElem?_eq_some_iff.mp made
    have some : 0 < host.ticks := by
      apply Nat.pos_of_ne_zero
      intro none
      rw [total, none, Nat.zero_mul] at inside
      exact Nat.not_lt_zero _ inside
    exact timed place push some made
  case log =>
    have fits : Push.written (Second.pushed lives) = fitting settings (Second.pushed lives).length := by
      rw [filled.written, filled.count, filled.capacity]
      rfl
    have rest : Push.dropped (Second.pushed lives) =
        (Second.pushed lives).length - fitting settings (Second.pushed lives).length := by
      have pushed := (Push.adds_of_sized lived.sized).counted
      omega
    refine ⟨_, rfl, fun event _ => launches.shown event, ?_⟩
    have told := reports_of_lived lived
    rw [fits, rest] at told
    have last : (eventsOf last.stop.load.channel).filter Event.isReport =
      last.stop.load.channel.reports := rfl
    rw [last, told]
    exact List.getLast?_concat ..
  case ring =>
    obtain ⟨opened, whole, page, data⟩ := works.openMapped
    exact ⟨location, _, _, opened, whole, leaves_of_filled filled page data⟩

/-- Of eight pushes to a ring with room for three packets, five are lost. -/
theorem run_closes_overfull :
    (smallHost {}).Launches ["/small.toml", "2"] smallSettings 2 ["tmp", "basalt_ring"] ∧
      ∃ pushes, pushes.length = 8 ∧ fitting smallSettings 8 = 3 ∧
        Closes (smallHost {}) smallSettings 2 pushes
          ((smallHost {}).runProducer ["/small.toml", "2"]) := by
  have closes := run_closes (launches_small {}) rfl
  exact ⟨launches_small {}, _, closes.pushed, rfl, closes⟩

end Host

end RecordRing
