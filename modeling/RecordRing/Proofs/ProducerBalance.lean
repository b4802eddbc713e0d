import RecordRing.Proofs.ProducerAccounts

set_option autoImplicit false

namespace RecordRing

open ProducerRun (reportInterval)

namespace Host

/-- A producer finds its settings, for how long it is to run and where its ring can be; it starts nobody
else; and its log shows what the program tells. -/
structure Launches (host : Host) (arguments : List String) (settings : Settings) (seconds : Nat)
    (location : List String) : Prop where
  configured : host.settings arguments = .ok settings
  timed : lifetime arguments = .ok (some seconds)
  alone : settings.consumerProgram = none
  creatable : ∃ before, host.files.creatable settings.ringPath = .ok (location, before)
  shown : ∀ event, event.isReport = true →
    (LogFilter.ofText settings.logLevel).allows event = true

def planned (settings : Settings) : RingPlan :=
  ⟨settings.capacity, settings.hi, settings.lo, settings.rate⟩

def started (settings : Settings) : Channel :=
  let made := Channel.made (planned settings) (.ringCreated settings.ringPath settings.capacity)
  made.log (.producerStarted settings.ringPath settings.capacity settings.rate settings.payloadSize)

/-- The producer when its generator starts to work. -/
def begun (host : Host) (settings : Settings) (location : List String) : ProducerRun :=
  .begin { buffer := .zeros settings.payloadSize.toNat } (started settings) host.files location host.start

def lived (host : Host) (settings : Settings) (seconds : Nat) (location : List String) :
    ProducerRun × Bool :=
  (host.begun settings location).reports host.surroundings host.ticks host.start
    (seconds * reportInterval) (seconds + 1)

def secondsOf (host : Host) (settings : Settings) (seconds : Nat) (location : List String) :
    List Second :=
  (host.begun settings location).seconds host.surroundings host.ticks host.start
    (seconds * reportInterval) (seconds + 1)

variable {host : Host} {arguments : List String} {settings : Settings} {seconds : Nat}
  {location : List String}

theorem Launches.accepted (launches : host.Launches arguments settings seconds location) :
    settings.validate = .ok () := by
  have found := launches.configured
  unfold Host.settings at found
  cases loaded : Settings.loadOrDefault (arguments[0]?.map fun path => (path, host.files.read path)) with
  | error fault =>
      rw [loaded] at found
      cases found
  | ok other =>
      rw [loaded] at found
      cases found
      exact Settings.accepted_of_loadOrDefault loaded

/-- The ring is made after its plan, whatever stood in the file. -/
theorem Launches.create_eq (launches : host.Launches arguments settings seconds location)
    (before : Option Buffer) :
    settings.plan = .ok (planned settings) ∧
      Channel.create settings.ringPath before (planned settings) = .ok
        (Channel.made (planned settings) (.ringCreated settings.ringPath settings.capacity)) := by
  obtain ⟨plan, made, valid, small⟩ := Settings.plan_of_accepted launches.accepted
  obtain ⟨-, -, -, -, rfl⟩ := (settings.plan_eq_ok_iff plan).mp made
  refine ⟨made, (Channel.create_eq_ok_iff _ before _ _).mpr ⟨valid, ?_, rfl⟩⟩
  have length : (bytesForRing settings.capacity).toNat =
      controlPageSize.toNat + settings.capacity.toNat :=
    toNat_bytesForRing ((RingPlan.validate_eq_ok_iff _).mp valid).1
  rw [UInt64.le_iff_toNat_le] at small
  change settings.capacity.toNat ≤ 1073741824 at small
  have page : controlPageSize.toNat = 4096 := rfl
  have signed : MappedFile.signedLimit = 9223372036854775808 := rfl
  have blocks : MappedFile.maxFileLength = 17592186040320 := rfl
  have granted : MappedFile.checkFileLength (bytesForRing settings.capacity).toNat = .ok () := by
    rw [MappedFile.checkFileLength, if_neg (by omega), if_neg (by omega)]
  change (MappedFile.checkFileLength (bytesForRing settings.capacity).toNat).mapError _ = _
  rw [granted]
  rfl

theorem Launches.fresh (launches : host.Launches arguments settings seconds location) :
    Channel.Fresh (planned settings)
      (Channel.made (planned settings) (.ringCreated settings.ringPath settings.capacity)) := by
  obtain ⟨valid, -, -⟩ := (Channel.create_eq_ok_iff ..).mp (launches.create_eq none).2
  exact Channel.fresh_made valid _

/-- The generator of the settings is made for the ring. -/
theorem Launches.make_eq (launches : host.Launches arguments settings seconds location) :
    LoadGenerator.make
        (Channel.made (planned settings)
          (.ringCreated settings.ringPath settings.capacity)).maxPayload settings.payloadSize =
      .ok { buffer := .zeros settings.payloadSize.toNat } := by
  obtain ⟨planned, created⟩ := launches.create_eq none
  exact Settings.make_of_accepted launches.accepted planned (.inr ⟨_, _, created⟩)

/-- A producer that starts nobody else goes on to its own work. -/
theorem feedRing_eq (alone : settings.consumerProgram = none) {channel : Channel}
    {generator : LoadGenerator}
    (made : LoadGenerator.make channel.maxPayload settings.payloadSize = .ok generator)
    {run : ProducerRun} {done : Bool}
    (ran : ProducerRun.runFor generator (channel.log
        (.producerStarted settings.ringPath channel.capacity settings.rate settings.payloadSize))
      host.files location host.start host.surroundings host.ticks seconds = (run, done)) :
    host.feedRing settings (some seconds) location channel =
      { ending := if done then .finished else .endless
        log := (LogFilter.ofText settings.logLevel).lines (eventsOf run.load.channel)
        complaints := LogFilter.complaints settings.logLevel
        idles := run.idles
        files := run.mapping.store run.files } := by
  have same : LoadGenerator.make (channel.log
      (.producerStarted settings.ringPath channel.capacity settings.rate settings.payloadSize)).maxPayload
        settings.payloadSize = .ok generator := made
  unfold feedRing
  -- A run that is only named cannot be evaluated, which would not come to an end.
  obtain ⟨runFor, named⟩ : ∃ runFor, runFor = ProducerRun.runFor := ⟨_, rfl⟩
  rw [← named] at ran ⊢
  rw [alone]
  dsimp only
  rw [same]
  dsimp only
  rw [ran]

/-- What a run comes to whose time is up. -/
theorem Launches.runProducer_eq (launches : host.Launches arguments settings seconds location)
    {last : ProducerRun} (ended : host.lived settings seconds location = (last, true)) :
    host.runProducer arguments =
      { ending := .finished
        log := (LogFilter.ofText settings.logLevel).lines (eventsOf last.stop.load.channel)
        complaints := LogFilter.complaints settings.logLevel
        idles := last.idles
        files := last.mapping.store last.files } := by
  obtain ⟨before, creatable⟩ := launches.creatable
  obtain ⟨planned, created⟩ := launches.create_eq before
  have ran : ProducerRun.runFor { buffer := .zeros settings.payloadSize.toNat } (started settings)
      host.files location host.start host.surroundings host.ticks seconds = (last.stop, true) :=
    congrArg ProducerRun.stopDue ended
  have fed := feedRing_eq launches.alone launches.make_eq ran
  unfold runProducer
  obtain ⟨feedRing, named⟩ : ∃ feedRing, feedRing = host.feedRing := ⟨_, rfl⟩
  rw [← named] at fed ⊢
  rw [launches.configured, launches.timed]
  dsimp only
  rw [planned, creatable]
  dsimp only
  rw [created]
  exact fed

/-- At the start nothing is counted, nothing waits, and the ring lies where it was made. -/
theorem Launches.working (launches : host.Launches arguments settings seconds location) :
    (host.begun settings location).Working settings.ringPath location settings.capacity := by
  obtain ⟨before, creatable⟩ := launches.creatable
  have fresh := launches.fresh
  obtain ⟨power, -⟩ := (RingPlan.validate_eq_ok_iff _).mp fresh.valid
  obtain ⟨same, waiting, lined⟩ := fresh.whole
  have suits := LoadGenerator.suits_of_make power launches.make_eq
  exact
    { able :=
        { whole := ⟨rfl, waiting, lined.of_same rfl rfl rfl rfl rfl⟩
          unbound := fresh.bound
          suits := suits.of_capacity rfl }
      padded := fresh.padding
      offers := FileTree.offers_of_creatable creatable
      lies := rfl
      reported := rfl }

/-- What the program has told by then. -/
theorem reports_begun (host : Host) (settings : Settings) (location : List String) :
    (host.begun settings location).load.channel.reports =
      [.producerStarted settings.ringPath settings.capacity settings.rate settings.payloadSize] := by
  unfold begun ProducerRun.begin started
  dsimp only
  rw [Channel.reports_log, Channel.reports_log]
  rfl

/-- Its ring is empty. -/
theorem Launches.page_begun (launches : host.Launches arguments settings seconds location) :
    (host.begun settings location).load.channel.page =
      .fresh settings.capacity settings.hi settings.lo :=
  launches.fresh.page

/-- A feed that only drains lets the ring be otherwise. -/
theorem surrounded (drains : ∀ entry ∈ host.feed.entries, entry.2.OnlyDrains) (path : String)
    (location : List String) : ProducerRun.Surrounded path location host.surroundings := by
  intro mapping idle files lies padded offers
  exact Mapping.afterIdle_of_draining (host.feed.onlyDrains_entry drains idle) host.fedLocation lies
    padded offers

/-- The seconds of a run pass, and then it ends. -/
theorem Launches.ends (launches : host.Launches arguments settings seconds location)
    (drains : ∀ entry ∈ host.feed.entries, entry.2.OnlyDrains) :
    let lives := host.secondsOf settings seconds location
    ∃ last, host.lived settings seconds location = (last, true) ∧
      last.Working settings.ringPath location settings.capacity ∧
        (host.begun settings location).Lived settings.capacity lives last ∧
          ∀ second ∈ lives, second.pushes.length = host.ticks := by
  intro lives
  obtain ⟨last, due, same, works, lived, counts, ends⟩ :=
    @ProducerRun.Working.reports _ _ _ _ launches.working _ (surrounded drains _ _) host.ticks
      host.start (seconds * reportInterval) (seconds + 1) (Nat.le_refl host.start)
  have up := ends (Nat.succ_pos _) (by rw [Nat.succ_mul]; omega)
  exact ⟨last, up ▸ same, works, lived, counts⟩

/-- What the program has told when its run is over: how it started, a report of every second, and what
its generator has done. -/
theorem reports_of_lived {lives : List Second} {last : ProducerRun}
    (lived : (host.begun settings location).Lived settings.capacity lives last) :
    last.stop.load.channel.reports =
      .producerStarted settings.ringPath settings.capacity settings.rate settings.payloadSize ::
        (Second.report {} lives).map Stats.event ++
          [.producerFinished (UInt64.ofNat (Push.written (Second.pushed lives)))
            (UInt64.ofNat (Push.dropped (Second.pushed lives)))] := by
  have written := lived.written.trans (UInt64.zero_add _)
  have dropped := lived.dropped.trans (UInt64.zero_add _)
  have told := last.reports_stop
  rw [lived.reports, reports_begun, written, dropped] at told
  exact told

/-- How the log of a run and the ring that it leaves agree on the pushes of its seconds. -/
structure Balances (settings : Settings) (ticks : Nat) (lives : List Second) (pushes : List Push)
    (outcome : RunOutcome) : Prop where
  ending : outcome.ending = .finished
  idles : outcome.idles.size = lives.length
  each : ∀ second ∈ lives, second.pushes.length = ticks
  pushed : Push.written pushes + Push.dropped pushes = pushes.length
  /-- All that the program tells is in the log, and as many ends of episodes were told as summaries
  were written. -/
  log : ∃ events, outcome.log = (LogFilter.ofText settings.logLevel).lines events ∧
    (∀ event ∈ events, event.isReport = true → (LogFilter.ofText settings.logLevel).allows event = true) ∧
    events.filter Event.isReport =
      .producerStarted settings.ringPath settings.capacity settings.rate settings.payloadSize ::
        (Second.report {} lives).map Stats.event ++
          [.producerFinished (UInt64.ofNat (Push.written pushes))
            (UInt64.ofNat (Push.dropped pushes))] ∧
    events.countP Event.isEnding = Push.summaries pushes
  /-- The differences make up what was counted, as words do. -/
  records : ((Second.report {} lives).map Stats.records).sum =
    UInt64.ofNat (Push.written pushes + Push.summaries pushes)
  drops : ((Second.report {} lives).map Stats.drops).sum = UInt64.ofNat (Push.dropped pushes)
  last : ∃ stats, (Second.report {} lives).getLast? = some stats ∧
    stats.total = UInt64.ofNat (Push.dropped pushes)
  used : ∀ stats ∈ Second.report {} lives, stats.used ≤ settings.capacity
  page : ∃ location bytes page,
    outcome.files.openMapped settings.ringPath = .ok (location, bytes) ∧
      (RingFile.ofBytes bytes).page? = some page ∧
        page.head = UInt64.ofNat
          (Push.written pushes * (16 + settings.payloadSize.toNat) + 36 * Push.summaries pushes) ∧
        (page.isDropping = true ↔ ∃ push, pushes.getLast? = some push ∧ push.outcome = .dropped)
  /-- The words of the counters are as good as numbers, until there are more pushes than a word can
  count: no difference is below zero, and together they are what was counted. -/
  exact : pushes.length < UInt64.size →
    ({} :: lives.map Second.tallies).Pairwise Second.Onwards ∧
      ((Second.report {} lives).map fun stats => stats.records.toNat).sum =
        Push.written pushes + Push.summaries pushes ∧
      ((Second.report {} lives).map fun stats => stats.drops.toNat).sum = Push.dropped pushes

theorem run_balances (launches : host.Launches arguments settings seconds location)
    (drains : ∀ entry ∈ host.feed.entries, entry.2.OnlyDrains) :
    let lives := host.secondsOf settings seconds location
    Balances settings host.ticks lives (Second.pushed lives) (host.runProducer arguments) := by
  have some : host.secondsOf settings seconds location ≠ [] := List.cons_ne_nil _ _
  obtain ⟨last, ended, works, lived, counts⟩ := launches.ends drains
  rw [launches.runProducer_eq ended]
  dsimp only
  -- All that counts of the run from here on is which seconds it went through.
  generalize host.secondsOf settings seconds location = lives at some lived counts ⊢
  obtain ⟨pushed, published, long⟩ := Push.adds_of_sized lived.sized
  obtain ⟨records, drops⟩ := lived.counts.words
  have empty := launches.page_begun
  have calm : (host.begun settings location).load.channel.page.isDropping = false := by
    rw [empty]
    change ((0 : UInt32) &&& 1 != 0) = false
    decide
  have owed : Push.summaries (Second.pushed lives) ≤ Push.dropped (Second.pushed lives) := by
    have all := lived.carries.owed
    rw [calm] at all
    exact Nat.le_trans (Nat.le_add_right ..) all
  constructor
  case ending => rfl
  case idles => exact lived.idles.trans (Nat.zero_add _)
  case each => exact counts
  case pushed => exact pushed
  case log =>
    refine ⟨_, rfl, fun event _ => launches.shown event, ?_, ?_⟩
    · exact reports_of_lived lived
    · exact last.endings_stop.trans (lived.carries.endings.trans (Nat.zero_add _))
  case records => exact published ▸ records
  case drops => exact drops
  case last =>
    have ends := List.getLast?_eq_some_getLast (Second.report_ne_nil {} some)
    exact ⟨_, ends, (lived.counts.total ends).trans (UInt64.zero_add _)⟩
  case used =>
    intro stats member
    obtain ⟨second, there, same⟩ := Second.mem_report member
    rw [same]
    exact lived.used second there
  case page =>
    obtain ⟨opened, whole, page, -⟩ := works.openMapped
    refine ⟨location, _, _, opened, congrArg RingFile.page? whole, ?_, ?_⟩
    · rw [page, lived.carries.head, long, empty]
      exact UInt64.zero_add _
    · rw [page, lived.carries.dropping, calm]
      unfold Channel.stalled
      cases (Second.pushed lives).getLast? with
      | none => simp
      | some push => simp
  case exact =>
    intro few
    obtain ⟨sumRecords, sumDrops⟩ := lived.counts.sums ⟨by omega, by omega⟩
    refine ⟨lived.counts.onwards ⟨?_, ?_⟩, ?_, ?_⟩
    · change 0 + _ < _
      omega
    · change 0 + _ < _
      omega
    · exact published ▸ sumRecords
    · exact sumDrops

/-- Settings of a ring with room for three packets. -/
def smallSettings : Settings := { ringOrder := 7, payloadSize := 24 }

def smallHost (feed : Feed) : Host where
  files :=
    ⟨.directory [
      ("small.toml", .file (.ofBytes "ring_order=7\npayload_size=24".toUTF8.data.toList) false),
      ("tmp", .directory [])], []⟩
  fedPath := "/tmp/basalt_ring"
  feed := feed
  ticks := 4

theorem allows_of_info {event : Event} (report : event.isReport = true) :
    (LogFilter.ofText "info").allows event = true := by
  have rules : (LogFilter.ofText "info").rules = [{ depth := 3 }] := by decide +kernel
  unfold LogFilter.allows LogFilter.depthFor
  rw [rules]
  cases event <;> first | rfl | cases report

theorem launches_small (feed : Feed) :
    (smallHost feed).Launches ["/small.toml", "2"] smallSettings 2 ["tmp", "basalt_ring"] where
  configured :=
    have settings : (smallHost {}).settings ["/small.toml", "2"] = .ok smallSettings := by
      decide +kernel
    settings
  timed := rfl
  alone := rfl
  creatable :=
    have creatable : (smallHost {}).files.creatable smallSettings.ringPath =
        .ok (["tmp", "basalt_ring"], none) := by
      decide +kernel
    ⟨none, creatable⟩
  shown _ := allows_of_info

/-- A producer that overfills its ring in the first second and again after it was drained. -/
theorem run_balances_overfull :
    let feed : Feed := ⟨[(1, { drain := true })]⟩
    let lives := (smallHost feed).secondsOf smallSettings 2 ["tmp", "basalt_ring"]
    (smallHost feed).Launches ["/small.toml", "2"] smallSettings 2 ["tmp", "basalt_ring"] ∧
      (∀ entry ∈ feed.entries, entry.2.OnlyDrains) ∧
        Balances smallSettings 4 lives (Second.pushed lives)
          ((smallHost feed).runProducer ["/small.toml", "2"]) := by
  intro feed lives
  have drains : ∀ entry ∈ feed.entries, entry.2.OnlyDrains := by
    intro entry member
    rw [List.mem_singleton.mp member]
    exact ⟨rfl, rfl, rfl⟩
  exact ⟨launches_small feed, drains, run_balances (launches_small feed) drains⟩

end Host

end RecordRing
