import Mathlib.Algebra.GroupWithZero.Nat
import Mathlib.Data.UInt
import RecordRing.Proofs.MappedRing
import RecordRing.Proofs.PushAccounts
import RecordRing.Proofs.SettingsAgreement

set_option autoImplicit false

namespace RecordRing

structure Stats where
  records : UInt64
  drops : UInt64
  used : UInt64
  /-- All drops so far. -/
  total : UInt64
  dropping : Bool
  deriving DecidableEq, Repr

def Stats.event (stats : Stats) : Event :=
  .ringStats stats.records stats.drops stats.used stats.total stats.dropping

/-- One sleep of the reporting thread: the pushes in it, and what was seen at its end. -/
structure Second where
  pushes : List Push
  tallies : Tallies
  page : ControlPage

namespace Second

def pushed (seconds : List Second) : List Push :=
  seconds.flatMap Second.pushes

def stats (before : Tallies) (second : Second) : Stats where
  records := second.tallies.records - before.records
  drops := second.tallies.drops - before.drops
  used := second.page.used
  total := second.tallies.drops
  dropping := second.page.isDropping

def report (before : Tallies) : List Second → List Stats
  | [] => []
  | second :: rest => second.stats before :: report second.tallies rest

inductive Counts : Tallies → List Second → Prop
  | nil (before : Tallies) : Counts before []
  | cons {before : Tallies} {second : Second} {rest : List Second}
      (records : second.tallies.records =
        before.records + UInt64.ofNat (Push.published second.pushes).length)
      (drops : second.tallies.drops = before.drops + UInt64.ofNat (Push.dropped second.pushes))
      (later : Counts second.tallies rest) : Counts before (second :: rest)

structure Onwards (earlier later : Tallies) : Prop where
  records : earlier.records ≤ later.records
  drops : earlier.drops ≤ later.drops

variable {before : Tallies} {second : Second} {seconds rest : List Second}

@[simp] theorem pushed_nil : pushed [] = [] := rfl

@[simp] theorem pushed_cons : pushed (second :: rest) = second.pushes ++ pushed rest := rfl

/-- Seconds of equally many pushes. -/
theorem length_pushed {ticks : Nat} (each : ∀ second ∈ seconds, second.pushes.length = ticks) :
    (pushed seconds).length = ticks * seconds.length := by
  induction seconds with
  | nil => rfl
  | cons second rest ih =>
      have later := ih fun other member => each other (List.mem_cons_of_mem _ member)
      rw [pushed_cons, List.length_append, each second List.mem_cons_self, later, List.length_cons,
        Nat.mul_succ, Nat.add_comm]

theorem sub_of_add {earlier grown : UInt64} {count : Nat}
    (same : grown = earlier + UInt64.ofNat count) : grown - earlier = UInt64.ofNat count := by
  rw [same, UInt64.add_comm, UInt64.add_sub_cancel]

/-- The differences that are reported add up to all that was counted, as words do. -/
theorem Counts.words (counts : Counts before seconds) :
    ((report before seconds).map Stats.records).sum =
        UInt64.ofNat (Push.published (pushed seconds)).length ∧
      ((report before seconds).map Stats.drops).sum =
        UInt64.ofNat (Push.dropped (pushed seconds)) := by
  induction counts with
  | nil before => exact ⟨rfl, rfl⟩
  | @cons before second rest records drops later ih =>
      obtain ⟨sumRecords, sumDrops⟩ := ih
      rw [pushed_cons, Push.published_append, List.length_append, Push.dropped_append, UInt64.ofNat_add,
        UInt64.ofNat_add, report, List.map_cons, List.map_cons, List.sum_cons, List.sum_cons, sumRecords,
        sumDrops]
      exact ⟨congrArg (· + _) (sub_of_add records), congrArg (· + _) (sub_of_add drops)⟩

/-- While they fit into words, they add up as numbers do. -/
theorem Counts.sums (counts : Counts before seconds)
    (few : (Push.published (pushed seconds)).length < UInt64.size ∧
      Push.dropped (pushed seconds) < UInt64.size) :
    ((report before seconds).map fun stats => stats.records.toNat).sum =
        (Push.published (pushed seconds)).length ∧
      ((report before seconds).map fun stats => stats.drops.toNat).sum =
        Push.dropped (pushed seconds) := by
  induction counts with
  | nil before => exact ⟨rfl, rfl⟩
  | @cons before second rest records drops later ih =>
      obtain ⟨fewRecords, fewDrops⟩ := few
      rw [pushed_cons, Push.published_append, List.length_append] at fewRecords
      rw [pushed_cons, Push.dropped_append] at fewDrops
      rw [pushed_cons, Push.published_append, List.length_append, Push.dropped_append]
      obtain ⟨sumRecords, sumDrops⟩ := ih ⟨by omega, by omega⟩
      have word : UInt64.size = 2 ^ 64 := rfl
      have first : (second.stats before).records.toNat = (Push.published second.pushes).length := by
        change (second.tallies.records - before.records).toNat = _
        rw [sub_of_add records, UInt64.toNat_ofNat']
        exact Nat.mod_eq_of_lt (by omega)
      have lost : (second.stats before).drops.toNat = Push.dropped second.pushes := by
        change (second.tallies.drops - before.drops).toNat = _
        rw [sub_of_add drops, UInt64.toNat_ofNat']
        exact Nat.mod_eq_of_lt (by omega)
      rw [report, List.map_cons, List.map_cons, List.sum_cons, List.sum_cons, first, lost, sumRecords,
        sumDrops]
      exact ⟨rfl, rfl⟩

/-- While they fit into words, the counters only grow, and no difference is below zero. -/
theorem Counts.onwards (counts : Counts before seconds)
    (few : before.records.toNat + (Push.published (pushed seconds)).length < UInt64.size ∧
      before.drops.toNat + Push.dropped (pushed seconds) < UInt64.size) :
    (before :: seconds.map Second.tallies).Pairwise Onwards := by
  induction counts with
  | nil before => exact List.pairwise_singleton ..
  | @cons before second rest records drops later ih =>
      obtain ⟨fewRecords, fewDrops⟩ := few
      rw [pushed_cons, Push.published_append, List.length_append] at fewRecords
      rw [pushed_cons, Push.dropped_append] at fewDrops
      have word : UInt64.size = 2 ^ 64 := rfl
      have grown : second.tallies.records.toNat =
          before.records.toNat + (Push.published second.pushes).length := by
        rw [records, UInt64.toNat_add, UInt64.toNat_ofNat', Nat.add_mod_mod]
        exact Nat.mod_eq_of_lt (by omega)
      have lost : second.tallies.drops.toNat = before.drops.toNat + Push.dropped second.pushes := by
        rw [drops, UInt64.toNat_add, UInt64.toNat_ofNat', Nat.add_mod_mod]
        exact Nat.mod_eq_of_lt (by omega)
      have step : Onwards before second.tallies := by
        constructor
        · rw [UInt64.le_iff_toNat_le]
          omega
        · rw [UInt64.le_iff_toNat_le]
          omega
      have others := ih ⟨by omega, by omega⟩
      rw [List.map_cons]
      refine List.pairwise_cons.mpr ⟨fun later member => ?_, others⟩
      rcases List.mem_cons.mp member with rfl | behind
      · exact step
      · have more := (List.pairwise_cons.mp others).1 later behind
        exact ⟨UInt64.le_trans step.records more.records, UInt64.le_trans step.drops more.drops⟩

theorem report_ne_nil (before : Tallies) (some : seconds ≠ []) : report before seconds ≠ [] := by
  cases seconds with
  | nil => exact absurd rfl some
  | cons second rest => exact List.cons_ne_nil _ _

theorem mem_report {stats : Stats} (member : stats ∈ report before seconds) :
    ∃ second ∈ seconds, stats.used = second.page.used := by
  induction seconds generalizing before with
  | nil => cases member
  | cons second rest ih =>
      rcases List.mem_cons.mp member with rfl | later
      · exact ⟨second, List.mem_cons_self, rfl⟩
      · obtain ⟨other, behind, same⟩ := ih later
        exact ⟨other, List.mem_cons_of_mem _ behind, same⟩

/-- The last report tells of all drops. -/
theorem Counts.total (counts : Counts before seconds) {last : Stats}
    (ends : (report before seconds).getLast? = some last) :
    last.total = before.drops + UInt64.ofNat (Push.dropped (pushed seconds)) := by
  induction counts with
  | nil before => cases ends
  | @cons before second rest records drops later ih =>
      rw [pushed_cons, Push.dropped_append, UInt64.ofNat_add, ← UInt64.add_assoc, ← drops]
      cases others : report second.tallies rest with
      | nil =>
          have none : rest = [] := by
            cases rest with
            | nil => rfl
            | cons next more => cases others
          rw [report, others] at ends
          cases ends
          rw [none]
          exact (UInt64.add_zero _).symm
      | cons next more =>
          rw [report, others, List.getLast?_cons_cons] at ends
          exact ih (others ▸ ends)

end Second

namespace Channel

variable {channel : Channel} {region : Region} {capacity : UInt64}

theorem carries_of_drains (drains : channel.region.Drains region) :
    channel.Carries [] { channel with region } := by
  obtain ⟨head, -, flags, -⟩ := drains.fields
  exact .nothing head rfl flags rfl

/-- In a ring that was drained whole records wait, if any do. -/
theorem whole_of_drains (whole : channel.Whole capacity) (drains : channel.region.Drains region) :
    ({ channel with region } : Channel).Whole capacity := by
  obtain ⟨head, named, -, tail⟩ := drains.fields
  refine whole.of_yields ⟨rfl, named, drains.data, ?_⟩
  rcases tail with kept | moved
  · exact .inl ⟨head, kept⟩
  · exact .inr (moved.trans head.symm)

theorem Whole.used_le (whole : channel.Whole capacity) : channel.page.used ≤ capacity := by
  obtain ⟨same, waiting, lined⟩ := whole
  rw [UInt64.le_iff_toNat_le, lined.toNat_used, ← same]
  exact lined.room

end Channel

namespace ProducerRun

open LoadGenerator (Run)

def seconds (run : ProducerRun) (others : Surroundings) (ticks start lifetime : Nat) :
    Nat → List Second
  | 0 => []
  | fuel + 1 =>
      let told := (run.sleep others ticks).report
      { pushes := run.load.pushes ticks, tallies := told.reported, page := told.load.channel.page } ::
        if lifetime ≤ told.now - start then [] else told.seconds others ticks start lifetime fuel

/-- A producer at work on a ring of this capacity, whose file lies where the path leads. -/
structure Working (path : String) (location : List String) (capacity : UInt64) (run : ProducerRun) :
    Prop where
  able : run.load.Able capacity
  padded : run.load.channel.region.Padded
  offers : run.files.Offers path location
  lies : run.location = some location
  reported : run.reported = run.load.channel.tallies

/-- From one point of a run to a later one, these seconds were gone through. -/
structure Lived (capacity : UInt64) (run : ProducerRun) (seconds : List Second) (later : ProducerRun) :
    Prop where
  carries : run.load.channel.Carries (Second.pushed seconds) later.load.channel
  written : later.load.totals.written =
    run.load.totals.written + UInt64.ofNat (Push.written (Second.pushed seconds))
  dropped : later.load.totals.dropped =
    run.load.totals.dropped + UInt64.ofNat (Push.dropped (Second.pushed seconds))
  size : later.load.generator.buffer.size = run.load.generator.buffer.size
  sized : ∀ push ∈ Second.pushed seconds, push.Sized run.load.generator.buffer.size
  reports : later.load.channel.reports =
    run.load.channel.reports ++ (Second.report run.reported seconds).map Stats.event
  counts : Second.Counts run.reported seconds
  used : ∀ second ∈ seconds, second.page.used ≤ capacity
  idles : later.idles.size = run.idles.size + seconds.length

variable {path : String} {location : List String} {capacity : UInt64}
  {run told later : ProducerRun} {second : Second} {seconds : List Second}

theorem Lived.nothing (run : ProducerRun) : run.Lived capacity [] run :=
  ⟨.nothing rfl rfl rfl rfl, (UInt64.add_zero _).symm, (UInt64.add_zero _).symm, rfl, nofun,
    (List.append_nil _).symm, .nil _, nofun, rfl⟩

/-- One second, and then others. -/
theorem Lived.next (first : run.Lived capacity [second] told) (tallies : told.reported = second.tallies)
    (rest : told.Lived capacity seconds later) : run.Lived capacity (second :: seconds) later := by
  have one : Second.pushed [second] = second.pushes := List.append_nil _
  obtain ⟨carries, written, dropped, size, sized, reports, counts, used, idles⟩ := first
  rw [one] at carries written dropped sized
  constructor
  case carries => exact carries.trans rest.carries
  case written =>
    rw [rest.written, written, Second.pushed_cons, Push.written_append, UInt64.ofNat_add,
      UInt64.add_assoc]
  case dropped =>
    rw [rest.dropped, dropped, Second.pushed_cons, Push.dropped_append, UInt64.ofNat_add,
      UInt64.add_assoc]
  case size => exact rest.size.trans size
  case sized =>
    intro push member
    rcases List.mem_append.mp member with now | later
    · exact sized push now
    · exact size ▸ rest.sized push later
  case reports =>
    rw [rest.reports, reports, tallies, List.append_assoc]
    rfl
  case counts =>
    cases counts with
    | cons records drops _ => exact .cons records drops (tallies ▸ rest.counts)
  case used =>
    intro other member
    rcases List.mem_cons.mp member with rfl | later
    · exact used other List.mem_cons_self
    · exact rest.used other later
  case idles =>
    rw [rest.idles, idles, List.length_cons, List.length_cons, List.length_nil]
    omega

/-- What others do to the files at most drains the ring, in any idle. -/
def Surrounded (path : String) (location : List String) (others : Surroundings) : Prop :=
  ∀ (mapping : Mapping) (idle : Nat) (files : FileTree), mapping.location = some location →
    mapping.region.Padded → files.Offers path location →
      let done := mapping.afterIdle others idle files
      done.1.Offers path location ∧ done.2.location = some location ∧
        mapping.region.Drains done.2.region

/-- A report of a producer that was working, of a second that has come to an end. -/
theorem Working.report {now : Nat} (working : run.Working path location capacity) (ticks : Nat) {load : Run}
    (worked : load.Able capacity) (went : run.load.Went (run.load.pushes ticks) load)
    {files : FileTree} {mapping : Mapping} (offers : files.Offers path location)
    (lies : mapping.location = some location) (padded : mapping.region.Padded)
    (drains : load.channel.region.Drains mapping.region) :
    let slept : ProducerRun :=
      { run with
        load := { load with
          channel := { load.channel with region := mapping.region }, now := UInt64.ofNat now }
        now
        files
        location := mapping.location
        idles := run.idles.push reportInterval }
    let told := slept.report
    told.Working path location capacity ∧
      run.Lived capacity [⟨run.load.pushes ticks, told.reported, told.load.channel.page⟩] told := by
  intro slept told
  let drained : Channel := { load.channel with region := mapping.region }
  have carries : run.load.channel.Carries (run.load.pushes ticks) drained := by
    have both := went.carries.trans (Channel.carries_of_drains drains)
    rwa [List.append_nil] at both
  have one (tallies : Tallies) (page : ControlPage) :
      Second.pushed [⟨run.load.pushes ticks, tallies, page⟩] = run.load.pushes ticks :=
    List.append_nil _
  have whole : drained.Whole capacity := Channel.whole_of_drains worked.whole drains
  have used : drained.page.used ≤ capacity := whole.used_le
  obtain ⟨same, waiting, lined⟩ := whole
  constructor
  · exact
      { able :=
          { whole := ⟨same, waiting, lined.of_same rfl rfl rfl rfl rfl⟩
            unbound := worked.unbound
            suits := worked.suits.of_capacity rfl }
        padded, offers, lies, reported := rfl }
  · constructor
    case carries =>
      rw [one]
      exact { carries with endings := (Channel.endings_log drained rfl).trans carries.endings }
    case written =>
      rw [one]
      exact went.written
    case dropped =>
      rw [one]
      exact went.dropped
    case size => exact went.size
    case sized =>
      rw [one]
      exact went.sized
    case reports =>
      have told : (drained.log (Event.ringStats (drained.tallies.records - run.reported.records)
          (drained.tallies.drops - run.reported.drops) drained.page.used drained.tallies.drops
          drained.page.isDropping)).reports = _ := Channel.reports_log ..
      refine told.trans ?_
      exact congrArg (· ++ _) went.aside.reports
    case counts =>
      refine .cons ?_ ?_ (.nil _)
      · rw [working.reported]
        exact carries.records
      · rw [working.reported]
        exact carries.drops
    case used =>
      intro second member
      rw [List.mem_singleton.mp member]
      exact used
    case idles => exact Array.size_push _

/-- The step of a run: a sleep, and the report behind it. -/
theorem Working.step (working : run.Working path location capacity) {others : Surroundings}
    (surrounded : Surrounded path location others) (ticks : Nat) :
    let told := (run.sleep others ticks).report
    told.Working path location capacity ∧ run.now + reportInterval ≤ told.now ∧
      run.Lived capacity [⟨run.load.pushes ticks, told.reported, told.load.channel.page⟩] told := by
  obtain ⟨worked, went⟩ := working.able.cycles 0 ticks
  generalize same : run.load.cycles (fun _ => {}) 0 ticks = load at worked went
  have paddedThen : load.channel.region.Padded := by
    rw [Region.Padded, went.padding]
    exact working.padded
  obtain ⟨offersThen, liesThen, drains⟩ := surrounded ⟨load.channel.region, run.location⟩
    (run.idles.size + 1) run.files working.lies paddedThen working.offers
  generalize idled : Mapping.afterIdle ⟨load.channel.region, run.location⟩ others
    (run.idles.size + 1) run.files = done at offersThen liesThen drains
  obtain ⟨files, mapping⟩ := done
  let drained : Channel := { load.channel with region := mapping.region }
  obtain ⟨now, due, slept⟩ : ∃ now, run.now + reportInterval ≤ now ∧ run.sleep others ticks =
      { run with
        load := { load with
          channel := { load.channel with region := mapping.region }, now := UInt64.ofNat now }
        now
        files
        location := mapping.location
        idles := run.idles.push reportInterval } := by
    refine ⟨(run.sleep others ticks).now, Nat.add_le_add_left (Nat.le_max_right _ _) _, ?_⟩
    unfold sleep work changedBy ProducerRun.mapping
    rw [same]
    dsimp only
    rw [idled]
  obtain ⟨works, lived⟩ := @Working.report path location capacity run now working ticks load worked went
    files mapping offersThen liesThen (drains.padded paddedThen) drains
  rw [slept]
  exact ⟨works, due, lived⟩

/-- The seconds of a run while it reports, and that its time comes. -/
theorem Working.reports (working : run.Working path location capacity) {others : Surroundings}
    (surrounded : Surrounded path location others) (ticks : Nat) {start lifetime fuel : Nat}
    (began : start ≤ run.now) :
    ∃ later due, run.reports others ticks start lifetime fuel = (later, due) ∧
      later.Working path location capacity ∧
        run.Lived capacity (run.seconds others ticks start lifetime fuel) later ∧
          (∀ second ∈ run.seconds others ticks start lifetime fuel, second.pushes.length = ticks) ∧
            (0 < fuel → lifetime ≤ run.now - start + fuel * reportInterval → due = true) := by
  induction fuel generalizing run with
  | zero =>
      exact ⟨run, false, rfl, working, .nothing run, nofun, fun some => absurd some (Nat.lt_irrefl 0)⟩
  | succ fuel ih =>
      obtain ⟨works, due, lived⟩ := working.step surrounded ticks
      have count := Run.length_pushes run.load ticks
      unfold ProducerRun.reports ProducerRun.seconds
      dsimp only
      generalize told_eq : (run.sleep others ticks).report = told at works due lived
      by_cases late : lifetime ≤ told.now - start
      · rw [if_pos late, if_pos late]
        refine ⟨told, true, rfl, works, lived, ?_, fun _ _ => rfl⟩
        intro second member
        rw [List.mem_singleton.mp member]
        exact count
      · rw [if_neg late, if_neg late]
        obtain ⟨later, ended, same, last, rest, counts, ends⟩ := ih works (by omega)
        refine ⟨later, ended, same, last, lived.next rfl rest, ?_, fun _ time => ?_⟩
        · intro second member
          rcases List.mem_cons.mp member with rfl | behind
          · exact count
          · exact counts second behind
        · rw [Nat.succ_mul] at time
          refine ends ?_ (by omega)
          apply Nat.pos_of_ne_zero
          rintro rfl
          omega

/-- Whoever opens the ring afterwards finds what the producer had mapped. -/
theorem Working.openMapped (working : run.Working path location capacity) :
    let bytes := run.load.channel.region.toBytes
    (run.mapping.store run.files).openMapped path = .ok (location, bytes) ∧
      RingFile.ofBytes bytes = .whole (.ofBytes bytes) ∧
        (Region.ofBytes bytes).page = run.load.channel.page ∧
          (Region.ofBytes bytes).data = run.load.channel.region.data := by
  intro bytes
  have stored : run.mapping.store run.files = run.files.store location bytes := by
    unfold mapping Mapping.store
    dsimp only
    rw [working.lies]
  obtain ⟨page, data, -⟩ := working.padded.ofBytes_toBytes
  exact ⟨stored ▸ working.offers.openMapped_store bytes, working.padded.ringFile, page, data⟩

theorem reports_stop (run : ProducerRun) :
    run.stop.load.channel.reports =
      run.load.channel.reports ++
        [.producerFinished run.load.totals.written run.load.totals.dropped] := by
  unfold stop log
  dsimp only
  rw [Channel.reports_log, Channel.reports_log]
  exact congrArg (· ++ _) (List.append_nil _)

theorem endings_stop (run : ProducerRun) :
    run.stop.load.channel.endings = run.load.channel.endings := by
  unfold stop log
  dsimp only
  rw [Channel.endings_log _ rfl, Channel.endings_log _ rfl]

end ProducerRun

end RecordRing
