import RecordRing.Process.ProducerRun
import RecordRing.Proofs.GeneratorTraffic
import RecordRing.Proofs.StaleBytes

set_option autoImplicit false

namespace RecordRing

open LoadGenerator

/-- A generator at work: it pushes one payload after another, at any times, and between two pushes
anything may become of the ring but of its capacity. -/
inductive LoadGenerator.Works :
    LoadGenerator → Channel → List PushOutcome → LoadGenerator → Channel → Prop
  | done (generator : LoadGenerator) (channel : Channel) : Works generator channel [] generator channel
  | tick {generator last : LoadGenerator} {channel after : Channel} {outcomes : List PushOutcome}
      (filled now : UInt64)
      (rest : Works (generator.tickAt channel filled now).2.1
        (generator.tickAt channel filled now).2.2 outcomes last after) :
      Works generator channel ((generator.tickAt channel filled now).1 :: outcomes) last after
  | other {generator last : LoadGenerator} {channel after : Channel} {outcomes : List PushOutcome}
      (later : Channel) (same : later.capacity = channel.capacity)
      (rest : Works generator later outcomes last after) : Works generator channel outcomes last after

structure LoadGenerator.Suits (generator : LoadGenerator) (channel : Channel) : Prop where
  power : isPowerOfTwo channel.capacity = true
  short : generator.buffer.size ≤ channel.maxPayload.toNat

namespace LoadGenerator

variable {generator middle last : LoadGenerator} {channel between after : Channel}
  {outcomes more : List PushOutcome}

theorem Suits.of_capacity (suits : generator.Suits channel)
    (same : after.capacity = channel.capacity) : generator.Suits after := by
  obtain ⟨power, short⟩ := suits
  constructor
  · rwa [same]
  · rwa [Channel.maxPayload, same]

/-- A generator that was just made suits the ring that its size was checked for. -/
theorem suits_of_make (power : isPowerOfTwo channel.capacity = true) {size : UInt64}
    (made : make channel.maxPayload size = .ok generator) : generator.Suits channel := by
  obtain ⟨-, fits, rfl⟩ := make_eq_ok_iff.mp made
  constructor
  · exact power
  · rw [UInt64.le_iff_toNat_le] at fits
    rwa [Buffer.size_zeros]

/-- A payload that fits is not too large, and the next one will fit. -/
theorem Suits.tick (suits : generator.Suits channel) (filled now : UInt64) :
    (generator.tickAt channel filled now).1 ≠ .tooLarge ∧
      (generator.tickAt channel filled now).2.1.Suits (generator.tickAt channel filled now).2.2 := by
  have pushed := Channel.pushed_push suits.power channel.misses_page now
    (generator.payload filled).toBytes
  have size := generator.size_payload filled
  have framed := Channel.framed_of_pushed pushed
  constructor
  · intro large
    change (channel.push now (generator.payload filled).toBytes).1 = .tooLarge at large
    rw [large] at pushed
    have short := suits.short
    generalize (channel.push now (generator.payload filled).toBytes).2 = pushedTo at pushed
    cases pushed with
    | tooLarge long =>
        rw [Buffer.length_toBytes, size] at long
        omega
  · constructor
    · change isPowerOfTwo (channel.push now (generator.payload filled).toBytes).2.capacity = true
      rw [framed.capacity]
      exact suits.power
    · change (generator.payload filled).size ≤
        (maxPayload (channel.push now (generator.payload filled).toBytes).2.capacity).toNat
      rw [framed.capacity, size]
      exact suits.short

/-- So none is ever too large. -/
theorem Works.tooLarge_not_mem (works : generator.Works channel outcomes last after)
    (suits : generator.Suits channel) : .tooLarge ∉ outcomes := by
  induction works with
  | done generator channel => exact List.not_mem_nil
  | tick filled now rest ih =>
      obtain ⟨fits, next⟩ := suits.tick filled now
      intro member
      rcases List.mem_cons.mp member with same | later
      · exact fits same.symm
      · exact ih next later
  | other later same rest ih => exact ih (suits.of_capacity same)

theorem Works.trans (works : generator.Works channel outcomes middle between)
    (goes : middle.Works between more last after) :
    generator.Works channel (outcomes ++ more) last after := by
  induction works with
  | done generator channel => exact goes
  | tick filled now rest ih => exact .tick filled now (ih goes)
  | other later same rest ih => exact .other later same (ih goes)

/-- Whatever becomes of the ring in the end. -/
theorem Works.leave (works : generator.Works channel outcomes last between) (after : Channel)
    (same : after.capacity = between.capacity) : generator.Works channel outcomes last after := by
  have left := works.trans (.other after same (.done last after))
  rwa [List.append_nil] at left

theorem Disturbance.capacity_apply (disturbance : Disturbance) (channel : Channel) (now : UInt64) :
    (disturbance.apply channel now).capacity = channel.capacity := by
  have drained (rated : Channel) :
      (if disturbance.drain then (rated.advanceTail now rated.page.head).2 else rated).capacity =
        rated.capacity := by
    split
    · exact (rated.settles_advanceTail now _).framed.capacity
    · rfl
  unfold apply
  cases disturbance.rate with
  | none => exact drained channel
  | some rate => exact (drained _).trans (channel.kept_setRate rate).capacity

structure Run.Goes (run : Run) (outcomes : List PushOutcome) (later : Run) : Prop where
  works : run.generator.Works run.channel outcomes later.generator later.channel
  totals : later.totals = outcomes.foldl LoadTotals.count run.totals

theorem Run.Goes.trans {first second third : Run} (left : first.Goes outcomes second)
    (right : second.Goes more third) : first.Goes (outcomes ++ more) third where
  works := left.works.trans right.works
  totals := by rw [right.totals, left.totals, List.foldl_append]

theorem Run.goes_cycle (run : Run) (disturbance : Disturbance) :
    run.Goes [(run.generator.tick run.channel run.now).1] (run.cycle disturbance) where
  works := .tick run.now run.now (.other _ (disturbance.capacity_apply _ _) (.done _ _))
  totals := rfl

theorem Run.goes_cycles (run : Run) (disturbances : Nat → Disturbance) (done left : Nat) :
    ∃ outcomes, outcomes.length = left ∧ run.Goes outcomes (run.cycles disturbances done left) := by
  induction left generalizing run done with
  | zero => exact ⟨[], rfl, .done _ _, rfl⟩
  | succ left ih =>
      obtain ⟨outcomes, count, goes⟩ := ih (run.cycle (disturbances (done + 1))) (done + 1)
      refine ⟨_ :: outcomes, ?_, (run.goes_cycle (disturbances (done + 1))).trans goes⟩
      rw [List.length_cons, count]

/-- A whole run is work, one push for each sleep. -/
theorem works_runUntil (generator : LoadGenerator) (channel : Channel) (now : UInt64) (sleeps : Nat)
    (disturbances : Nat → Disturbance) :
    let run := generator.runUntil channel now sleeps disturbances
    ∃ outcomes, outcomes.length = sleeps ∧
      generator.Works channel outcomes run.generator run.channel ∧
        run.totals = outcomes.foldl LoadTotals.count {} := by
  intro run
  let start : Run :=
    { generator
      channel := channel.log (.generatorStarted (UInt64.ofNat generator.buffer.size) channel.rate)
      now }
  obtain ⟨outcomes, count, goes⟩ := start.goes_cycles disturbances 0 sleeps
  have works := goes.works.leave run.channel rfl
  exact ⟨outcomes, count, .other start.channel rfl works, goes.totals⟩

end LoadGenerator

namespace ProducerRun

theorem goes_report (run : ProducerRun) : run.load.Goes [] run.report.load where
  works := (Works.done run.load.generator run.load.channel).leave run.report.load.channel rfl
  totals := rfl

/-- What others do to the file of the ring does not change its capacity here. -/
theorem goes_sleep (run : ProducerRun) (others : Surroundings) (ticks : Nat) :
    ∃ outcomes, outcomes.length = ticks ∧ run.load.Goes outcomes (run.sleep others ticks).load := by
  obtain ⟨outcomes, count, goes⟩ := run.load.goes_cycles (fun _ => {}) 0 ticks
  exact ⟨outcomes, count, goes.works.leave _ rfl, goes.totals⟩

/-- So all that a producer does while it lives is work of its generator. -/
theorem goes_reports (run : ProducerRun) (others : Surroundings)
    (ticks start lifetime fuel : Nat) :
    ∃ outcomes, run.load.Goes outcomes (run.reports others ticks start lifetime fuel).1.load := by
  induction fuel generalizing run with
  | zero => exact ⟨[], .done _ _, rfl⟩
  | succ fuel ih =>
      obtain ⟨outcomes, -, slept⟩ := run.goes_sleep others ticks
      have told := slept.trans (run.sleep others ticks).goes_report
      unfold reports
      dsimp only
      split
      · exact ⟨_, told⟩
      · obtain ⟨more, goes⟩ := ih (run.sleep others ticks).report
        exact ⟨_, told.trans goes⟩

end ProducerRun

end RecordRing
