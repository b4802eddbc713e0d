import RecordRing.Proofs.ProducerAccounts

set_option autoImplicit false

namespace RecordRing

open LoadGenerator (Run intervalNanos)

namespace LoadGenerator

variable {run : Run} {capacity : UInt64}

/-- Within a second, pushes are one interval apart. -/
theorem Run.Able.time_pushes (able : run.Able capacity) {left place : Nat} {push : Push}
    (made : (run.pushes left)[place]? = some push) :
    push.time = run.now + UInt64.ofNat (place * intervalNanos run.channel.rate) := by
  induction left generalizing run place with
  | zero => cases made
  | succ left ih =>
      cases place with
      | zero =>
          cases made
          rw [Nat.zero_mul]
          exact (UInt64.add_zero _).symm
      | succ place =>
          obtain ⟨next, went⟩ := able.cycle
          have rate := went.aside.rate
          have later : (run.cycle {}).now = run.now + UInt64.ofNat (intervalNanos run.channel.rate) := by
            rw [← rate]
            rfl
          rw [ih next made, rate, later, UInt64.add_assoc, ← UInt64.ofNat_add, Nat.succ_mul,
            Nat.add_comm (place * _)]

end LoadGenerator

namespace ProducerRun

def period (rate : UInt32) (ticks : Nat) : Nat :=
  max (ticks * intervalNanos rate) reportInterval

variable {path : String} {location : List String} {capacity : UInt64} {run : ProducerRun}
  {others : Surroundings}

/-- The generator has slept for as many intervals as there were pushes. -/
theorem Working.now_sleep (working : run.Working path location capacity) (others : Surroundings)
    (ticks : Nat) :
    (run.sleep others ticks).now = run.now + period run.load.channel.rate ticks := by
  obtain ⟨-, went⟩ := working.able.cycles 0 ticks
  have slept : ((run.work ticks).changedBy others).workedSince run =
      ticks * intervalNanos run.load.channel.rate := by
    change ((run.load.cycles (fun _ => {}) 0 ticks).slept.toList.drop run.load.slept.size).sum = _
    rw [went.slept, ← Array.length_toList, List.drop_left, List.sum_replicate_nat,
      Run.length_pushes]
  change run.now + max (((run.work ticks).changedBy others).workedSince run) reportInterval = _
  rw [slept]
  rfl

theorem Working.rate_sleep (working : run.Working path location capacity) (others : Surroundings)
    (ticks : Nat) :
    (run.sleep others ticks).load.channel.rate = run.load.channel.rate := by
  obtain ⟨-, went⟩ := working.able.cycles 0 ticks
  exact went.aside.rate

/-- The clock of the generator is that of the run, cut to a word. -/
theorem synced_sleep (run : ProducerRun) (others : Surroundings) (ticks : Nat) :
    (run.sleep others ticks).load.now = UInt64.ofNat (run.sleep others ticks).now := rfl

/-- The time of a push, told by its number. -/
theorem Working.time_pushed (working : run.Working path location capacity)
    (surrounded : Surrounded path location others) (synced : run.load.now = UInt64.ofNat run.now)
    {ticks start lifetime fuel place : Nat} (some : 0 < ticks) {push : Push}
    (made : (Second.pushed (run.seconds others ticks start lifetime fuel))[place]? = .some push) :
    push.time = UInt64.ofNat (run.now + place / ticks * period run.load.channel.rate ticks +
      place % ticks * intervalNanos run.load.channel.rate) := by
  induction fuel generalizing run place with
  | zero => cases made
  | succ fuel ih =>
      unfold ProducerRun.seconds at made
      dsimp only at made
      rw [Second.pushed_cons] at made
      have count := Run.length_pushes run.load ticks
      dsimp only at made
      rcases Nat.lt_or_ge place ticks with now | later
      · rw [List.getElem?_append_left (by omega)] at made
        rw [working.able.time_pushes made, synced, ← UInt64.ofNat_add, Nat.div_eq_of_lt now,
          Nat.mod_eq_of_lt now, Nat.zero_mul, Nat.add_zero]
      · rw [List.getElem?_append_right (by omega), count] at made
        obtain ⟨works, -, -⟩ := working.step surrounded ticks
        have rate : (run.sleep others ticks).report.load.channel.rate = run.load.channel.rate :=
          working.rate_sleep others ticks
        have time : (run.sleep others ticks).report.now =
            run.now + period run.load.channel.rate ticks := working.now_sleep others ticks
        split at made
        · cases made
        · have next := ih works (run.synced_sleep others ticks) made
          rw [next, time, rate]
          have whole : place / ticks = (place - ticks) / ticks + 1 := Nat.div_eq_sub_div some later
          rw [whole, Nat.succ_mul, Nat.mod_eq_sub_mod later]
          congr 1
          omega

theorem reportInterval_le_period (rate : UInt32) (ticks : Nat) : reportInterval ≤ period rate ticks :=
  Nat.le_max_right ..

/-- A lifetime is as many seconds as it takes until it is over, and one at least. -/
theorem Working.length_seconds (working : run.Working path location capacity)
    (surrounded : Surrounded path location others) {ticks start lifetime fuel : Nat}
    (began : start ≤ run.now) (some : 0 < fuel)
    (enough : lifetime ≤ run.now - start + fuel * reportInterval) :
    let step := period run.load.channel.rate ticks
    (run.seconds others ticks start lifetime fuel).length =
      max 1 ((lifetime - (run.now - start) + step - 1) / step) := by
  intro step
  have least : reportInterval ≤ step := reportInterval_le_period ..
  have second : reportInterval = 1000000000 := rfl
  induction fuel generalizing run with
  | zero => exact absurd some (Nat.lt_irrefl 0)
  | succ fuel ih =>
      obtain ⟨works, -, -⟩ := working.step surrounded ticks
      have rate : (run.sleep others ticks).report.load.channel.rate = run.load.channel.rate :=
        working.rate_sleep others ticks
      have time : (run.sleep others ticks).report.now = run.now + step := working.now_sleep others ticks
      unfold ProducerRun.seconds
      dsimp only
      by_cases late : lifetime ≤ (run.sleep others ticks).report.now - start
      · have few : (lifetime - (run.now - start) + step - 1) / step ≤ 1 :=
          Nat.le_of_lt_succ ((Nat.div_lt_iff_lt_mul (by omega)).mpr (by omega))
        rw [if_pos late, Nat.max_eq_left few]
        rfl
      · -- One period later the quotient is less by one: it counts the seconds that are left.
        have left : lifetime - (run.now - start) + step - 1 =
            lifetime - ((run.sleep others ticks).report.now - start) + step - 1 + step := by omega
        rw [Nat.succ_mul] at enough
        have rest := ih works (by omega) (Nat.pos_of_ne_zero fun none => by subst none; omega)
          (by omega) (by rw [rate]; exact least)
        have more : 1 ≤
            (lifetime - ((run.sleep others ticks).report.now - start) + step - 1) / step :=
          (Nat.le_div_iff_mul_le (by omega)).mpr (by omega)
        rw [rate, Nat.max_eq_right more] at rest
        rw [if_neg late, List.length_cons, rest, left, Nat.add_div_right _ (by omega),
          Nat.max_eq_right (by omega)]

end ProducerRun

end RecordRing
