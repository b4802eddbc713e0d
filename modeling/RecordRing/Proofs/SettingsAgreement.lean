import RecordRing.Proofs.Creation
import RecordRing.Proofs.GeneratorSizes
import RecordRing.Settings

set_option autoImplicit false

namespace RecordRing

/-- The capacities that settings can ask for. -/
theorem capacity_of_order {order : UInt32} (least : 6 ≤ order) (most : order ≤ 30) :
    isPowerOfTwo (1 <<< order.toUInt64) = true ∧ minCapacity ≤ 1 <<< order.toUInt64 ∧
      (1 : UInt64) <<< order.toUInt64 ≤ 1073741824 := by
  have each : ∀ bits : Fin 31, 6 ≤ bits.val →
      let capacity : UInt64 := 1 <<< (UInt32.ofNat bits.val).toUInt64
      isPowerOfTwo capacity = true ∧ minCapacity ≤ capacity ∧ capacity ≤ 1073741824 := by
    decide
  rw [UInt32.le_iff_toNat_le] at least most
  have known := each ⟨order.toNat, Nat.lt_succ_of_le most⟩ least
  rwa [UInt32.ofNat_toNat] at known

namespace Settings

variable {settings : Settings}

theorem validate_eq_ok_iff (settings : Settings) :
    settings.validate = .ok () ↔
      (6 ≤ settings.ringOrder ∧ settings.ringOrder ≤ 30) ∧
        (1 ≤ settings.rate ∧ settings.rate ≤ 100000) ∧
          (settings.lo ≤ settings.hi ∧ settings.hi ≤ 100) ∧
            LoadPattern.minPayload ≤ settings.payloadSize.toNat ∧
              settings.payloadSize ≤ settings.maxPayload := by
  unfold validate checkWith Id.run maxPayload capacity
  simp only [pure, bind, minOrder, maxOrder, Bool.or_eq_true, decide_eq_true_eq, beq_iff_eq, GT.gt,
    ← UInt32.toNat_inj, UInt32.lt_iff_toNat_lt, UInt32.le_iff_toNat_le, UInt64.lt_iff_toNat_lt,
    UInt64.le_iff_toNat_le, UInt32.reduceToNat]
  split
  · simp only [reduceCtorEq, false_iff]
    omega
  · split
    · simp only [reduceCtorEq, false_iff]
      omega
    · split
      · simp only [reduceCtorEq, false_iff]
        omega
      · split
        · simp only [reduceCtorEq, false_iff]
          omega
        · simp only [true_iff]
          omega

theorem plan_eq_ok_iff (settings : Settings) (plan : RingPlan) :
    settings.plan = .ok plan ↔
      settings.ringOrder < 64 ∧ checkCapacity settings.capacity = .ok () ∧
        checkWatermarks settings.hi settings.lo = .ok () ∧ checkRate settings.rate = .ok () ∧
          plan = ⟨settings.capacity, settings.hi, settings.lo, settings.rate⟩ := by
  unfold Settings.plan RingPlan.ofOrder RingPlan.ofCapacity RingPlan.withWatermarks RingPlan.withRate
  change _ ↔ _ ∧ checkCapacity (1 <<< settings.ringOrder.toUInt64) = _ ∧ _
  by_cases fits : settings.ringOrder < 64
  · rw [if_pos fits]
    cases checkCapacity (1 <<< settings.ringOrder.toUInt64) with
    | error fault => simp [bind, Except.bind]
    | ok large =>
        cases checkWatermarks settings.hi settings.lo with
        | error fault => simp [bind, Except.bind, pure, Except.pure]
        | ok ordered =>
            cases checkRate settings.rate with
            | error fault => simp [bind, Except.bind, pure, Except.pure]
            | ok paced =>
                simp only [bind, Except.bind, pure, Except.pure, Except.ok.injEq, fits, true_and]
                exact eq_comm
  · rw [if_neg fits]
    simp [bind, Except.bind, fits]

/-- The two formulas for the largest payload differ only for rings larger than settings can ask for. -/
theorem maxPayload_eq (settings : Settings) (least : 6 ≤ settings.ringOrder)
    (most : settings.ringOrder ≤ 30) : settings.maxPayload = RecordRing.maxPayload settings.capacity := by
  obtain ⟨-, -, small⟩ := capacity_of_order least most
  change settings.capacity ≤ 1073741824 at small
  rw [UInt64.le_iff_toNat_le] at small
  have largest : (0xFFFFFFFF : UInt64).toNat = 4294967295 := rfl
  have header : (52 : UInt64).toNat = 52 := rfl
  rw [maxPayload, largestIn, RecordRing.maxPayload]
  by_cases tiny : settings.capacity < 52
  · rw [if_pos tiny]
    rfl
  · rw [if_neg tiny]
    rw [UInt64.not_lt] at tiny
    have room : (settings.capacity - 52).toNat = settings.capacity.toNat - 52 :=
      UInt64.toNat_sub_of_le _ _ tiny
    have within : settings.capacity - 52 ≤ 0xFFFFFFFF := by
      rw [UInt64.le_iff_toNat_le, room]
      change settings.capacity.toNat ≤ 1073741824 at small
      omega
    exact (if_pos within).symm

/-- One bit shifted to the left, where there is a place for it. -/
def shift? (order : UInt32) : Option UInt64 :=
  if order < 64 then some (1 <<< order.toUInt64) else none

/-- The same checks where a shift by 64 or more has no result. -/
def validate? (settings : Settings) : Option (Except Fault Unit) :=
  settings.checkWith shift?

/-- The checks come to the same with any shift that has the right result for orders in their range. -/
theorem checkWith_eq {m : Type → Type} [Monad m] [LawfulMonad m] {shift : UInt32 → m UInt64}
    (settings : Settings)
    (shifts : settings.ringOrder ≤ 30 → shift settings.ringOrder = pure settings.capacity) :
    settings.checkWith shift = pure settings.validate := by
  unfold validate checkWith
  split
  · rfl
  · rename_i inside
    have most : settings.ringOrder ≤ 30 := by
      rw [Bool.or_eq_true, not_or] at inside
      exact UInt32.not_lt.mp fun large => inside.2 (decide_eq_true large)
    split
    · rfl
    · split
      · rfl
      · rw [shifts most, pure_bind]
        exact (apply_ite pure _ _ _).symm

/-- Whatever the order is, the checks do not shift out of the word. -/
theorem validate?_eq (settings : Settings) : settings.validate? = some settings.validate := by
  apply settings.checkWith_eq
  intro most
  exact if_pos (UInt32.lt_of_le_of_lt most (by decide))

end Settings

/-- A ring was made after the plan, in memory of its own or in a file, whatever was in it. -/
def RingPlan.Makes (plan : RingPlan) (channel : Channel) : Prop :=
  Channel.anonymous plan = .ok channel ∨ ∃ path found, Channel.create path found plan = .ok channel

theorem RingPlan.Makes.fresh {plan : RingPlan} {channel : Channel} (makes : plan.Makes channel) :
    Channel.Fresh plan channel := by
  rcases makes with anonymous | ⟨path, found, created⟩
  · obtain ⟨valid, -, rfl⟩ := (Channel.anonymous_eq_ok_iff plan channel).mp anonymous
    exact Channel.fresh_made valid _
  · obtain ⟨valid, -, rfl⟩ := (Channel.create_eq_ok_iff path found plan channel).mp created
    exact Channel.fresh_made valid _

theorem RingPlan.Makes.maxPayload {plan : RingPlan} {channel : Channel} (makes : plan.Makes channel) :
    channel.maxPayload = RecordRing.maxPayload plan.capacity := by
  rw [Channel.maxPayload, makes.fresh.capacity]

/-- There is memory for a ring of a gigabyte. -/
theorem RingPlan.makes_of_small {plan : RingPlan} (valid : plan.validate = .ok ())
    (small : plan.capacity ≤ 1073741824) : ∃ channel, plan.Makes channel := by
  obtain ⟨power, -⟩ := plan.validate_eq_ok_iff.mp valid
  rw [UInt64.le_iff_toNat_le] at small
  change plan.capacity.toNat ≤ 1073741824 at small
  have length := toNat_bytesForRing power
  have page : controlPageSize.toNat = 4096 := rfl
  have granted : MappedFile.checkMemoryLength (bytesForRing plan.capacity).toNat = .ok () := by
    have signed : MappedFile.signedLimit = 9223372036854775808 := rfl
    have address : MappedFile.addressLimit = 140737488355328 := rfl
    rw [MappedFile.checkMemoryLength, if_neg (by omega), if_neg (by omega)]
  refine ⟨_, .inl ((Channel.anonymous_eq_ok_iff plan _).mpr ⟨valid, ?_, rfl⟩)⟩
  rw [granted]
  rfl

namespace Settings

variable {settings : Settings}

/-- Accepted settings have a plan that is accepted, of a ring of a gigabyte at most. -/
theorem plan_of_accepted (accepted : settings.validate = .ok ()) :
    ∃ plan, settings.plan = .ok plan ∧ plan.validate = .ok () ∧ plan.capacity ≤ 1073741824 := by
  obtain ⟨⟨least, most⟩, rate, marks, -⟩ := settings.validate_eq_ok_iff.mp accepted
  obtain ⟨power, large, small⟩ := capacity_of_order least most
  have fits : settings.ringOrder < 64 := UInt32.lt_of_le_of_lt most (by decide)
  refine ⟨⟨settings.capacity, settings.hi, settings.lo, settings.rate⟩, ?_, ?_, small⟩
  · rw [plan_eq_ok_iff, checkCapacity_eq_ok_iff, checkWatermarks_eq_ok_iff, checkRate_eq_ok_iff]
    exact ⟨fits, ⟨power, large⟩, marks, rate, rfl⟩
  · rw [RingPlan.validate_eq_ok_iff]
    exact ⟨power, large, marks, rate⟩

/-- What is planned after settings has their capacity. -/
theorem capacity_of_plan {plan : RingPlan} (planned : settings.plan = .ok plan) :
    plan.capacity = settings.capacity := by
  obtain ⟨-, -, -, -, rfl⟩ := (settings.plan_eq_ok_iff plan).mp planned
  rfl

/-- A generator is made for the payloads of accepted settings, whichever ring is made after them. -/
theorem make_of_accepted (accepted : settings.validate = .ok ()) {plan : RingPlan} {channel : Channel}
    (planned : settings.plan = .ok plan) (makes : plan.Makes channel) :
    LoadGenerator.make channel.maxPayload settings.payloadSize =
      .ok { buffer := .zeros settings.payloadSize.toNat } := by
  obtain ⟨⟨least, most⟩, -, -, room, fits⟩ := settings.validate_eq_ok_iff.mp accepted
  rw [settings.maxPayload_eq least most, ← capacity_of_plan planned, ← makes.maxPayload] at fits
  exact LoadGenerator.make_eq_ok_iff.mpr ⟨room, fits, rfl⟩

/-- Settings are accepted where the order is in its range, a plan can be made of them, a ring after the
plan, and a generator for the ring. -/
theorem accepted_iff (settings : Settings) :
    settings.validate = .ok () ↔
      (6 ≤ settings.ringOrder ∧ settings.ringOrder ≤ 30) ∧
        ∃ plan channel generator, settings.plan = .ok plan ∧ plan.validate = .ok () ∧
          plan.Makes channel ∧
            LoadGenerator.make channel.maxPayload settings.payloadSize = .ok generator := by
  constructor
  · intro accepted
    obtain ⟨order, -⟩ := settings.validate_eq_ok_iff.mp accepted
    obtain ⟨plan, planned, valid, small⟩ := plan_of_accepted accepted
    obtain ⟨channel, makes⟩ := RingPlan.makes_of_small valid small
    exact ⟨order, plan, channel, _, planned, valid, makes, make_of_accepted accepted planned makes⟩
  · rintro ⟨⟨least, most⟩, plan, channel, generator, planned, -, makes, made⟩
    have capacity := capacity_of_plan planned
    obtain ⟨-, -, marks, rate, -⟩ := (settings.plan_eq_ok_iff plan).mp planned
    obtain ⟨room, fits, -⟩ := LoadGenerator.make_eq_ok_iff.mp made
    rw [checkWatermarks_eq_ok_iff] at marks
    rw [checkRate_eq_ok_iff] at rate
    rw [makes.maxPayload, capacity, ← settings.maxPayload_eq least most] at fits
    exact settings.validate_eq_ok_iff.mpr ⟨⟨least, most⟩, rate, marks, room, fits⟩

variable {read : String → Except Toml.Fault Settings}

/-- Whatever is found in a text, it is returned just if it is accepted. -/
theorem parseWith_eq_ok_iff (text : String) (settings : Settings) :
    parseWith read text = .ok settings ↔
      read text = .ok settings ∧ settings.validate = .ok () := by
  unfold parseWith
  cases read text with
  | error fault => simp
  | ok found =>
      dsimp only
      cases accepted : found.validate with
      | error fault =>
          simp only [reduceCtorEq, Except.ok.injEq, false_iff, not_and]
          rintro rfl
          rw [accepted]
          nofun
      | ok done =>
          simp only [Except.ok.injEq]
          constructor
          · rintro rfl
            exact ⟨rfl, accepted⟩
          · rintro ⟨same, -⟩
            exact same

theorem accepted_of_load {path : String} {contents : Except Failure Bytes}
    (loaded : loadWith read path contents = .ok settings) : settings.validate = .ok () := by
  unfold loadWith at loaded
  split at loaded
  · cases loaded
  · split at loaded
    · cases loaded
    · exact ((parseWith_eq_ok_iff ..).mp loaded).2

/-- The defaults are accepted too. -/
theorem accepted_of_loadOrDefault {file : Option (String × Except Failure Bytes)}
    (loaded : loadOrDefaultWith read file = .ok settings) : settings.validate = .ok () := by
  cases file with
  | none =>
      cases loaded
      rfl
  | some named => exact accepted_of_load loaded

/-- What the checks of settings, plans and generators have to do with each other. -/
structure Agrees (settings : Settings) : Prop where
  accepted : settings.validate = .ok () ↔
    (6 ≤ settings.ringOrder ∧ settings.ringOrder ≤ 30) ∧
      ∃ plan channel generator, settings.plan = .ok plan ∧ plan.validate = .ok () ∧
        plan.Makes channel ∧
          LoadGenerator.make channel.maxPayload settings.payloadSize = .ok generator
  unshifted : settings.validate? = some settings.validate
  /-- The largest payload is the same for the settings, the plan and the ring. -/
  largest : settings.validate = .ok () → ∀ plan channel, settings.plan = .ok plan →
    plan.Makes channel → settings.maxPayload = RecordRing.maxPayload plan.capacity ∧
      settings.maxPayload = channel.maxPayload
  /-- Settings that are read, in whatever way, are returned just if they are accepted. -/
  parsed : ∀ read text, parseWith read text = .ok settings ↔
    read text = .ok settings ∧ settings.validate = .ok ()
  loaded : ∀ read path contents, loadWith read path contents = .ok settings →
    settings.validate = .ok ()
  defaulted : ∀ read file, loadOrDefaultWith read file = .ok settings → settings.validate = .ok ()
  usual : ∀ read, loadOrDefaultWith read none = .ok {} ∧ ({} : Settings).validate = .ok ()
  /-- Every ring that is made after accepted settings has a generator for their payloads. -/
  suited : settings.validate = .ok () → ∀ plan channel, settings.plan = .ok plan →
    plan.Makes channel →
      ∃ generator, LoadGenerator.make channel.maxPayload settings.payloadSize = .ok generator
  /-- A generator for a ring made after the settings never pushes too much, whatever else becomes of
  the ring; and its runs, by itself and in a producer, are work of this kind. -/
  fits : settings.validate = .ok () → ∀ plan made generator, settings.plan = .ok plan →
    plan.Makes made → LoadGenerator.make made.maxPayload settings.payloadSize = .ok generator →
      ∀ channel : Channel, channel.capacity = made.capacity →
        (∀ outcomes last after, generator.Works channel outcomes last after →
          .tooLarge ∉ outcomes) ∧
        (∀ now sleeps disturbances,
          let run := generator.runUntil channel now sleeps disturbances
          ∃ outcomes, outcomes.length = sleeps ∧
            generator.Works channel outcomes run.generator run.channel ∧
              run.totals = outcomes.foldl LoadTotals.count {}) ∧
        ∀ run : ProducerRun, run.load.generator = generator → run.load.channel = channel →
          ∀ others ticks start lifetime fuel,
            let later := (run.reports others ticks start lifetime fuel).1
            ∃ outcomes, generator.Works channel outcomes later.load.generator later.load.channel ∧
              later.load.totals = outcomes.foldl LoadTotals.count run.load.totals

theorem agrees (settings : Settings) : settings.Agrees := by
  constructor
  case accepted => exact settings.accepted_iff
  case unshifted => exact settings.validate?_eq
  case largest =>
    intro accepted plan channel planned makes
    obtain ⟨⟨least, most⟩, -⟩ := settings.validate_eq_ok_iff.mp accepted
    have same := settings.maxPayload_eq least most
    rw [← capacity_of_plan planned] at same
    exact ⟨same, same.trans makes.maxPayload.symm⟩
  case parsed =>
    intro read text
    exact parseWith_eq_ok_iff text settings
  case loaded =>
    intro read path contents
    exact accepted_of_load
  case defaulted =>
    intro read file
    exact accepted_of_loadOrDefault
  case usual => exact fun _ => ⟨rfl, rfl⟩
  case suited =>
    intro accepted plan channel planned makes
    exact ⟨_, make_of_accepted accepted planned makes⟩
  case fits =>
    intro accepted plan made generator planned makes size channel same
    obtain ⟨power, -⟩ := plan.validate_eq_ok_iff.mp makes.fresh.valid
    rw [← makes.fresh.capacity] at power
    have suits : generator.Suits channel :=
      (LoadGenerator.suits_of_make power size).of_capacity same
    refine ⟨?_, ?_, ?_⟩
    · intro outcomes last after works
      exact works.tooLarge_not_mem suits
    · intro now sleeps disturbances
      exact generator.works_runUntil channel now sleeps disturbances
    · rintro run rfl rfl others ticks start lifetime fuel
      obtain ⟨outcomes, goes⟩ := run.goes_reports others ticks start lifetime fuel
      exact ⟨outcomes, goes.works, goes.totals⟩

/-- The smallest ring with room for a payload that can be checked, and payloads that take all of it. -/
theorem agrees_to_the_brim :
    let settings : Settings := { ringOrder := 7, payloadSize := 76 }
    settings.validate = .ok () ∧ settings.maxPayload = 76 ∧
      ∃ plan channel generator, settings.plan = .ok plan ∧ plan.Makes channel ∧
        LoadGenerator.make channel.maxPayload settings.payloadSize = .ok generator ∧
        settings.maxPayload = channel.maxPayload ∧
        ∀ outcomes last after, generator.Works channel outcomes last after → .tooLarge ∉ outcomes := by
  intro settings
  have accepted : settings.validate = .ok () := by decide
  have agrees := settings.agrees
  obtain ⟨-, plan, channel, generator, planned, -, makes, made⟩ := agrees.accepted.mp accepted
  obtain ⟨-, largest⟩ := agrees.largest accepted plan channel planned makes
  obtain ⟨never, -⟩ := agrees.fits accepted plan channel generator planned makes made channel rfl
  exact ⟨accepted, by decide, plan, channel, generator, planned, makes, made, largest, never⟩

end Settings

end RecordRing
