import RecordRing.Proofs.Notifications

set_option autoImplicit false

namespace RecordRing

namespace Gauge

variable {gauge : Gauge} {hi lo percent : UInt32} {time : UInt64}

/-- A set latch only falls at the low mark. -/
theorem low_of_clear (set : gauge.latched = true)
    (clear : (gauge.note hi lo time percent).latched = false) : percent ≤ lo := by
  rw [note_of_latched set] at clear
  by_cases low : percent ≤ lo
  · exact low
  · rw [if_neg low, set] at clear
    cases clear

/-- A clear latch rises at the high mark. -/
theorem latched_of_high (clear : gauge.latched = false) (high : hi ≤ percent) :
    (gauge.note hi lo time percent).latched = true := by
  rw [note_of_clear clear, if_pos high]

end Gauge

namespace Channel

variable {hi lo crest : UInt32} {now : UInt64} {before after : Channel} {sight : Sight}

theorem due_ne_nil {channel : Channel} {percent : UInt32} (asked : channel.due percent ≠ []) :
    channel.latched = false ∧ channel.page.hi ≤ percent := by
  unfold due at asked
  by_cases rises : channel.latched = false ∧ channel.page.hi ≤ percent
  · exact rises
  · rw [if_neg rises] at asked
    exact absurd rfl asked

/-- Whoever is due at the crest is asked, and nobody else. -/
theorem Stirs.signals_eq (stirs : Stirs hi lo now before sight crest after)
    (gauged : before.Gauged hi lo) : after.signals = before.signals ++ before.due crest := by
  cases stirs with
  | idle level gauge signals resets =>
      rw [gauged.due_eq_nil (fun clear => level ▸ gauged.below clear), List.append_nil]
      exact signals
  | overlooked level gauge signals resets =>
      rw [gauged.due_eq_nil (fun clear => UInt32.lt_of_le_of_lt level (gauged.below clear)),
        List.append_nil]
      exact signals
  | seen falls gauge signals resets => exact signals
  | cleared gauge signals more empty => exact signals

/-- The latch falls where the producing side finds the fill at the low mark. -/
theorem Stirs.low_of_falls (stirs : Stirs hi lo now before sight crest after)
    (set : before.latched = true) (clear : after.latched = false) :
    sight = .seen ∧ after.utilization ≤ lo := by
  cases stirs with
  | idle level gauge =>
      have same : after.latched = before.latched := congrArg Gauge.latched gauge
      rw [same, set] at clear
      cases clear
  | overlooked level gauge =>
      have same : after.latched = before.latched := congrArg Gauge.latched gauge
      rw [same, set] at clear
      cases clear
  | seen falls gauge =>
      have noted : ((before.gauge.note hi lo now crest).note hi lo now after.utilization).latched =
          false := by
        rw [← gauge]
        exact clear
      cases middle : (before.gauge.note hi lo now crest).latched with
      | true => exact ⟨rfl, Gauge.low_of_clear middle noted⟩
      | false => exact ⟨rfl, UInt32.le_trans falls (Gauge.low_of_clear set middle)⟩
  | cleared gauge signals more empty =>
      rw [empty]
      exact ⟨rfl, UInt32.zero_le⟩

/-- Where a notifier was asked, the latch is set, unless the notifier drained the ring. -/
theorem Stirs.low_of_asked (stirs : Stirs hi lo now before sight crest after)
    (gauged : before.Gauged hi lo) (asked : before.due crest ≠ []) (clear : after.latched = false) :
    after.utilization ≤ lo := by
  obtain ⟨unset, high⟩ := due_ne_nil asked
  rw [gauged.high] at high
  cases stirs with
  | idle level => exact absurd (level ▸ gauged.below unset) (UInt32.not_lt.mpr high)
  | overlooked level =>
      exact absurd (UInt32.lt_of_le_of_lt level (gauged.below unset)) (UInt32.not_lt.mpr high)
  | seen falls gauge =>
      have noted : ((before.gauge.note hi lo now crest).note hi lo now after.utilization).latched =
          false := by
        rw [← gauge]
        exact clear
      exact Gauge.low_of_clear (Gauge.latched_of_high unset high) noted
  | cleared gauge signals more empty =>
      rw [empty]
      exact UInt32.zero_le

/-- The latch rises where the crest is at the high mark, and then whoever is bound is asked. -/
theorem Stirs.due_of_rises (stirs : Stirs hi lo now before sight crest after)
    (gauged : before.Gauged hi lo) (unset : before.latched = false) (set : after.latched = true) :
    before.due crest = before.slot.bound.toList := by
  cases stirs with
  | idle level gauge =>
      have same : after.latched = before.latched := congrArg Gauge.latched gauge
      rw [same, unset] at set
      cases set
  | overlooked level gauge =>
      have same : after.latched = before.latched := congrArg Gauge.latched gauge
      rw [same, unset] at set
      cases set
  | seen falls gauge =>
      by_cases high : hi ≤ crest
      · rw [due, gauged.high, if_pos ⟨unset, high⟩]
      · have first : before.gauge.note hi lo now crest = before.gauge := by
          rw [Gauge.note_of_clear unset, if_neg high]
        have under : ¬ hi ≤ after.utilization := fun above => high (UInt32.le_trans above falls)
        have same : after.gauge = before.gauge := by
          rw [gauge, first, Gauge.note_of_clear unset, if_neg under]
        have clear : after.latched = before.latched := congrArg Gauge.latched same
        rw [clear, unset] at set
        cases set
  | cleared gauge =>
      have clear : after.latched = false := congrArg Gauge.latched gauge
      rw [clear] at set
      cases set

/-- A look at a fill at the low mark leaves the latch clear. -/
theorem Stirs.clear_of_low (stirs : Stirs hi lo now before .seen crest after) (apart : lo < hi)
    (low : after.utilization ≤ lo) : after.latched = false := by
  cases stirs with
  | seen falls gauge =>
      cases set : after.latched with
      | false => rfl
      | true =>
          have fits : after.gauge.Fits hi lo after.utilization := by
            rw [gauge]
            exact Gauge.fits_note apart now
          exact absurd low (UInt32.not_le.mpr (fits.above set))
  | cleared gauge => exact congrArg Gauge.latched gauge

/-- With a notifier bound, one is asked or the latch is clear in the end just where the latch was clear
before, or the fill was found at the low mark. -/
theorem Stirs.asked_or_clear_iff (stirs : Stirs hi lo now before sight crest after)
    (gauged : before.Gauged hi lo) (apart : lo < hi) (bound : before.slot.bound ≠ none) :
    before.due crest ≠ [] ∨ after.latched = false ↔
      before.latched = false ∨ sight = .seen ∧ after.utilization ≤ lo := by
  constructor
  · rintro (asked | clear)
    · exact Or.inl (due_ne_nil asked).1
    · cases set : before.latched with
      | false => exact Or.inl rfl
      | true => exact Or.inr (stirs.low_of_falls set clear)
  · rintro (unset | ⟨rfl, low⟩)
    · cases set : after.latched with
      | false => exact Or.inr rfl
      | true =>
          refine Or.inl ?_
          rw [stirs.due_of_rises gauged unset set]
          cases notifier : before.slot.bound with
          | none => exact absurd notifier bound
          | some notifier => nofun
    · exact Or.inr (stirs.clear_of_low apart low)

end Channel

namespace Watched

variable {origin : Origin} {plan : RingPlan} {path : String} {now : UInt64} {view : CreationView}
  {session : Session} {hi lo : UInt32} {channel : Channel} {early late : Watched}

def Steadfast (_ : Watched) (command : Command) : Prop :=
  command.LeavesMarks ∧ ∀ binding, command ≠ .bind binding

theorem minds_of_run (started : Session.start origin plan path now = (.created view, some session))
    (apart : plan.lo < plan.hi)
    (run : Run (fun _ command => command.LeavesMarks) ⟨session, none, []⟩ late) :
    ∃ channel, late.Minds plan.hi plan.lo channel := by
  induction run with
  | start =>
      obtain ⟨channel, minds, -⟩ := minds_of_start started apart
      exact ⟨channel, minds⟩
  | step run time command permitted ih =>
      obtain ⟨channel, minds⟩ := ih
      obtain ⟨after, next, -⟩ := minds_step minds apart time permitted
      exact ⟨after, next⟩

theorem bound_step {watched : Watched} {command : Command} (steadfast : watched.Steadfast command)
    (time : UInt64) : (watched.step time command).bound = watched.bound := by
  change watched.session.rebound watched.bound command = watched.bound
  unfold Session.rebound
  split
  · rename_i binding
    exact absurd rfl (steadfast.2 binding)
  · rfl

/-- Which requests a run makes, with the notifier that is bound all the time: none, just while the latch
stays set from the beginning. -/
theorem asked_of_run (apart : lo < hi) (minds : early.Minds hi lo channel)
    (bound : early.bound ≠ none) (run : Run Steadfast early late) :
    ∃ after asked between, late.Minds hi lo after ∧ late.bound = early.bound ∧
      late.moments = between ++ early.moments ∧ after.signals = channel.signals ++ asked ∧
      (∀ notifier ∈ asked, early.bound = some notifier) ∧
      (asked ≠ [] ∨ after.latched = false ↔ channel.latched = false ∨
        ∃ moment ∈ between, moment.sight = .seen ∧ moment.level ≤ lo) := by
  induction run with
  | start =>
      refine ⟨channel, [], [], minds, rfl, rfl, (List.append_nil _).symm, nofun, ?_⟩
      simp
  | step run time command permitted ih =>
      rename_i late
      obtain ⟨middle, asked, between, minds, same, moments, signals, named, iff⟩ := ih
      obtain ⟨after, next, notes⟩ := minds_step minds apart time permitted.1
      have stirs := notes.stirs
      have step := stirs.asked_or_clear_iff minds.gauged apart
        (by rw [minds.bound, same]; exact bound)
      rw [← notes.level] at step
      refine ⟨after, asked ++ middle.due (late.moment time command).crest,
        late.moment time command :: between, next, (bound_step permitted time).trans same, ?_, ?_, ?_, ?_⟩
      · rw [List.cons_append, ← moments]
        rfl
      · rw [stirs.signals_eq minds.gauged, signals, List.append_assoc]
      · intro notifier member
        rcases List.mem_append.mp member with old | new
        · exact named notifier old
        · unfold Channel.due at new
          rw [minds.bound, same] at new
          split at new
          · exact Option.mem_toList.mp new
          · cases new
      · have some (more : List Notifier) : asked ++ more ≠ [] ↔ asked ≠ [] ∨ more ≠ [] := by
          cases asked <;> simp
        rw [some, or_assoc, step, ← or_assoc, iff, or_assoc]
        simp only [List.mem_cons, exists_eq_or_imp]
        rw [or_comm (b := ∃ moment ∈ between, _)]

/-- A notifier stays bound between two points, at the second of which the ring is filled to the high
mark. It is asked in between just where the latch was clear at the first one, or the producing side
found the fill at the low mark on the way. -/
theorem asked_iff_found_low
    (started : Session.start origin plan path now = (.created view, some session))
    (apart : plan.lo < plan.hi)
    (before : Run (fun _ command => command.LeavesMarks) ⟨session, none, []⟩ early)
    {notifier : Notifier} (bound : early.bound = some notifier) (run : Run Steadfast early late)
    (full : plan.hi ≤ late.session.fill) :
    ∃ channel asked between, early.session.channel? = some channel ∧
      late.moments = between ++ early.moments ∧
      late.session.signals = early.session.signals ++ asked ∧
      (notifier ∈ asked ↔ channel.latched = false ∨
        ∃ moment ∈ between, moment.sight = .seen ∧ moment.level ≤ plan.lo) := by
  obtain ⟨channel, minds⟩ := minds_of_run started apart before
  obtain ⟨after, asked, between, next, -, moments, signals, named, iff⟩ :=
    asked_of_run apart minds (by rw [bound]; nofun) run
  obtain ⟨_, store⟩ := minds.store
  obtain ⟨_, storeAfter⟩ := next.store
  refine ⟨channel, asked, between, by rw [Session.channel?, store], moments, ?_, ?_⟩
  · rw [Session.signals_eq storeAfter, Session.signals_eq store]
    exact signals
  · rw [← iff]
    constructor
    · intro member
      exact Or.inl (List.ne_nil_of_mem member)
    · rintro (some | clear)
      · obtain ⟨other, member⟩ := List.exists_mem_of_ne_nil asked some
        have same := named other member
        rw [bound] at same
        cases same
        exact member
      · -- At the high mark the latch is set.
        rw [Session.fill_eq storeAfter] at full
        exact absurd (next.gauged.below clear) (UInt32.not_lt.mpr full)

/-- The reader of the file drains the ring; the next push is small enough to be found at the low mark. -/
theorem asked_after_small_push :
    let early := ((⟨Session.smallShared, none, []⟩ : Watched).step 1 (.bind (.counting .nothing))
      |>.step 2 (.openReader none false) |>.step 3 (.push (List.replicate 12 7) 1)
      |>.step 4 (.push (List.replicate 12 7) 1) |>.step 5 (.poll 1))
    let late := early.step 6 (.push [] 1) |>.step 7 (.push (List.replicate 12 7) 1)
    ∃ asked, late.session.signals = early.session.signals ++ asked ∧
      .counting 0 .nothing ∈ asked := by
  intro early late
  obtain ⟨view, started⟩ := Session.start_smallShared
  have pushes (payload : Bytes) : (Command.push payload 1).LeavesMarks := ⟨.push payload, nofun⟩
  have before : Run (fun _ command => command.LeavesMarks) ⟨Session.smallShared, none, []⟩ early :=
    .step (.step (.step (.step (.step .start 1 (.bind _) ⟨.bind _, nofun⟩) 2 (.openReader none false)
      ⟨.quiet rfl, nofun⟩) 3 _ (pushes _)) 4 _ (pushes _)) 5 (.poll 1) ⟨.quiet rfl, nofun⟩
  have run : Run Steadfast early late :=
    .step (.step .start 6 (.push [] 1) ⟨pushes _, nofun⟩) 7 (.push _ 1) ⟨pushes _, nofun⟩
  obtain ⟨channel, asked, between, -, moments, signals, iff⟩ :=
    asked_iff_found_low started (by decide) before rfl run (by decide +kernel)
  have known : between = [(early.step 6 (.push [] 1)).moment 7 (.push (List.replicate 12 7) 1),
      early.moment 6 (.push [] 1)] := List.append_cancel_right moments.symm
  refine ⟨asked, signals, iff.mpr (Or.inr ⟨early.moment 6 (.push [] 1), ?_, ?_⟩)⟩
  · rw [known]
    exact List.mem_cons_of_mem _ List.mem_cons_self
  · decide +kernel

/-- The same with a larger push: the fill goes from nothing to 43 and then to 87 percent, and nobody is
asked. -/
theorem rise_unasked :
    let early := ((⟨Session.smallShared, none, []⟩ : Watched).step 1 (.bind (.counting .nothing))
      |>.step 2 (.openReader none false) |>.step 3 (.push (List.replicate 12 7) 1)
      |>.step 4 (.push (List.replicate 12 7) 1) |>.step 5 (.poll 1))
    let late := early.step 6 (.push (List.replicate 12 7) 1)
      |>.step 7 (.push (List.replicate 12 7) 1)
    early.bound = some (.counting 0 .nothing) ∧ Run Steadfast early late ∧
      early.session.fill ≤ 30 ∧ 50 ≤ late.session.fill ∧
      late.session.signals = early.session.signals := by
  intro early late
  have pushes : (Command.push (List.replicate 12 7) 1).LeavesMarks := ⟨.push _, nofun⟩
  have run : Run Steadfast early late :=
    .step (.step .start 6 (.push _ 1) ⟨pushes, nofun⟩) 7 (.push _ 1) ⟨pushes, nofun⟩
  exact ⟨rfl, run, by decide +kernel, by decide +kernel, by decide +kernel⟩

/-- One step asks one notifier, if any, and then the latch is set or the fill is at the low mark. -/
theorem asks_once (minds : early.Minds hi lo channel) (apart : lo < hi) (time : UInt64)
    {command : Command} (leaves : command.LeavesMarks)
    (asks : (early.step time command).session.signals ≠ early.session.signals) :
    channel.latched = false ∧
      (∃ notifier, (early.step time command).session.signals = early.session.signals ++ [notifier]) ∧
      ∃ after, (early.step time command).Minds hi lo after ∧
        (after.latched = true ∨ (early.step time command).session.fill ≤ lo) := by
  obtain ⟨after, next, notes⟩ := minds_step minds apart time leaves
  obtain ⟨_, store⟩ := minds.store
  obtain ⟨_, storeAfter⟩ := next.store
  have signals := notes.stirs.signals_eq minds.gauged
  rw [Session.signals_eq storeAfter, Session.signals_eq store] at asks ⊢
  have due : channel.due (early.moment time command).crest ≠ [] := by
    intro none
    rw [none, List.append_nil] at signals
    exact asks signals
  have rises := Channel.due_ne_nil due
  refine ⟨rises.1, ?_, after, next, ?_⟩
  · rw [signals]
    rw [Channel.due, if_pos rises] at due ⊢
    cases bound : channel.slot.bound with
    | none =>
        rw [bound] at due
        exact absurd rfl due
    | some notifier => exact ⟨notifier, rfl⟩
  · rw [Session.fill_eq storeAfter]
    cases set : after.latched with
    | true => exact Or.inl rfl
    | false => exact Or.inr (notes.stirs.low_of_asked minds.gauged due set)

theorem latched_or_low_of_run (apart : lo < hi) (minds : early.Minds hi lo channel)
    (first : channel.latched = true ∨ early.session.fill ≤ lo)
    (run : Run (fun _ command => command.LeavesMarks) early late) :
    ∃ after, late.Minds hi lo after ∧ (after.latched = true ∨
      ∃ middle, Run (fun _ command => command.LeavesMarks) early middle ∧
        Run (fun _ command => command.LeavesMarks) middle late ∧ middle.session.fill ≤ lo) := by
  induction run with
  | start => exact ⟨channel, minds, first.imp_right fun low => ⟨early, .start, .start, low⟩⟩
  | step run time command permitted ih =>
      rename_i late
      obtain ⟨before, minds, state⟩ := ih
      obtain ⟨after, next, notes⟩ := minds_step minds apart time permitted
      refine ⟨after, next, ?_⟩
      rcases state with set | ⟨middle, reached, rest, low⟩
      · cases still : after.latched with
        | true => exact Or.inl rfl
        | false =>
            obtain ⟨_, store⟩ := next.store
            obtain ⟨-, low⟩ := notes.stirs.low_of_falls set still
            rw [← Session.fill_eq store] at low
            exact Or.inr ⟨_, .step run time command permitted, .start, low⟩
      · exact Or.inr ⟨middle, reached, .step rest time command permitted, low⟩

/-- Where the low mark is below the high one, the fill is at the low one at some point between any two
operations in which a notifier is asked, and in each of them one is asked once. -/
theorem low_between_asks
    (started : Session.start origin plan path now = (.created view, some session))
    (apart : plan.lo < plan.hi)
    (before : Run (fun _ command => command.LeavesMarks) ⟨session, none, []⟩ early) {time : UInt64}
    {command : Command} (leaves : command.LeavesMarks)
    (asks : (early.step time command).session.signals ≠ early.session.signals)
    (run : Run (fun _ command => command.LeavesMarks) (early.step time command) late) {next : UInt64}
    {another : Command} (leavesToo : another.LeavesMarks)
    (again : (late.step next another).session.signals ≠ late.session.signals) :
    (∃ notifier, (early.step time command).session.signals = early.session.signals ++ [notifier]) ∧
      (∃ notifier, (late.step next another).session.signals = late.session.signals ++ [notifier]) ∧
      ∃ middle, Run (fun _ command => command.LeavesMarks) (early.step time command) middle ∧
        Run (fun _ command => command.LeavesMarks) middle late ∧ middle.session.fill ≤ plan.lo := by
  obtain ⟨channel, minds⟩ := minds_of_run started apart before
  obtain ⟨-, first, after, found, state⟩ := asks_once minds apart time leaves asks
  obtain ⟨last, there, reached⟩ := latched_or_low_of_run apart found state run
  obtain ⟨clear, second, -⟩ := asks_once there apart next leavesToo again
  refine ⟨first, second, ?_⟩
  rcases reached with set | low
  · rw [clear] at set
    cases set
  · exact low

/-- The ring is filled, read until nothing is left, and filled again. -/
theorem low_between_two_rises :
    let early := ((⟨Session.small, none, []⟩ : Watched).step 1 (.bind (.counting .nothing))
      |>.step 2 (.push (List.replicate 12 7) 1))
    let first := early.step 3 (.push (List.replicate 12 7) 1)
    let late := first.step 4 (.poll 0) |>.step 5 (.push (List.replicate 12 7) 1)
    (late.step 6 (.push [] 1)).session.signals = [.counting 0 .nothing, .counting 0 .nothing] ∧
      ∃ middle, Run (fun _ command => command.LeavesMarks) first middle ∧
        Run (fun _ command => command.LeavesMarks) middle late ∧ middle.session.fill ≤ 30 := by
  intro early first late
  obtain ⟨view, started⟩ := Session.start_small
  have pushes (payload : Bytes) : (Command.push payload 1).LeavesMarks := ⟨.push payload, nofun⟩
  have before : Run (fun _ command => command.LeavesMarks) ⟨Session.small, none, []⟩ early :=
    .step (.step .start 1 (.bind _) ⟨.bind _, nofun⟩) 2 _ (pushes _)
  have run : Run (fun _ command => command.LeavesMarks) first late :=
    .step (.step .start 4 (.poll 0) ⟨.quiet rfl, nofun⟩) 5 _ (pushes _)
  obtain ⟨-, -, middle⟩ := low_between_asks started (by decide) before (pushes (List.replicate 12 7))
    (by decide +kernel) run (@pushes []) (by decide +kernel : (late.step 6 _).session.signals ≠ _)
  exact ⟨by decide +kernel, middle⟩

end Watched

/-- Moving the tail to where it is comes to one look at the latch. -/
theorem Channel.moveTail_tail {channel : Channel} (ordered : channel.page.tail ≤ channel.page.head)
    (now : UInt64) :
    channel.moveTail now channel.page.tail =
      (.ok (channel.crossWatermarks now).1, (channel.crossWatermarks now).2) :=
  moveTail_of_between now (UInt64.le_refl _) ordered

/-- A notifier that does nothing leaves the ring as it is. -/
theorem Channel.notifyConsumer_nothing {channel : Channel} {number : Nat}
    (slot : channel.slot = ⟨some (.counting number .nothing), 0⟩) (now : UInt64) :
    (channel.notifyConsumer now).page = channel.page ∧
      (channel.notifyConsumer now).latched = channel.latched ∧
      (channel.notifyConsumer now).signals = channel.signals ++ [.counting number .nothing] := by
  obtain ⟨region, capacity, rate, tallies, latched, _, counts, bells, trace⟩ := channel
  cases slot
  exact ⟨rfl, rfl, (signals_push _ (.signalled _)).trans (congrArg (· ++ _)
    ((signals_push _ .woken).trans (List.append_nil _)))⟩

/-- Where both marks are one and the fill is there, every look at it is an edge: a notifier is asked again
without any change of the fill. -/
theorem Channel.signals_of_one_mark {channel : Channel} {number : Nat}
    (ordered : channel.page.tail ≤ channel.page.head) (one : channel.page.lo = channel.page.hi)
    (level : channel.utilization = channel.page.hi) (set : channel.latched = true)
    (slot : channel.slot = ⟨some (.counting number .nothing), 0⟩) (now : UInt64) :
    let unmoved :=
      ((channel.advanceTail now channel.page.tail).2.advanceTail now channel.page.tail).2
    unmoved.page = channel.page ∧ unmoved.latched = true ∧
      unmoved.signals = channel.signals ++ [.counting number .nothing] := by
  have falls : (channel.crossWatermarks now).1 = some .falling := by
    rw [crossWatermarks_fst]
    simp [Edge.ofFill, set, one, level]
  have first : (channel.advanceTail now channel.page.tail).2 = (channel.crossWatermarks now).2 := by
    rw [advanceTail, moveTail_tail ordered, falls]
  have hushed := channel.hushed_crossWatermarks now
  have page : (channel.crossWatermarks now).2.page = channel.page :=
    congrArg Region.page (channel.still_crossWatermarks now).region
  have clear : (channel.crossWatermarks now).2.latched = false := by
    have gauge := congrArg Gauge.latched (channel.gauge_crossWatermarks now)
    rw [Gauge.note_of_latched set, one, level, if_pos (UInt32.le_refl _)] at gauge
    exact gauge
  have same : (channel.crossWatermarks now).2.utilization = channel.page.hi := by
    rw [utilization, page, hushed.capacity]
    exact level
  rw [first]
  -- The first look has cleared the latch at an unchanged fill; the second one sets it again.
  generalize (channel.crossWatermarks now).2 = fallen at hushed page clear same
  have rises : (fallen.crossWatermarks now).1 = some .rising := by
    rw [crossWatermarks_fst]
    simp [Edge.ofFill, clear, same, page]
  have second : (fallen.advanceTail now channel.page.tail).2 =
      (fallen.crossWatermarks now).2.notifyConsumer now := by
    rw [← page, advanceTail, moveTail_tail (by rw [page]; exact ordered), rises]
  have crossed := fallen.hushed_crossWatermarks now
  have latched : (fallen.crossWatermarks now).2.latched = true := by
    have gauge := congrArg Gauge.latched (fallen.gauge_crossWatermarks now)
    rw [Gauge.note_of_clear clear, same, page, if_pos (UInt32.le_refl _)] at gauge
    exact gauge
  obtain ⟨still, kept, signals⟩ := notifyConsumer_nothing
    (crossed.slot.trans (hushed.slot.trans slot)) now
  intro unmoved
  change unmoved = _ at second
  rw [second]
  refine ⟨still.trans ?_, kept.trans latched, ?_⟩
  · exact (congrArg Region.page (fallen.still_crossWatermarks now).region).trans page
  · rw [signals, crossed.signals, hushed.signals]

/-- A session with a ring of 4096 bytes both marks of which are at one percent. -/
def Session.oneMark : Session :=
  let made := Channel.ofMemory (.zeros 8192) { capacity := 4096, hi := 1, lo := 1 }
  { path := "ring"
    now := 0
    store := .ring { made with trace := #[.logged (.anonymousRingCreated 4096)] } false
    readers := #[{ capacity := 4096, inProcess := true }] }

/-- Three pushes after one another leave the fill at one percent, which is the high mark, and the first
and the last of them ask the notifier. -/
theorem Watched.asked_without_fall :
    (∃ view, Session.start .anonymous { capacity := 4096, hi := 1, lo := 1 } "ring" 0 =
      (.created view, some Session.oneMark)) ∧
    let bound := (⟨Session.oneMark, none, []⟩ : Watched).step 1 (.bind (.counting .nothing))
    let first := bound.step 2 (.push (List.replicate 32 0) 1)
    let second := first.step 3 (.push [] 1)
    let third := second.step 4 (.push [] 1)
    bound.session.signals = [] ∧
      first.session.signals = [.counting 0 .nothing] ∧ first.session.fill = 1 ∧
      second.session.signals = [.counting 0 .nothing] ∧ second.session.fill = 1 ∧
      third.session.signals = [.counting 0 .nothing, .counting 0 .nothing] ∧
      third.session.fill = 1 :=
  ⟨⟨_, rfl⟩, by decide +kernel⟩

end RecordRing
