import RecordRing.Descriptors

set_option autoImplicit false

namespace RecordRing

namespace Descriptors

/-- What a process does with its descriptors. A wait that lasts is told when its poll returns: with a
failure, or else with what the counter holds by then. -/
inductive Call where
  | signal (handle : Nat)
  | drain (handle : Nat)
  | wait (handle : Nat) (pollError : Option SystemError)
  /-- A number is written to the descriptor itself. -/
  | add (handle value : Nat)
  | duplicate (handle : Nat) (closeOnExec exhausted : Bool)
  | create (target : EventTarget) (exhausted : Bool)
  deriving DecidableEq, Repr

inductive Answer where
  | signalled (result : Except SystemError Unit)
  | counted (result : Except SystemError Nat)
  | accepted (was : Bool)
  | opened (result : Except SystemError Nat)

def Answer.count : Answer → Nat
  | counted (.ok count) => count
  | _ => 0

def perform (table : Descriptors) : Call → Answer × Descriptors
  | .signal handle => (.signalled (table.signal handle).1, (table.signal handle).2)
  | .drain handle => (.counted (table.drain handle).1, (table.drain handle).2)
  | .wait handle pollError =>
      (.counted (table.wait handle pollError).1, (table.wait handle pollError).2)
  | .add handle value => (.accepted (table.add handle value).1, (table.add handle value).2)
  | .duplicate handle closeOnExec exhausted =>
      let (result, after) := table.whenFree exhausted (table.duplicate handle closeOnExec)
      (.opened result, after)
  | .create target exhausted =>
      let (result, after) := table.whenFree exhausted (table.openTarget target)
      (.opened result, after)

def run (table : Descriptors) : List Call → Descriptors
  | [] => table
  | call :: rest => (table.perform call).2.run rest

def RefersTo (table : Descriptors) (handle target : Nat) : Prop :=
  table.handles[handle]?.map Descriptor.target = some target

instance (table : Descriptors) (handle target : Nat) : Decidable (table.RefersTo handle target) :=
  inferInstanceAs (Decidable (_ = _))

/-- What the system accepts of a number that is written through a handle: all of it or nothing. -/
def accepted (table : Descriptors) (handle value : Nat) : Nat :=
  match table.target? handle with
  | none => 0
  | some target =>
      match target.write value with
      | .ok _ => value
      | .error _ => 0

def taken (target : Nat) (table : Descriptors) (call : Call) : Nat :=
  match call with
  | .drain handle | .wait handle _ =>
      if table.RefersTo handle target then (table.perform call).1.count else 0
  | .signal .. | .add .. | .duplicate .. | .create .. => 0

def given (target : Nat) (table : Descriptors) (call : Call) : Nat :=
  match call with
  | .signal handle => if table.RefersTo handle target then table.accepted handle 1 else 0
  | .add handle value => if table.RefersTo handle target then table.accepted handle value else 0
  | .drain .. | .wait .. | .duplicate .. | .create .. => 0

def total (amount : Descriptors → Call → Nat) (table : Descriptors) : List Call → Nat
  | [] => 0
  | call :: rest => amount table call + total amount (table.perform call).2 rest

variable {table : Descriptors} {handle target count value : Nat}

theorem run_append (table : Descriptors) (first second : List Call) :
    table.run (first ++ second) = (table.run first).run second := by
  induction first generalizing table with
  | nil => rfl
  | cons call rest ih => exact ih _

/-- The target is a counter, which stands at a number. -/
structure Stands (table : Descriptors) (target count : Nat) : Prop where
  counter : table.targets[target]? = some (.counter count)
  within : count ≤ EventTarget.maxCount

theorem Stands.of_targets {after : Descriptors} (stands : table.Stands target count)
    (same : after.targets[target]? = table.targets[target]?) : after.Stands target count :=
  ⟨same.trans stands.counter, stands.within⟩

theorem target?_of_refersTo (refers : table.RefersTo handle target) :
    table.target? handle = table.targets[target]? := by
  obtain ⟨descriptor, held, same⟩ := Option.map_eq_some_iff.mp refers
  rw [target?, held, ← same]
  rfl

theorem Stands.target? (stands : table.Stands target count) (refers : table.RefersTo handle target) :
    table.target? handle = some (.counter count) :=
  (target?_of_refersTo refers).trans stands.counter

/-- What is put behind a handle of the target is put there. -/
theorem Stands.setTarget (stands : table.Stands target count)
    (refers : table.RefersTo handle target) {later : Nat} (within : later ≤ EventTarget.maxCount) :
    (table.setTarget handle (.counter later)).Stands target later := by
  obtain ⟨descriptor, held, same⟩ := Option.map_eq_some_iff.mp refers
  obtain ⟨inside, -⟩ := Array.getElem?_eq_some_iff.mp stands.counter
  refine ⟨?_, within⟩
  rw [Descriptors.setTarget, held]
  dsimp only
  rw [same, Array.getElem?_setIfInBounds_self_of_lt inside]

/-- What is put behind other handles is put elsewhere. -/
theorem getElem?_setTarget (apart : ¬ table.RefersTo handle target) (after : EventTarget) :
    (table.setTarget handle after).targets[target]? = table.targets[target]? := by
  unfold Descriptors.setTarget
  cases held : table.handles[handle]? with
  | none => rfl
  | some descriptor =>
      refine Array.getElem?_setIfInBounds_ne fun same => apart ?_
      rw [RefersTo, held, ← same]
      rfl

theorem write_counter (count value : Nat) :
    (EventTarget.counter count).write value =
      if count + value ≤ EventTarget.maxCount then .ok (.counter (count + value))
      else .error (if value > EventTarget.maxCount then .invalidArgument else .wouldBlock) := by
  rw [EventTarget.write]
  by_cases large : value > EventTarget.maxCount
  · rw [if_pos large, if_neg (by omega), if_pos large]
  · rw [if_neg large, if_neg large]

/-- A counter accepts what leaves it within its bound. -/
theorem Stands.accepted (stands : table.Stands target count) (refers : table.RefersTo handle target)
    (value : Nat) :
    table.accepted handle value = if count + value ≤ EventTarget.maxCount then value else 0 := by
  rw [Descriptors.accepted, stands.target? refers]
  dsimp only
  rw [write_counter]
  by_cases fits : count + value ≤ EventTarget.maxCount
  · rw [if_pos fits, if_pos fits]
  · rw [if_neg fits, if_neg fits]

theorem Stands.signal (stands : table.Stands target count) (refers : table.RefersTo handle target) :
    (table.signal handle).1 = .ok () ∧
      (table.signal handle).2.Stands target (count + table.accepted handle 1) := by
  have small : ¬ 1 > EventTarget.maxCount := by decide
  rw [stands.accepted refers, Descriptors.signal, stands.target? refers]
  dsimp only [EventTarget.signal]
  rw [write_counter, if_neg small]
  by_cases fits : count + 1 ≤ EventTarget.maxCount
  · rw [if_pos fits, if_pos fits]
    exact ⟨rfl, stands.setTarget refers fits⟩
  · rw [if_neg fits, if_neg fits]
    exact ⟨rfl, stands.of_targets rfl⟩

theorem Stands.add (stands : table.Stands target count) (refers : table.RefersTo handle target)
    (value : Nat) :
    (table.add handle value).1 = decide (count + value ≤ EventTarget.maxCount) ∧
      (table.add handle value).2.Stands target (count + table.accepted handle value) := by
  rw [stands.accepted refers, Descriptors.add, stands.target? refers]
  dsimp only
  rw [write_counter]
  by_cases fits : count + value ≤ EventTarget.maxCount
  · rw [if_pos fits, if_pos fits, decide_eq_true fits]
    exact ⟨rfl, stands.setTarget refers fits⟩
  · rw [if_neg fits, if_neg fits, decide_eq_false fits]
    exact ⟨rfl, stands.of_targets rfl⟩

/-- A drain takes all that is there. -/
theorem Stands.drain (stands : table.Stands target count) (refers : table.RefersTo handle target) :
    (table.drain handle).1 = .ok count ∧ (table.drain handle).2.Stands target 0 := by
  rw [Descriptors.drain, stands.target? refers]
  cases count with
  | zero => exact ⟨rfl, stands.of_targets rfl⟩
  | succ count => exact ⟨rfl, stands.setTarget refers (Nat.zero_le _)⟩

/-- A wait whose poll does not fail takes all that is there. -/
theorem Stands.wait (stands : table.Stands target count) (refers : table.RefersTo handle target) :
    (table.wait handle none).1 = .ok count ∧ (table.wait handle none).2.Stands target 0 := by
  have drained := stands.drain refers
  rw [Descriptors.wait, stands.target? refers]
  cases count with
  | zero => exact ⟨rfl, stands⟩
  | succ count => exact drained

/-- A wait whose poll fails takes nothing. -/
theorem wait_failed (table : Descriptors) (handle : Nat) (error : SystemError) :
    (table.wait handle (some error)).1 = (if error = .interrupted then .ok 0 else .error error) ∧
      (table.wait handle (some error)).2.targets = table.targets :=
  ⟨rfl, rfl⟩

/-- A call leaves the targets alone, or puts something behind its handle. -/
inductive Touches (table : Descriptors) (handle : Nat) : Descriptors → Prop
  | nothing {after : Descriptors} (same : after.targets = table.targets) : Touches table handle after
  | target (target : EventTarget) : Touches table handle (table.setTarget handle target)

theorem touches_signal (table : Descriptors) (handle : Nat) :
    table.Touches handle (table.signal handle).2 := by
  unfold signal
  split
  · exact .nothing rfl
  · split
    · exact .target _
    · exact .nothing rfl

theorem touches_add (table : Descriptors) (handle value : Nat) :
    table.Touches handle (table.add handle value).2 := by
  unfold add
  split
  · exact .nothing rfl
  · split
    · exact .target _
    · exact .nothing rfl

theorem touches_drain (table : Descriptors) (handle : Nat) :
    table.Touches handle (table.drain handle).2 := by
  unfold drain
  split
  · exact .nothing rfl
  · split
    · exact .target _
    · exact .nothing rfl

theorem touches_wait (table : Descriptors) (handle : Nat) (pollError : Option SystemError) :
    table.Touches handle (table.wait handle pollError).2 := by
  unfold wait
  split
  · exact .nothing rfl
  · split
    · exact .nothing rfl
    · split
      · exact table.touches_drain handle
      · exact .nothing rfl

theorem Stands.apart {after : Descriptors} (stands : table.Stands target count)
    (apart : ¬ table.RefersTo handle target) (touches : table.Touches handle after) :
    after.Stands target count := by
  cases touches with
  | nothing same => exact stands.of_targets (by rw [same])
  | target other => exact stands.of_targets (getElem?_setTarget apart other)

/-- One more descriptor, if there is one free, on a target that is there or a new one. -/
theorem Stands.opened (stands : table.Stands target count) (exhausted : Bool)
    {act : Nat × Descriptors} (same : act.2.targets[target]? = table.targets[target]?) :
    (table.whenFree exhausted act).2.Stands target count := by
  unfold whenFree
  cases exhausted with
  | false => exact stands.of_targets same
  | true => exact stands.of_targets rfl

/-- A call that neither takes nor gives leaves the counter where it stood. -/
theorem exists_left_of_still {call : Call} (stands : (table.perform call).2.Stands target count)
    (takes : taken target table call = 0) (gives : given target table call = 0) :
    ∃ left, (table.perform call).2.Stands target left ∧
      taken target table call + left = count + given target table call :=
  ⟨count, stands, by rw [takes, gives, Nat.zero_add, Nat.add_zero]⟩

/-- What a call takes from a counter and what it leaves there make up what it found and gave. -/
theorem Stands.perform (stands : table.Stands target count) (call : Call) :
    ∃ left, (table.perform call).2.Stands target left ∧
      taken target table call + left = count + given target table call := by
  cases call with
  | signal handle =>
      by_cases refers : table.RefersTo handle target
      · refine ⟨_, (stands.signal refers).2, ?_⟩
        rw [taken, given, if_pos refers, Nat.zero_add]
      · exact exists_left_of_still (stands.apart refers (table.touches_signal handle)) rfl
          (if_neg refers)
  | add handle value =>
      by_cases refers : table.RefersTo handle target
      · refine ⟨_, (stands.add refers value).2, ?_⟩
        rw [taken, given, if_pos refers, Nat.zero_add]
      · exact exists_left_of_still (stands.apart refers (table.touches_add handle value)) rfl
          (if_neg refers)
  | drain handle =>
      by_cases refers : table.RefersTo handle target
      · obtain ⟨told, after⟩ := stands.drain refers
        refine ⟨0, after, ?_⟩
        rw [taken, given, if_pos refers, Descriptors.perform, told]
        rfl
      · exact exists_left_of_still (stands.apart refers (table.touches_drain handle))
          (if_neg refers) rfl
  | wait handle pollError =>
      by_cases refers : table.RefersTo handle target
      · cases pollError with
        | none =>
            obtain ⟨told, after⟩ := stands.wait refers
            refine ⟨0, after, ?_⟩
            rw [taken, given, if_pos refers, Descriptors.perform, told]
            rfl
        | some error =>
            obtain ⟨told, same⟩ := table.wait_failed handle error
            refine exists_left_of_still (stands.of_targets (congrArg (·[target]?) same)) ?_ rfl
            rw [taken, if_pos refers, Descriptors.perform, told]
            by_cases interrupted : error = .interrupted
            · rw [if_pos interrupted]
              rfl
            · rw [if_neg interrupted]
              rfl
      · exact exists_left_of_still (stands.apart refers (table.touches_wait handle pollError))
          (if_neg refers) rfl
  | duplicate handle closeOnExec exhausted =>
      exact exists_left_of_still (stands.opened exhausted rfl) rfl rfl
  | create other exhausted =>
      refine exists_left_of_still (stands.opened exhausted ?_) rfl rfl
      obtain ⟨inside, -⟩ := Array.getElem?_eq_some_iff.mp stands.counter
      change (table.targets.push other)[target]? = _
      rw [Array.getElem?_push_lt inside, Array.getElem?_eq_getElem inside]

/-- So it is with any run of calls. -/
theorem Stands.run (stands : table.Stands target count) (calls : List Call) :
    ∃ left, (table.run calls).Stands target left ∧
      total (taken target) table calls + left = count + total (given target) table calls := by
  induction calls generalizing table count with
  | nil => exact ⟨count, stands, Nat.add_comm ..⟩
  | cons call rest ih =>
      obtain ⟨next, after, one⟩ := stands.perform call
      obtain ⟨left, ends, others⟩ := ih after
      refine ⟨left, ends, ?_⟩
      rw [total, total]
      omega

/-- A signal is there until something is taken. -/
theorem Stands.pending (stands : table.Stands target count) (refers : table.RefersTo handle target)
    (calls : List Call)
    (untaken : total (taken target) (table.perform (.signal handle)).2 calls = 0) :
    ∃ left, ((table.perform (.signal handle)).2.run calls).Stands target left ∧ 0 < left := by
  have signalled : (table.perform (.signal handle)).2.Stands target
      (count + table.accepted handle 1) := (stands.signal refers).2
  have some : 0 < count + table.accepted handle 1 := by
    have large : 0 < EventTarget.maxCount := by decide
    rw [stands.accepted refers]
    split <;> omega
  obtain ⟨left, ends, balance⟩ := signalled.run calls
  exact ⟨left, ends, by omega⟩

theorem Stands.unique {other : Nat} (stands : table.Stands target count)
    (second : table.Stands target other) : count = other := by
  have same := stands.counter.symm.trans second.counter
  cases same
  rfl

/-- What there is to say of a counter after calls on the descriptors that share it, and on others. -/
structure Conserves (table : Descriptors) (target count : Nat) (calls : List Call) (left : Nat) :
    Prop where
  stands : (table.run calls).Stands target left
  balance : total (taken target) table calls + left = count + total (given target) table calls
  signals : ∀ handle, (table.run calls).RefersTo handle target →
    ((table.run calls).signal handle).1 = .ok ()
  /-- A signal is absorbed by a full counter only. -/
  absorbs : ∀ handle, (table.run calls).RefersTo handle target →
    ((table.run calls).accepted handle 1 = 0 ↔ left = EventTarget.maxCount)
  adds : ∀ handle value, (table.run calls).RefersTo handle target →
    ((table.run calls).add handle value).1 = decide (left + value ≤ EventTarget.maxCount)
  /-- A drain takes what is left, on whichever descriptor, and so does a wait. -/
  takes : ∀ handle, (table.run calls).RefersTo handle target →
    ((table.run calls).drain handle).1 = .ok left ∧ ((table.run calls).wait handle none).1 = .ok left
  interrupted : ∀ handle,
    ((table.run calls).wait handle (some .interrupted)).1 = .ok 0 ∧
      ((table.run calls).wait handle (some .interrupted)).2.Stands target left
  shares : ∀ handle closeOnExec, (table.run calls).RefersTo handle target →
    let opened := (table.run calls).duplicate handle closeOnExec
    opened.2.RefersTo opened.1 target ∧ opened.2.Stands target left
  /-- What was signalled after the last taking is there to be taken. -/
  woken : ∀ first handle rest, calls = first ++ .signal handle :: rest →
    (table.run first).RefersTo handle target →
      total (taken target) ((table.run first).perform (.signal handle)).2 rest = 0 → 0 < left

theorem wakeups_conserved (stands : table.Stands target count) (calls : List Call) :
    ∃ left, Conserves table target count calls left := by
  obtain ⟨left, ends, balance⟩ := stands.run calls
  refine ⟨left, ?_⟩
  constructor
  case stands => exact ends
  case balance => exact balance
  case signals => exact fun handle refers => (ends.signal refers).1
  case absorbs =>
    intro handle refers
    have within := ends.within
    rw [ends.accepted refers]
    split <;> omega
  case adds => exact fun handle value refers => (ends.add refers value).1
  case takes => exact fun handle refers => ⟨(ends.drain refers).1, (ends.wait refers).1⟩
  case interrupted => exact fun handle => ⟨rfl, ends.of_targets rfl⟩
  case shares =>
    intro handle closeOnExec refers opened
    obtain ⟨descriptor, held, same⟩ := Option.map_eq_some_iff.mp refers
    refine ⟨?_, ends.of_targets rfl⟩
    change ((table.run calls).handles.push
      ⟨((table.run calls).handles[handle]?.map Descriptor.target).getD _, closeOnExec⟩)[
        (table.run calls).handles.size]?.map Descriptor.target = some target
    rw [Array.getElem?_push_size, held, ← same]
    rfl
  case woken =>
    rintro first handle rest rfl refers untaken
    -- Cut the calls behind the signal: it is pending when the others begin, and they take nothing.
    obtain ⟨before, begins, -⟩ := stands.run first
    obtain ⟨later, pending, some⟩ := begins.pending refers rest untaken
    have same : table.run (first ++ .signal handle :: rest) =
        ((table.run first).perform (.signal handle)).2.run rest := run_append ..
    rw [same] at ends
    exact ends.unique pending ▸ some

/-- A counter that two descriptors share is filled by them, taken from and signalled once more; one of
three signals is absorbed. -/
theorem wakeups_conserved_when_full :
    let table := (({} : Descriptors).openTarget (.counter 0)).2
    let calls : List Call :=
      [.duplicate 0 true false, .signal 1, .wait 0 (some .interrupted),
        .add 0 (EventTarget.maxCount - 1), .signal 0, .drain 1, .signal 0]
    table.Stands 0 0 ∧ total (taken 0) table calls = EventTarget.maxCount ∧
      total (given 0) table calls = EventTarget.maxCount + 1 ∧ Conserves table 0 0 calls 1 := by
  intro table calls
  have begins : table.Stands 0 0 := ⟨rfl, Nat.zero_le _⟩
  have taken : total (taken 0) table calls = EventTarget.maxCount := by decide +kernel
  have given : total (given 0) table calls = EventTarget.maxCount + 1 := by decide +kernel
  obtain ⟨left, conserves⟩ := wakeups_conserved begins calls
  have one : left = 1 := by
    have balance := conserves.balance
    omega
  exact ⟨begins, taken, given, one ▸ conserves⟩

end Descriptors

end RecordRing
