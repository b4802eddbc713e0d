import RecordRing.Proofs.SharedCounter
import RecordRing.Proofs.WrittenNumbers

set_option autoImplicit false

namespace RecordRing

namespace Descriptors

/-- A text is a number of 32 bits, blanks at its ends apart. -/
def Names (text : String) (number : Int) : Prop :=
  ∃ core, Trimmed text.toList core ∧ NumberText.Numeral core number ∧
    -0x80000000 ≤ number ∧ number < 0x80000000

theorem signed_eq_ok_iff_names {text : String} {number : Int} :
    NumberText.signed 0x80000000 (trimBlanks text.toList) = .ok number ↔ Names text number := by
  rw [NumberText.signed_eq_ok_iff (by decide)]
  constructor
  · exact fun written => ⟨_, trimmed_trimBlanks _, written⟩
  · rintro ⟨core, trimmed, written⟩
    exact trimmed.eq_trimBlanks ▸ written

theorem Names.unique {text : String} {number other : Int} (names : Names text number)
    (second : Names text other) : number = other :=
  Except.ok.inj ((signed_eq_ok_iff_names.mpr names).symm.trans (signed_eq_ok_iff_names.mpr second))

def IsNegative (value : Option String) : Prop :=
  ∃ text number, value = some text ∧ Names text number ∧ number < 0

/-- What comes of a value, by the descriptors that are open and by the error that was reported last. -/
inductive Comes (isOpen : Nat → Bool) (lastError : SystemError) :
    Option String → Except Failure (Option Nat) → Prop
  | unset : Comes isOpen lastError none (.ok none)
  | unnamed {text : String} (unnamed : ¬ ∃ number, Names text number) :
      Comes isOpen lastError (some text) (.error (.notDescriptor inheritedVariable text))
  | opened {text : String} {number : Nat} (names : Names text number) (held : isOpen number = true) :
      Comes isOpen lastError (some text) (.ok (some number))
  | closed {text : String} {number : Nat} (names : Names text number) (held : isOpen number = false) :
      Comes isOpen lastError (some text) (.error (.system .badDescriptor))
  | negative {text : String} {number : Int} (names : Names text number) (below : number < 0) :
      Comes isOpen lastError (some text) (.error (.system lastError))

section Adopt

variable {value : Option String} {isOpen : Nat → Bool} {lastError : SystemError}
  {answer : Except Failure (Option Nat)}

theorem comes_adopt (value : Option String) (isOpen : Nat → Bool) (lastError : SystemError) :
    Comes isOpen lastError value (adopt value isOpen lastError) := by
  cases value with
  | none => exact .unset
  | some text =>
      rw [adopt]
      cases read : NumberText.signed 0x80000000 (trimBlanks text.toList) with
      | error fault =>
          refine .unnamed ?_
          rintro ⟨number, names⟩
          exact absurd (read.symm.trans (signed_eq_ok_iff_names.mpr names)) nofun
      | ok number =>
          have names := signed_eq_ok_iff_names.mp read
          cases number with
          | ofNat number =>
              dsimp only
              cases held : isOpen number with
              | true => exact .opened names held
              | false => exact .closed names held
          | negSucc number => exact .negative names (Int.negSucc_lt_zero number)

/-- Nothing else comes of a value. -/
theorem Comes.adopt_eq (comes : Comes isOpen lastError value answer) :
    adopt value isOpen lastError = answer := by
  cases comes with
  | unset => rfl
  | @unnamed text unnamed =>
      rw [adopt]
      cases read : NumberText.signed 0x80000000 (trimBlanks text.toList) with
      | error fault => rfl
      | ok number => exact absurd ⟨number, signed_eq_ok_iff_names.mp read⟩ unnamed
  | opened names held =>
      rw [adopt, signed_eq_ok_iff_names.mpr names]
      exact if_pos held
  | closed names held =>
      rw [adopt, signed_eq_ok_iff_names.mpr names]
      exact if_neg (held ▸ Bool.false_ne_true)
  | negative names below =>
      rw [adopt, signed_eq_ok_iff_names.mpr names]
      obtain ⟨size, rfl⟩ := Int.eq_negSucc_of_lt_zero below
      rfl

theorem adopt_eq_iff : adopt value isOpen lastError = answer ↔ Comes isOpen lastError value answer :=
  ⟨fun same => same ▸ comes_adopt .., Comes.adopt_eq⟩

end Adopt

/-- What adopting answers, by the value of the variable and the descriptors that are open. -/
structure Adopts (value : Option String) (isOpen : Nat → Bool) (lastError : SystemError)
    (answer : Except Failure (Option Nat)) : Prop where
  unset : answer = .ok none ↔ value = none
  opened : ∀ number, answer = .ok (some number) ↔
    ∃ text, value = some text ∧ Names text number ∧ isOpen number = true
  unnamed : ∀ text, answer = .error (.notDescriptor inheritedVariable text) ↔
    value = some text ∧ ¬ ∃ number, Names text number
  closed : ∀ text (number : Nat), value = some text → Names text number → isOpen number = false →
    answer = .error (.system .badDescriptor)
  /-- A negative number fails with what was reported last. -/
  negative : ∀ text number, value = some text → Names text number → number < 0 →
    answer = .error (.system lastError)

theorem adopts (value : Option String) (isOpen : Nat → Bool) (lastError : SystemError) :
    Adopts value isOpen lastError (adopt value isOpen lastError) := by
  constructor
  case unset =>
    rw [adopt_eq_iff]
    constructor
    · rintro ⟨⟩
      rfl
    · rintro rfl
      exact .unset
  case opened =>
    intro number
    rw [adopt_eq_iff]
    constructor
    · intro comes
      cases comes with
      | opened names held => exact ⟨_, rfl, names, held⟩
    · rintro ⟨text, rfl, names, held⟩
      exact .opened names held
  case unnamed =>
    intro text
    rw [adopt_eq_iff]
    constructor
    · intro comes
      cases comes with
      | unnamed unnamed => exact ⟨rfl, unnamed⟩
    · rintro ⟨rfl, unnamed⟩
      exact .unnamed unnamed
  case closed =>
    rintro text number rfl names held
    exact (Comes.closed names held).adopt_eq
  case negative =>
    rintro text number rfl names below
    exact (Comes.negative names below).adopt_eq

/-- What was reported last decides of a negative number, and of nothing else. -/
theorem adopt_eq_adopt_iff (value : Option String) (isOpen : Nat → Bool) (first second : SystemError) :
    adopt value isOpen first = adopt value isOpen second ↔ (IsNegative value → first = second) := by
  constructor
  · rintro same ⟨text, number, rfl, names, below⟩
    rw [(Comes.negative names below).adopt_eq, (Comes.negative names below).adopt_eq] at same
    exact Failure.system.inj (Except.error.inj same)
  · intro alike
    rw [adopt_eq_iff]
    have comes := comes_adopt value isOpen second
    generalize adopt value isOpen second = answer at comes
    cases comes with
    | unset => exact .unset
    | unnamed unnamed => exact .unnamed unnamed
    | opened names held => exact .opened names held
    | closed names held => exact .closed names held
    | negative names below => exact alike ⟨_, _, rfl, names, below⟩ ▸ .negative names below

/-- What a process does before it adopts a descriptor. -/
inductive Act where
  | call (call : Call)
  | adopt (value : Option String) (isOpen : Nat → Bool) (handle : Nat)
  | refused (error : SystemError)

def act (table : Descriptors) : Act → Descriptors
  | .call call => (table.perform call).2
  | .adopt value isOpen handle => (table.inherit value isOpen handle).2
  | .refused error => table.report error

def after (table : Descriptors) (acts : List Act) : Descriptors :=
  acts.foldl act table

/-- How the system refuses what is asked of the target of a handle, if it does. -/
def refusal? {α : Type} (table : Descriptors) (handle : Nat)
    (ask : EventTarget → Except SystemError α) : Option SystemError :=
  match table.target? handle with
  | none => some .badDescriptor
  | some target =>
      match ask target with
      | .ok _ => none
      | .error error => some error

/-- How the system refuses the number that is adopted, if it is shown one and does. Where nothing was
reported before, only what it refuses now is an error. -/
def adoptionRefusal? (value : Option String) (isOpen : Nat → Bool) : Option SystemError :=
  match adopt value isOpen .none with
  | .error (.system error) => if error = .none then none else some error
  | _ => none

/-- The error that the system reports in an act. -/
def reported? (table : Descriptors) : Act → Option SystemError
  | .call (.signal handle) => table.refusal? handle fun target => target.write 1
  | .call (.add handle value) => table.refusal? handle fun target => target.write value
  | .call (.drain handle) => table.refusal? handle EventTarget.read
  | .call (.wait _ (some error)) => some error
  | .call (.wait handle none) =>
      table.refusal? handle fun target => if target.isReady then target.read else .ok (0, target)
  | .call (.duplicate _ _ exhausted) | .call (.create _ exhausted) =>
      if exhausted then some .tooManyOpenFiles else none
  | .adopt value isOpen _ => adoptionRefusal? value isOpen
  | .refused error => some error

def reports (table : Descriptors) : List Act → List SystemError
  | [] => []
  | act :: rest => (table.reported? act).toList ++ reports (table.act act) rest

theorem lastError_setTarget (table : Descriptors) (handle : Nat) (target : EventTarget) :
    (table.setTarget handle target).lastError = table.lastError := by
  unfold setTarget
  split <;> rfl

theorem lastError_signal (table : Descriptors) (handle : Nat) :
    (table.signal handle).2.lastError =
      (table.refusal? handle fun target => target.write 1).getD table.lastError := by
  unfold signal refusal?
  cases table.target? handle with
  | none => rfl
  | some target =>
      dsimp only
      cases target.write 1 with
      | ok later => exact table.lastError_setTarget ..
      | error error => rfl

theorem lastError_add (table : Descriptors) (handle value : Nat) :
    (table.add handle value).2.lastError =
      (table.refusal? handle fun target => target.write value).getD table.lastError := by
  unfold add refusal?
  cases table.target? handle with
  | none => rfl
  | some target =>
      dsimp only
      cases target.write value with
      | ok later => exact table.lastError_setTarget ..
      | error error => rfl

theorem lastError_drain (table : Descriptors) (handle : Nat) :
    (table.drain handle).2.lastError =
      (table.refusal? handle EventTarget.read).getD table.lastError := by
  unfold drain refusal?
  cases table.target? handle with
  | none => rfl
  | some target =>
      dsimp only
      cases target.read with
      | ok taken => exact table.lastError_setTarget ..
      | error error => rfl

theorem lastError_wait (table : Descriptors) (handle : Nat) :
    (table.wait handle none).2.lastError =
      (table.refusal? handle fun target =>
        if target.isReady then target.read else .ok (0, target)).getD table.lastError := by
  have drained := table.lastError_drain handle
  unfold wait
  unfold refusal? at drained ⊢
  cases held : table.target? handle with
  | none => rfl
  | some target =>
      rw [held] at drained
      dsimp only at drained ⊢
      cases target.isReady with
      | true => exact drained
      | false => rfl

theorem lastError_whenFree {α : Type} (table : Descriptors) (exhausted : Bool) {act : α × Descriptors}
    (same : act.2.lastError = table.lastError) :
    (table.whenFree exhausted act).2.lastError =
      (if exhausted then some SystemError.tooManyOpenFiles else none).getD table.lastError := by
  cases exhausted with
  | true => rfl
  | false => exact same

/-- A negative number leaves behind what was reported before, since it is that error which it fails
with. -/
theorem lastError_inherit (table : Descriptors) (value : Option String) (isOpen : Nat → Bool)
    (handle : Nat) :
    (table.inherit value isOpen handle).2.lastError =
      (adoptionRefusal? value isOpen).getD table.lastError := by
  have comes := comes_adopt value isOpen table.lastError
  unfold inherit adoptionRefusal?
  generalize adopt value isOpen table.lastError = answer at comes
  cases comes with
  | unset => rfl
  | unnamed unnamed =>
      rw [(Comes.unnamed unnamed).adopt_eq]
      rfl
  | opened names held =>
      rw [(Comes.opened names held).adopt_eq]
      rfl
  | closed names held =>
      rw [(Comes.closed names held).adopt_eq]
      rfl
  | negative names below =>
      rw [(Comes.negative names below).adopt_eq]
      rfl

/-- After an act the last error is the one that the system reported in it, or the one from before. -/
theorem lastError_act (table : Descriptors) (act : Act) :
    (table.act act).lastError = (table.reported? act).getD table.lastError := by
  cases act with
  | call call =>
      cases call with
      | signal handle => exact table.lastError_signal handle
      | drain handle => exact table.lastError_drain handle
      | wait handle pollError =>
          cases pollError with
          | none => exact table.lastError_wait handle
          | some error => rfl
      | add handle value => exact table.lastError_add handle value
      | duplicate handle closeOnExec exhausted => exact table.lastError_whenFree exhausted rfl
      | create target exhausted => exact table.lastError_whenFree exhausted rfl
  | adopt value isOpen handle => exact table.lastError_inherit value isOpen handle
  | refused error => rfl

/-- After acts the last error is the last one that the system reported in them. -/
theorem lastError_after (table : Descriptors) (acts : List Act) :
    (table.after acts).lastError = (table.reports acts).getLast?.getD table.lastError := by
  induction acts generalizing table with
  | nil => rfl
  | cons act rest ih =>
      have next : table.after (act :: rest) = (table.act act).after rest := rfl
      rw [next, ih, lastError_act, reports, List.getLast?_append]
      cases table.reported? act with
      | none => rw [Option.toList_none, List.getLast?_nil, Option.or_none, Option.getD_none]
      | some error =>
          cases (reports (table.act act) rest).getLast? <;> rfl

/-- Whatever a process did before, adopting a descriptor is told by the value and by what is open, except
for a negative number, which fails with the last error that the system reported in all that was done.
Two processes that are handed the same agree, whatever they did before, except there. -/
theorem adopts_by_value (value : Option String) (isOpen : Nat → Bool) (table other : Descriptors)
    (acts others : List Act) :
    let last := (table.reports acts).getLast?.getD table.lastError
    let answer := adopt value isOpen (table.after acts).lastError
    Adopts value isOpen last answer ∧
      (∀ handle, ((table.after acts).inherit value isOpen handle).1 =
        answer.map (Option.map fun _ => (table.after acts).handles.size)) ∧
      (answer = adopt value isOpen (other.after others).lastError ↔
        (IsNegative value → last = (other.reports others).getLast?.getD other.lastError)) := by
  intro last answer
  refine ⟨?_, ?_, ?_⟩
  · change Adopts value isOpen last (adopt value isOpen (table.after acts).lastError)
    rw [lastError_after]
    exact adopts ..
  · intro handle
    change ((table.after acts).inherit value isOpen handle).1 =
      (adopt value isOpen (table.after acts).lastError).map _
    unfold inherit
    cases adopt value isOpen (table.after acts).lastError with
    | ok adopted => cases adopted <;> rfl
    | error failure => cases failure <;> rfl
  · change adopt value isOpen (table.after acts).lastError = _ ↔ _
    rw [adopt_eq_adopt_iff, lastError_after, lastError_after]

/-- To drain an empty counter is no failure, but it is what a negative number fails with afterwards; with
the same value and the same descriptors it fails otherwise where the counter was left alone, and neither
failure is that of a bad descriptor. -/
theorem negative_fails_by_history :
    let fresh := (({} : Descriptors).openTarget (.counter 0)).2
    let drained := fresh.after [.call (.drain 0)]
    Names "-1" (-1) ∧ (fresh.drain 0).1 = .ok 0 ∧ drained.handles = fresh.handles ∧
      (drained.inherit (some "-1") (fun _ => false) 0).1 = .error (.system .wouldBlock) ∧
      (fresh.inherit (some "-1") (fun _ => false) 0).1 = .error (.system .none) ∧
      SystemError.wouldBlock ≠ .badDescriptor ∧ SystemError.none ≠ .badDescriptor := by
  refine ⟨?_, rfl, rfl, ?_, ?_, by decide, by decide⟩
  · rw [← signed_eq_ok_iff_names]
    rfl
  · rfl
  · rfl

end Descriptors

end RecordRing
