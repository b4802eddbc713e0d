import RecordRing.EventTarget
import RecordRing.NumberText

set_option autoImplicit false

namespace RecordRing

structure Descriptor where
  target : Nat
  closeOnExec : Bool
  deriving DecidableEq, Repr

/-- All descriptors of a process on event targets, and the error that was reported last: adopting a
negative number reports it again. -/
structure Descriptors where
  targets : Array EventTarget := #[]
  handles : Array Descriptor := #[]
  lastError : SystemError := .none

namespace Descriptors

/-- The variable through which a parent hands a descriptor to the process it starts. -/
def inheritedVariable : String := "BASALT_EVENTFD"

def target? (table : Descriptors) (handle : Nat) : Option EventTarget :=
  table.handles[handle]?.bind fun descriptor => table.targets[descriptor.target]?

def setTarget (table : Descriptors) (handle : Nat) (after : EventTarget) : Descriptors :=
  match table.handles[handle]? with
  | none => table
  | some descriptor =>
      { table with targets := table.targets.setIfInBounds descriptor.target after }

def report (table : Descriptors) (error : SystemError) : Descriptors :=
  { table with lastError := error }

/-- Open a descriptor on a new target; its number is the next one. -/
def openTarget (table : Descriptors) (target : EventTarget) : Nat × Descriptors :=
  (table.handles.size,
    { table with
      targets := table.targets.push target
      handles := table.handles.push ⟨table.targets.size, true⟩ })

/-- Open a second descriptor on the target of a handle. -/
def duplicate (table : Descriptors) (handle : Nat) (closeOnExec : Bool) : Nat × Descriptors :=
  let target := (table.handles[handle]?.map (·.target)).getD table.targets.size
  (table.handles.size, { table with handles := table.handles.push ⟨target, closeOnExec⟩ })

/-- Fail where no descriptor is free, as every call that needs a new one does. -/
def whenFree {α : Type} (table : Descriptors) (exhausted : Bool) (act : α × Descriptors) :
    Except SystemError α × Descriptors :=
  if exhausted then (.error .tooManyOpenFiles, table.report .tooManyOpenFiles)
  else (.ok act.1, act.2)

/-- Write a number to the descriptor itself: was it accepted? -/
def add (table : Descriptors) (handle value : Nat) : Bool × Descriptors :=
  match table.target? handle with
  | none => (false, table.report .badDescriptor)
  | some target =>
      match target.write value with
      | .ok after => (true, table.setTarget handle after)
      | .error error => (false, table.report error)

def signal (table : Descriptors) (handle : Nat) : Except SystemError Unit × Descriptors :=
  match table.target? handle with
  | none => (.error .badDescriptor, table.report .badDescriptor)
  | some target =>
      match target.write 1 with
      | .ok after => (.ok (), table.setTarget handle after)
      | .error error => ((target.signal).map fun _ => (), table.report error)

/-- Signal up to `times` times, stopping at the first refusal. -/
def signalTimes (table : Descriptors) (handle : Nat) :
    Nat → Except SystemError Unit × Descriptors
  | 0 => (.ok (), table)
  | times + 1 =>
      match table.signal handle with
      | (.ok _, after) => after.signalTimes handle times
      | refused => refused

/-- Take what is pending. -/
def drain (table : Descriptors) (handle : Nat) : Except SystemError Nat × Descriptors :=
  match table.target? handle with
  | none => (.error .badDescriptor, table.report .badDescriptor)
  | some target =>
      match target.read with
      | .ok (value, after) => (.ok value, table.setTarget handle after)
      | .error error => (target.drain.map Prod.fst, table.report error)

/-- Poll and drain; the poll itself may have failed. -/
def wait (table : Descriptors) (handle : Nat) (pollError : Option SystemError) :
    Except SystemError Nat × Descriptors :=
  match pollError with
  | some error =>
      (if error = .interrupted then .ok 0 else .error error, table.report error)
  | none =>
      match table.target? handle with
      | none => (.error .badDescriptor, table.report .badDescriptor)
      | some target => if target.isReady then table.drain handle else (.ok 0, table)

/-- What the value of the variable asks for: nothing, the descriptor of a number, or a failure. A
negative number never reaches the system, so it fails with whatever error came last. -/
def adopt (value : Option String) (isOpen : Nat → Bool) (lastError : SystemError) :
    Except Failure (Option Nat) :=
  match value with
  | none => .ok none
  | some text =>
      match NumberText.signed 0x80000000 (trimBlanks text.toList) with
      | .error _ => .error (.notDescriptor inheritedVariable text)
      | .ok (.ofNat number) =>
          if isOpen number then .ok (some number) else .error (.system .badDescriptor)
      | .ok (.negSucc _) => .error (.system lastError)

/-- Adopt the descriptor that the variable names. The numbers that are open refer to the target of
`handle`. What is adopted becomes a handle of the table. -/
def inherit (table : Descriptors) (value : Option String) (isOpen : Nat → Bool) (handle : Nat) :
    Except Failure (Option Nat) × Descriptors :=
  match adopt value isOpen table.lastError with
  | .ok none => (.ok none, table)
  | .ok (some _) =>
      let (adopted, after) := table.duplicate handle false
      (.ok (some adopted), after)
  | .error (.system error) => (.error (.system error), table.report error)
  | .error failure => (.error failure, table)

end Descriptors

end RecordRing
