import RecordRing.SystemError

set_option autoImplicit false

namespace RecordRing

/-- The directions a device was opened for. -/
inductive Access where
  | readWrite
  | readOnly
  | writeOnly
  deriving DecidableEq, Repr

namespace Access

def reads (access : Access) : Bool := access != writeOnly

def writes (access : Access) : Bool := access != readOnly

end Access

/-- What a descriptor refers to. -/
inductive EventTarget where
  | counter (count : Nat)
  /-- A device that is always ready, reads as nothing and swallows what is written. -/
  | nullDevice (access : Access)
  deriving DecidableEq, Repr

namespace EventTarget

def maxCount : Nat := UInt64.size - 2

/-- One read of eight bytes: the value and what is left behind. -/
def read : EventTarget → Except SystemError (Nat × EventTarget)
  | counter 0 => .error .wouldBlock
  | counter count => .ok (count, counter 0)
  | nullDevice access => if access.reads then .ok (0, nullDevice access) else .error .badDescriptor

/-- One write of a number in eight bytes. The largest word is never accepted by a counter. -/
def write (target : EventTarget) (value : Nat) : Except SystemError EventTarget :=
  match target with
  | counter count =>
      if value > maxCount then .error .invalidArgument
      else if count + value ≤ maxCount then .ok (counter (count + value))
      else .error .wouldBlock
  | nullDevice access => if access.writes then .ok target else .error .badDescriptor

/-- A read would hand something over at once. -/
def isReady : EventTarget → Bool
  | counter count => count != 0
  | nullDevice _ => true

/-- Take what is pending; nothing pending counts as zero. -/
def drain (target : EventTarget) : Except SystemError (Nat × EventTarget) :=
  match target.read with
  | .ok taken => .ok taken
  | .error error => if error = .wouldBlock then .ok (0, target) else .error error

/-- Add one wakeup. A full counter is signalled already. -/
def signal (target : EventTarget) : Except SystemError EventTarget :=
  match target.write 1 with
  | .ok after => .ok after
  | .error error => if error = .wouldBlock then .ok target else .error error

end EventTarget

end RecordRing
