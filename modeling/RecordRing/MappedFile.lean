import RecordRing.Buffer
import RecordRing.SystemError

set_option autoImplicit false

namespace RecordRing

namespace MappedFile

/-- Lengths from here on do not fit a signed word. -/
def signedLimit : Nat := 1 <<< 63

/-- The most bytes that a file may have: as many blocks of 4096 bytes as 32 bits can count. -/
def maxFileLength : Nat := (1 <<< 32 - 1) * 4096

/-- Programs have addresses of 47 bits. -/
def addressLimit : Nat := 1 <<< 47

def checkFileLength (length : Nat) : Except Failure Unit :=
  if signedLimit ≤ length then .error .fileTooLong
  else if maxFileLength < length then .error (.system .fileTooLarge)
  else .ok ()

def checkMemoryLength (length : Nat) : Except Failure Unit :=
  if signedLimit ≤ length then .error .memoryTooLong
  else if addressLimit ≤ length then .error (.system .outOfMemory)
  else .ok ()

/-- What opening with truncation leaves of a file. -/
def truncate (_file : Buffer) : Buffer :=
  .zeros 0

/-- Create a file of the given length. One that was there is emptied first, so nothing of it remains. -/
def create (before : Option Buffer) (length : Nat) : Buffer :=
  (truncate (before.getD (.zeros 0))).resize length

structure ViewFault where
  requested : UInt64
  available : UInt64
  deriving DecidableEq, Repr

def ViewFault.message (fault : ViewFault) : String :=
  s!"requested view of {fault.requested} bytes exceeds the {fault.available}-byte backing file"

/-- How many bytes a view maps: all of the file, or a length that the file must have. -/
def viewLength (available : UInt64) (view : Option UInt64) : Except ViewFault UInt64 :=
  match view with
  | none => .ok available
  | some requested =>
      if requested > available then .error ⟨requested, available⟩ else .ok requested

/-- The bytes that a view maps. -/
def view (file : Buffer) (length : Option UInt64) : Except ViewFault Buffer := do
  let mapped ← viewLength (UInt64.ofNat file.size) length
  return file.extract 0 mapped.toNat

theorem create_eq_zeros (before : Option Buffer) (length : Nat) :
    create before length = .zeros length := by
  simp [create, truncate, Buffer.resize, Buffer.zeros]

end MappedFile

end RecordRing
