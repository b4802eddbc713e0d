set_option autoImplicit false

namespace RecordRing

/-- An error number of the operating system; zero is the absence of an error. -/
structure SystemError where
  number : Nat
  deriving DecidableEq, Repr

namespace SystemError

def none : SystemError := ⟨0⟩
def noSuchFile : SystemError := ⟨2⟩
def interrupted : SystemError := ⟨4⟩
def badDescriptor : SystemError := ⟨9⟩
def wouldBlock : SystemError := ⟨11⟩
def outOfMemory : SystemError := ⟨12⟩
def permissionDenied : SystemError := ⟨13⟩
def badAddress : SystemError := ⟨14⟩
def noSuchDevice : SystemError := ⟨19⟩
def notDirectory : SystemError := ⟨20⟩
def isDirectory : SystemError := ⟨21⟩
def invalidArgument : SystemError := ⟨22⟩
def tooManyOpenFiles : SystemError := ⟨24⟩
def fileTooLarge : SystemError := ⟨27⟩
def nameTooLong : SystemError := ⟨36⟩

/-- What the system's catalogue says of a number. -/
def text (error : SystemError) : String :=
  match error.number with
  | 0 => "Success"
  | 1 => "Operation not permitted"
  | 2 => "No such file or directory"
  | 4 => "Interrupted system call"
  | 5 => "Input/output error"
  | 9 => "Bad file descriptor"
  | 11 => "Resource temporarily unavailable"
  | 12 => "Cannot allocate memory"
  | 13 => "Permission denied"
  | 14 => "Bad address"
  | 16 => "Device or resource busy"
  | 19 => "No such device"
  | 20 => "Not a directory"
  | 21 => "Is a directory"
  | 22 => "Invalid argument"
  | 23 => "Too many open files in system"
  | 24 => "Too many open files"
  | 27 => "File too large"
  | 28 => "No space left on device"
  | 36 => "File name too long"
  | number => s!"Unknown error {number}"

def message (error : SystemError) : String :=
  s!"{error.text} (os error {error.number})"

end SystemError

inductive Failure where
  | system (error : SystemError)
  /-- A text was wanted, but its bytes are not one. -/
  | notText
  /-- A path holds a character that no path may hold. -/
  | nulInPath
  /-- A length of a file that needs more than 63 bits. -/
  | fileTooLong
  /-- A length of memory that needs more than 63 bits. -/
  | memoryTooLong
  /-- A variable should name a descriptor and does not. -/
  | notDescriptor (name value : String)
  | other (words : String)
  deriving DecidableEq, Repr

namespace Failure

def message : Failure → String
  | system error => error.message
  | notText => "stream did not contain valid UTF-8"
  | nulInPath => "file name contained an unexpected NUL byte"
  | fileTooLong => "number too large to fit in target type"
  | memoryTooLong => "memory map length overflows isize"
  | notDescriptor name value => s!"{name}={value} is not a descriptor"
  | other words => words

end Failure

end RecordRing
