set_option autoImplicit false

namespace RecordRing

/-- Blank characters of any script, as a text is trimmed. -/
def isBlank (character : Char) : Bool :=
  let point := character.toNat
  (9 ≤ point && point ≤ 13) || point == 0x20 || point == 0x85 || point == 0xA0 ||
    point == 0x1680 || (0x2000 ≤ point && point ≤ 0x200A) || point == 0x2028 || point == 0x2029 ||
    point == 0x202F || point == 0x205F || point == 0x3000

def trimBlanks (text : List Char) : List Char :=
  ((text.dropWhile isBlank).reverse.dropWhile isBlank).reverse

/-- A digit of a number system, by its value. -/
def digitIn? (radix : Nat) (character : Char) : Option Nat :=
  let value :=
    if '0' ≤ character ∧ character ≤ '9' then character.toNat - 48
    else if 'a' ≤ character ∧ character ≤ 'f' then character.toNat - 87
    else if 'A' ≤ character ∧ character ≤ 'F' then character.toNat - 55
    else radix
  if value < radix then some value else none

namespace NumberText

inductive Fault where
  | empty
  | invalidDigit
  | tooLarge
  | tooSmall
  deriving DecidableEq, Repr

def Fault.message : Fault → String
  | empty => "cannot parse integer from empty string"
  | invalidDigit => "invalid digit found in string"
  | tooLarge => "number too large to fit in target type"
  | tooSmall => "number too small to fit in target type"

/-- The value of a row of digits that must not exceed `limit`. -/
def digits (limit : Nat) (overflow : Fault) (value : Nat) : List Char → Except Fault Nat
  | [] => .ok value
  | character :: rest =>
      match digitIn? 10 character with
      | none => .error .invalidDigit
      | some next =>
          let value := value * 10 + next
          if value ≤ limit then digits limit overflow value rest else .error overflow

/-- A number from zero to `limit`; a plus sign may stand before it. -/
def unsigned (limit : Nat) (text : List Char) : Except Fault Nat :=
  match text with
  | [] => .error .empty
  | ['+'] => .error .invalidDigit
  | '+' :: rest => digits limit .tooLarge 0 rest
  | text => digits limit .tooLarge 0 text

/-- A number from `-magnitude` up to, but without, `magnitude`; either sign may stand before it. -/
def signed (magnitude : Nat) (text : List Char) : Except Fault Int :=
  match text with
  | [] => .error .empty
  | ['+'] | ['-'] => .error .invalidDigit
  | '-' :: rest => (digits magnitude .tooSmall 0 rest).map fun value => -(value : Int)
  | '+' :: rest => (digits (magnitude - 1) .tooLarge 0 rest).map Int.ofNat
  | text => (digits (magnitude - 1) .tooLarge 0 text).map Int.ofNat

/-- What follows a sign, if there is one. -/
def dropSign : List Char → List Char
  | '+' :: rest => rest
  | '-' :: rest => rest
  | text => text

/-- Digits only, and at least one. -/
def isWhole (text : List Char) : Bool :=
  !text.isEmpty && text.all Char.isDigit

def isExponent : List Char → Bool
  | [] => true
  | mark :: rest => (mark == 'e' || mark == 'E') && isWhole (dropSign rest)

/-- A real number: digits with or without a point among them, and an exponent if there is one; or the
name of an infinite number or of none. A sign may stand before either. -/
def isReal (text : List Char) : Bool :=
  let size := dropSign text
  let whole := size.takeWhile Char.isDigit
  let (fraction, rest) := match size.drop whole.length with
    | '.' :: rest => (rest.takeWhile Char.isDigit, rest.dropWhile Char.isDigit)
    | rest => ([], rest)
  let name := String.ofList (size.map Char.toLower)
  (isWhole (whole ++ fraction) && isExponent rest) || ["inf", "infinity", "nan"].contains name

end NumberText

end RecordRing
