import RecordRing.NumberText

set_option autoImplicit false

namespace RecordRing

namespace Pattern

/-- How a part of an expression is read. -/
structure Mode where
  /-- Capital and small letters are the same. -/
  caseless : Bool := false
  /-- Characters are meant, and not bytes. -/
  unicode : Bool := true
  /-- Blanks and comments are passed over. -/
  spaced : Bool := false
  deriving DecidableEq, Repr

/-- What follows blanks and comments. A comment goes on to the end of its line. -/
def skipBlanks (inComment : Bool) : List Char → List Char
  | [] => []
  | character :: rest =>
      if inComment then skipBlanks (character != '\n') rest
      else if isBlank character then skipBlanks false rest
      else if character == '#' then skipBlanks true rest
      else character :: rest

/-- What is left to read where a sign may start. -/
def Mode.skip (mode : Mode) (text : List Char) : List Char :=
  if mode.spaced then skipBlanks false text else text

inductive Sign where
  /-- A character; `byte` if it is written as the number of a byte. -/
  | character (value : Char) (byte : Bool)
  /-- Any character but a newline. -/
  | any
  /-- The digits, the blanks or the characters of words, or all others if `negated`. -/
  | kind (negated : Bool)
  /-- A place where a word starts or ends, or where none does. -/
  | wordBoundary
  /-- The start or the end of the text or of a line. -/
  | edge
  deriving DecidableEq, Repr

namespace Sign

/-- A sign can be told in a mode. In bytes, what does not stand for whole characters is refused; in
characters, what needs more than ASCII to be known. -/
def isKnown (mode : Mode) : Sign → Bool
  | character value byte =>
      if mode.unicode then !mode.caseless else !byte || value.toNat < 0x80
  | any => mode.unicode
  | kind negated => !mode.unicode && !negated
  | wordBoundary | edge => true

/-- A sign can be a member of a class of characters. -/
def isMember (mode : Mode) (sign : Sign) : Bool :=
  match sign with
  | character value _ => sign.isKnown mode && (mode.unicode || value.toNat < 0x80)
  | kind _ => sign.isKnown mode
  | any | wordBoundary | edge => false

/-- A character that stands for itself behind a backslash. -/
def isEscapable (value : Char) : Bool :=
  value.toNat < 0x80 && !value.isAlphanum && value != '<' && value != '>'

/-- The number that exactly `count` hexadecimal digits say, behind what was read of it. -/
def hexNumber (mode : Mode) : (count value : Nat) → List Char → Option (Nat × List Char)
  | 0, value, text => some (value, text)
  | count + 1, value, text =>
      match mode.skip text with
      | [] => none
      | digit :: rest => do hexNumber mode count (value * 16 + (← digitIn? 16 digit)) rest

/-- The character whose number is written in hexadecimal digits. -/
def numbered? (mode : Mode) (count : Nat) (text : List Char) : Option (Sign × List Char) := do
  let (point, rest) ← hexNumber mode count 0 text
  if point.isValidChar then return (.character (Char.ofNat point) (count == 2), rest) else none

def escaped? (mode : Mode) : List Char → Option (Sign × List Char)
  | [] => none
  | letter :: rest =>
      let plain (value : Char) : Option (Sign × List Char) := some (.character value false, rest)
      if isEscapable letter then
        plain letter
      else
        match letter with
        | 'x' => numbered? mode 2 rest
        | 'u' => numbered? mode 4 rest
        | 'U' => numbered? mode 8 rest
        | 'd' | 's' | 'w' => some (.kind false, rest)
        | 'D' | 'S' | 'W' => some (.kind true, rest)
        | 'b' | 'B' | '<' | '>' => some (.wordBoundary, rest)
        | 'A' | 'z' => some (.edge, rest)
        | 'a' => plain '\x07'
        | 'f' => plain '\x0C'
        | 'n' => plain '\n'
        | 'r' => plain '\r'
        | 't' => plain '\t'
        | 'v' => plain '\x0B'
        | _ => none

def first? (mode : Mode) : List Char → Option (Sign × List Char)
  | [] => none
  | '\x5C' :: rest => escaped? mode rest
  | '.' :: rest => some (.any, rest)
  | '^' :: rest => some (.edge, rest)
  | '$' :: rest => some (.edge, rest)
  | value :: rest => some (.character value false, rest)

/-- The first sign of a text within a class, and what follows it. -/
def firstInClass? (mode : Mode) : List Char → Option (Sign × List Char)
  | [] => none
  | '\x5C' :: rest => escaped? mode rest
  | value :: rest => some (.character value false, rest)

end Sign

end Pattern

end RecordRing
