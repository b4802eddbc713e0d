import RecordRing.NumberText

set_option autoImplicit false

namespace RecordRing

namespace Toml

def isDigit (character : Char) : Bool :=
  (digitIn? 10 character).isSome

def isHexDigit (character : Char) : Bool :=
  (digitIn? 16 character).isSome

/-- A character of a key without quotes. -/
def isKeyCharacter (character : Char) : Bool :=
  isDigit character || ('a' ≤ character && character ≤ 'z') ||
    ('A' ≤ character && character ≤ 'Z') || character == '-' || character == '_'

def isSpace (character : Char) : Bool :=
  character == ' ' || character == '\t'

/-- A control character other than the tab. -/
def isForbidden (character : Char) : Bool :=
  (character.toNat < 0x20 && character != '\t') || character.toNat == 0x7F

/-- What is left after a newline, if the text starts with one. -/
def newline? : List Char → Option (List Char)
  | '\n' :: rest => some rest
  | '\r' :: '\n' :: rest => some rest
  | _ => none

end Toml

end RecordRing
