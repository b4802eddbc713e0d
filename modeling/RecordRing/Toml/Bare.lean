import RecordRing.Toml.Moment
import RecordRing.Toml.Grammar

set_option autoImplicit false

namespace RecordRing

namespace Toml

/-- A fault of the characters of a word from one up to another one. -/
def Raw.faultAt {α : Type} (raw : Raw) (first last : Nat) (complaint : Complaint) :
    Except Fault α :=
  let place (count : Nat) : Nat := raw.span.start + byteLength (raw.text.take count)
  .error (.spanning complaint ⟨place first, place last⟩)

namespace Bare

/-- A word that is no value. It may have lost an opening quote. -/
def refuse {α : Type} (raw : Raw) : Except Fault α :=
  match ["'''", "\"\"\"", "'", "\""].find? fun quote => quote.toList.isSuffixOf raw.text with
  | some quote => raw.faultAt 0 0 (.missingOpeningQuote quote)
  | none => .error (.spanning .missingQuotes raw.span)

/-- How many characters stand before the first underscore that lacks a digit on one of its sides, if
there is such a one. Of two in a row the second is at fault. Before the text stands a digit if
`digitBefore`. -/
def strayUnderscore? (isDigit : Char → Bool) (digitBefore : Bool) : List Char → Option Nat
  | [] => none
  | character :: rest =>
      let goesOn := (rest.head?.map fun next => isDigit next || next == '_').getD false
      if character == '_' && !(digitBefore && goesOn) then some 0
      else (strayUnderscore? isDigit (isDigit character) rest).map (· + 1)

/-- The characters of a number without the underscores between its digits. They start at a place in
the word. -/
def parted (raw : Raw) (first : Nat) (isDigit : Char → Bool) : Except Fault (List Char) :=
  let text := raw.text.drop first
  match strayUnderscore? isDigit false text with
  | some index => raw.faultAt (first + index) (first + index + 1) .strayUnderscore
  | none => .ok (text.filter (· != '_'))

/-- Only numbers of 128 bits are kept, whether they are meant with a sign or without. -/
def inRange (value : Int) : Bool :=
  -(1 <<< 127 : Nat) ≤ value && value < (1 <<< 128 : Nat)

/-- The value of digits, if there are any and nothing else. -/
def digitsIn? (radix : Nat) (text : List Char) : Option Nat := do
  let digits ← text.mapM (digitIn? radix)
  if digits.isEmpty then none
  else return digits.foldl (fun value digit => value * radix + digit) 0

/-- A sign, if there is one, and what it stands before. -/
def splitSign : List Char → Bool × List Char
  | '-' :: rest => (true, rest)
  | '+' :: rest => (false, rest)
  | text => (false, text)

/-- The whole number that digits make, if it is kept. -/
def kept (radix : Nat) (negative : Bool) (text : List Char) : Option Int := do
  let size ← digitsIn? radix text
  let value : Int := if negative then -(size : Int) else size
  if inRange value then return value else none

/-- A decimal whole number. Underscores may part the digits of any number system; a number with such
other digits is not kept. -/
def integer (raw : Raw) : Except Fault Value := do
  let (negative, digits) := splitSign (← parted raw 0 isHexDigit)
  return .integer (kept 10 negative digits)

/-- A number system that is not the decimal one: its name, its mark, and how many digits it has. -/
structure Radix where
  name : String
  mark : Char
  size : Nat

/-- The number systems besides the decimal one. -/
def radixes : List Radix :=
  [⟨"hexadecimal", 'x', 16⟩, ⟨"octal", 'o', 8⟩, ⟨"binary", 'b', 2⟩]

/-- A whole number in another number system, after a sign of `skip` characters. -/
def radixInteger (raw : Raw) (skip : Nat) (radix : Radix) : Except Fault Value := do
  let first := skip + 2
  let digits := raw.text.drop first
  let good := digits.takeWhile fun character =>
    character == '_' || (digitIn? radix.size character).isSome
  if 0 < skip then
    raw.faultAt 0 1 .signedRadix
  else if raw.text[1]? != some radix.mark then
    raw.faultAt skip first (.capitalRadix (String.ofList ['0', radix.mark]))
  else if digits.head? = some '+' || digits.head? = some '-' then
    raw.faultAt first (first + 1) .signAfterRadix
  else if good.length < digits.length then
    raw.faultAt (first + good.length) (first + good.length) (.radixDigit radix.name)
  else do
    let text ← parted raw first isHexDigit
    return .integer (kept radix.size false text)

/-- The digits of a number times a power of ten would round beyond the largest number that fits 64
bits. -/
def overflows (digits : Nat) (exponent : Int) : Bool :=
  let magnitude : Int := (Nat.toDigits 10 digits).length + exponent
  if digits = 0 || magnitude < 300 then false
  else if magnitude > 320 then true
  else
    let bound := 1 <<< 1024 - 1 <<< 970
    match exponent with
    | .ofNat shift => bound ≤ digits * Nat.pow 10 shift
    | .negSucc shift => bound * Nat.pow 10 (shift + 1) ≤ digits

/-- The digits of a part of a number that start at a place in the word: how far they go. A part that
must not start with a needless zero is `plain`. -/
def part (raw : Raw) (first : Nat) (name : String) (plain : Bool) : Except Fault Nat :=
  let run := (raw.text.drop first).takeWhile fun character => isDigit character || character == '_'
  let count := (run.filter isDigit).length
  if count = 0 then raw.faultAt first first (.missingDigits name)
  else if plain && 1 < count && run.head? = some '0' then
    raw.faultAt first (first + 1) .leadingZero
  else .ok (first + run.length)

/-- A number with a fraction, an exponent, or both, after a sign of `skip` characters. -/
def real (raw : Raw) (skip : Nat) : Except Fault Value := do
  let whole ← part raw skip "mantissa" true
  let fraction ← if raw.text[whole]? = some '.' then part raw (whole + 1) "fraction" false
    else .ok whole
  let exponent ← match raw.text[fraction]? with
    | some 'e' | some 'E' =>
        let mark := fraction + 1
        let signed := raw.text[mark]? = some '+' || raw.text[mark]? = some '-'
        part raw (if signed then mark + 1 else mark) "exponent" false
    | _ => .ok fraction
  if exponent < raw.text.length then
    raw.faultAt exponent raw.text.length .afterReal
  else do
    let (negative, text) := splitSign (← parted raw 0 isDigit)
    let units := text.takeWhile isDigit
    let afterUnits := text.drop units.length
    let places := match afterUnits with
      | '.' :: rest => rest.takeWhile isDigit
      | _ => []
    let power := (afterUnits.dropWhile fun character => character != 'e' && character != 'E').drop 1
    let (down, size) := splitSign power
    let shift : Int := (digitsIn? 10 size).getD 0
    let digits := (digitsIn? 10 (units ++ places)).getD 0
    let exponent := (if down then -shift else shift) - places.length
    let number : RealNumber := .finite negative digits exponent
    return .real (if overflows digits exponent then none else some number)

/-- A word that is the name of a value, after a sign of `skip` characters. -/
def name (raw : Raw) (skip : Nat) (kind name : String) (value : Value) : Except Fault Value :=
  if raw.text.drop skip = name.toList then .ok value
  else raw.faultAt skip raw.text.length (.misspelt kind name)

def number (raw : Raw) (skip : Nat) : Except Fault Value :=
  let text := raw.text.drop skip
  let rest := text.dropWhile isDigit
  let leadingZero := text.head? = some '0' && 1 < text.length
  let whole (_ : Unit) : Except Fault Value :=
    if leadingZero then raw.faultAt skip (skip + 1) .leadingZero else integer raw
  if rest.isEmpty then whole ()
  else if rest.head? = some '-' || rest.head? = some ':' then
    match Moment.ofText raw.text with
    | .ok moment => .ok (.moment moment)
    | .error complaint => .error (.spanning complaint raw.span)
  else if rest.any fun character => character == '.' || character == 'e' || character == 'E' then
    real raw skip
  else if rest.head? = some '_' then whole ()
  else refuse raw

def unsigned (raw : Raw) (skip : Nat) (negative : Bool) : Except Fault Value :=
  match raw.text.drop skip with
  | '0' :: mark :: _ =>
      match radixes.find? fun radix => radix.mark == mark.toLower with
      | some radix => radixInteger raw skip radix
      | none =>
          if mark == 'd' || mark == 'D' then raw.faultAt skip (skip + 2) .decimalRadix
          else number raw skip
  | '.' :: _ => real raw 0
  | 'i' :: _ | 'I' :: _ => name raw skip "float" "inf" (.real (some (.infinite negative)))
  | 'n' :: _ | 'N' :: _ => name raw skip "float" "nan" (.real (some .notANumber))
  | first :: _ => if isDigit first || first == '_' then number raw skip else refuse raw
  | [] => refuse raw

/-- The word starts like a day or a time: with digits before a dash or a colon. -/
def startsMoment (text : List Char) : Bool :=
  let rest := text.dropWhile isDigit
  rest.length < text.length && (rest.head? = some '-' || rest.head? = some ':')

end Bare

/-- The value of a word that is not quoted. Blanks may stand only between a day and a time. -/
def Raw.bareValue (raw : Raw) : Except Fault Value :=
  if raw.text.contains ' ' && !Bare.startsMoment raw.text then
    Bare.refuse raw
  else
    match raw.text with
    | '+' :: next :: _ | '-' :: next :: _ =>
        if next == '+' || next == '-' then raw.faultAt 1 2 .secondSign
        else Bare.unsigned raw 1 (raw.text.head? = some '-')
    | 't' :: _ | 'T' :: _ => Bare.name raw 0 "boolean" "true" (.boolean true)
    | 'f' :: _ | 'F' :: _ => Bare.name raw 0 "boolean" "false" (.boolean false)
    | _ => Bare.unsigned raw 0 false

end Toml

end RecordRing
