import RecordRing.Toml.Grammar

set_option autoImplicit false

namespace RecordRing

namespace Toml

namespace Quoted

/-- The place of a rest that ends at `stop`. -/
def placeOf (stop : Nat) (rest : List Char) : Nat :=
  stop - byteLength rest

/-- A fault before a rest. -/
def faultAt {α : Type} (stop : Nat) (rest : List Char) (complaint : Complaint) : Except Fault α :=
  .error (.here complaint (placeOf stop rest))

/-- A fault of the characters at the start of a rest that are of a kind. -/
def faultOver {α : Type} (stop : Nat) (rest : List Char) (bad : Char → Bool)
    (complaint : Complaint) : Except Fault α :=
  let start := placeOf stop rest
  .error (.spanning complaint ⟨start, start + byteLength (rest.takeWhile bad)⟩)

/-- The character of a code point; surrogates are none. -/
def character? (point : Nat) : Option Char :=
  if point < 0xD800 || (0xDFFF < point && point < 0x110000) then some (Char.ofNat point) else none

/-- The character given by exactly `count` hexadecimal digits. If there are fewer, the fault is behind
the last of them. -/
def codePoint (stop count : Nat) (text : List Char) : Except Fault (Char × List Char) :=
  let digits := ((text.take count).takeWhile isHexDigit).filterMap (digitIn? 16)
  let rest := text.drop digits.length
  if digits.length < count then
    faultAt stop rest .fewDigits
  else
    match character? (digits.foldl (fun value digit => value * 16 + digit) 0) with
    | none => faultAt stop text .noCharacter
    | some character => .ok (character, rest)

/-- The character that an escape stands for; the backslash is already gone. -/
def escape (stop : Nat) : List Char → Except Fault (Char × List Char)
  | 'b' :: rest => .ok ('\x08', rest)
  | 't' :: rest => .ok ('\t', rest)
  | 'n' :: rest => .ok ('\n', rest)
  | 'f' :: rest => .ok ('\x0C', rest)
  | 'r' :: rest => .ok ('\r', rest)
  | 'e' :: rest => .ok ('\x1B', rest)
  | '\x22' :: rest => .ok ('\x22', rest)
  | '\x5C' :: rest => .ok ('\x5C', rest)
  | 'x' :: rest => codePoint stop 2 rest
  | 'u' :: rest => codePoint stop 4 rest
  | 'U' :: rest => codePoint stop 8 rest
  | text => faultAt stop text .unknownEscape

/-- A newline at the very start of a text over several lines does not belong to it. -/
def skipFirstNewline (text : List Char) : List Char :=
  (newline? text).getD text

/-- Leave out blanks and newlines, as after a backslash at the end of a line. -/
def skipBlankLines : List Char → List Char
  | '\n' :: rest => skipBlankLines rest
  | '\r' :: '\n' :: rest => skipBlankLines rest
  | ' ' :: rest => skipBlankLines rest
  | '\t' :: rest => skipBlankLines rest
  | rest => rest

def literal (stop : Nat) (text : List Char) : Except Fault (List Char) :=
  let good := text.takeWhile fun character => !isForbidden character
  if good.length = text.length then .ok text
  else faultAt stop (text.drop good.length) .literalCharacter

/-- A text in double quotes. Every step uses up a character, so the length of the text is fuel
enough. -/
def basic (stop : Nat) : Nat → List Char → Except Fault (List Char)
  | 0, _ | _, [] => .ok []
  | fuel + 1, '\x5C' :: rest => do
      let (character, after) ← escape stop rest
      return character :: (← basic stop fuel after)
  | fuel + 1, character :: rest => do
      if isForbidden character then
        faultOver stop (character :: rest) isForbidden .basicCharacter
      else
        return character :: (← basic stop fuel rest)

def longLiteral (stop : Nat) : List Char → Except Fault (List Char)
  | [] => .ok []
  | '\n' :: rest => do return '\n' :: (← longLiteral stop rest)
  | '\r' :: '\n' :: rest => do return '\r' :: '\n' :: (← longLiteral stop rest)
  | '\r' :: rest => faultAt stop rest .loneReturn
  | character :: rest => do
      if isForbidden character then
        faultAt stop (character :: rest) .longLiteralCharacter
      else
        return character :: (← longLiteral stop rest)

/-- A text in three double quotes. A backslash at the end of a line hides all blanks up to the next
character. -/
def longBasic (stop : Nat) : Nat → List Char → Except Fault (List Char)
  | 0, _ | _, [] => .ok []
  | fuel + 1, '\n' :: rest => do return '\n' :: (← longBasic stop fuel rest)
  | fuel + 1, '\r' :: '\n' :: rest => do return '\r' :: '\n' :: (← longBasic stop fuel rest)
  | _ + 1, '\r' :: rest => faultAt stop rest .loneReturn
  | fuel + 1, '\x5C' :: rest =>
      match rest with
      | [] => faultAt stop rest .unknownEscape
      | next :: _ =>
          if isSpace next || next == '\n' || next == '\r' then
            let behind := rest.dropWhile isSpace
            match newline? behind with
            | some after => longBasic stop fuel (skipBlankLines after)
            | none =>
                match behind with
                | '\r' :: after => faultAt stop after .loneReturn
                | _ => faultAt stop behind .hiddenNewline
          else do
            let (character, after) ← escape stop rest
            return character :: (← longBasic stop fuel after)
  | fuel + 1, character :: rest => do
      if isForbidden character then
        faultOver stop (character :: rest)
          (fun character => isForbidden character && character != '\r' && character != '\n')
          .longBasicCharacter
      else
        return character :: (← longBasic stop fuel rest)

/-- What stands between quotes, and the place where it ends. The opening ones are there. -/
def inner (raw : Raw) (quotes : List Char) (complaint : Complaint) :
    Except Fault (List Char × Nat) :=
  let text := raw.text.drop quotes.length
  if quotes.isSuffixOf text then
    .ok (text.take (text.length - quotes.length), raw.span.stop - byteLength quotes)
  else
    .error (.here complaint raw.span.stop)

end Quoted

/-- The text that a quoted key or value stands for; any other stands for itself. -/
def Raw.quotedText (raw : Raw) : Except Fault String := do
  match raw.form with
  | .bare => return String.ofList raw.text
  | .literal =>
      let (text, stop) ← Quoted.inner raw ['\x27'] .literalEnd
      return String.ofList (← Quoted.literal stop text)
  | .basic =>
      let (text, stop) ← Quoted.inner raw ['\x22'] .basicEnd
      return String.ofList (← Quoted.basic stop text.length text)
  | .longLiteral =>
      let (text, stop) ← Quoted.inner raw ['\x27', '\x27', '\x27'] .longLiteralEnd
      return String.ofList (← Quoted.longLiteral stop (Quoted.skipFirstNewline text))
  | .longBasic =>
      let (text, stop) ← Quoted.inner raw ['\x22', '\x22', '\x22'] .longBasicEnd
      let lines := Quoted.skipFirstNewline text
      return String.ofList (← Quoted.longBasic stop lines.length lines)

/-- The text of a key. Without quotes it is made of letters, digits, dashes and underscores; with
quotes it does not go over several lines. -/
def Raw.keyText (raw : Raw) : Except Fault String :=
  match raw.form with
  | .bare =>
      let good := raw.text.takeWhile isKeyCharacter
      let bad := (raw.text.drop good.length).takeWhile fun character => !isKeyCharacter character
      let start := raw.span.start + byteLength good
      if raw.text.isEmpty then .error (.spanning .emptyKey raw.span)
      else if bad.isEmpty then .ok (String.ofList good)
      else .error (.spanning .keyCharacter ⟨start, start + byteLength bad⟩)
  | .longLiteral => .error (.spanning (.longKey "literal") raw.span)
  | .longBasic => .error (.spanning (.longKey "basic") raw.span)
  | _ => raw.quotedText

/-- How many parts a key may have before its last one. -/
def maxPath : Nat := 79

/-- The parts of a key before the last one, and the last one, each with its place. -/
def keyPath (parts : List Raw) : Except Fault (List (String × Span) × String × Span) := do
  let texts ← parts.mapM fun raw => return (← raw.keyText, raw.span)
  let path := texts.dropLast
  if maxPath < path.length then .error ⟨.longPath, none⟩
  else return (path, texts.getLast?.getD ("", ⟨0, 0⟩))

end Toml

end RecordRing
