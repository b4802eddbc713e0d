import RecordRing.Text.Pattern.Sign

set_option autoImplicit false

namespace RecordRing

namespace Pattern

/-- How deep the parts of a row are nested. A row of several is one level above the deepest. -/
def rowDepth : List Nat → Nat
  | [] => 0
  | [depth] => depth
  | depths => depths.foldl max 0 + 1

namespace CharacterClass

def names : List String :=
  ["alnum", "alpha", "ascii", "blank", "cntrl", "digit", "graph", "lower", "print", "punct", "space",
    "upper", "word", "xdigit"]

/-- A class given by its name between colons, behind its opening bracket: whether all but its
characters are meant, and what follows it. -/
def named? : List Char → Option (Bool × List Char)
  | ':' :: rest =>
      let (negated, start) := match rest with
        | '^' :: after => (true, after)
        | _ => (false, rest)
      let name := start.takeWhile (· != ':')
      match start.drop name.length with
      | ':' :: ']' :: after =>
          if names.contains (String.ofList name) then some (negated, after) else none
      | _ => none
  | _ => none

/-- A class is the complement of what stands in its brackets. Bytes have none, since it would not stand
for whole characters. -/
def canNegate (mode : Mode) (negated : Bool) : Bool :=
  mode.unicode || !negated

/-- A dash makes a range, unless it is followed by the closing bracket or by another dash. In a comment
only the mark at its start is passed over. -/
def makesRange (mode : Mode) (rest : List Char) : Bool :=
  let next := if mode.spaced then
      match rest.dropWhile isBlank with
      | '#' :: comment => comment.dropWhile isBlank
      | other => other
    else rest
  next.head? != some ']' && next.head? != some '-'

/-- What follows the first sign or range of a text. -/
def afterMember? (mode : Mode) (text : List Char) : Option (List Char) := do
  let (first, rest) ← Sign.firstInClass? mode text
  if !first.isMember mode then none
  else
    match mode.skip rest with
    | '-' :: behind =>
        if makesRange mode behind then
          let (last, after) ← Sign.firstInClass? mode (mode.skip behind)
          match first, last with
          | .character low _, .character high _ =>
              if last.isMember mode && low ≤ high then some after else none
          | _, _ => none
        else
          some ('-' :: behind)
    | other => some other

/-- Dashes at the start of a class stand for themselves: how many there are, and what follows them. -/
def leadingDashes (mode : Mode) : (fuel : Nat) → List Char → Nat × List Char
  | 0, text => (0, text)
  | fuel + 1, text =>
      match mode.skip text with
      | '-' :: rest =>
          let (more, after) := leadingDashes mode fuel rest
          (more + 1, after)
      | other => (0, other)

/-- How a class starts, behind its opening bracket: how many members are read, and what follows them.
A caret negates it; a closing bracket at the very start stands for itself. -/
def start? (mode : Mode) (text : List Char) : Option (Nat × List Char) :=
  let (negated, behind) := match mode.skip text with
    | '^' :: rest => (true, rest)
    | rest => (false, rest)
  let (dashes, rest) := leadingDashes mode behind.length behind
  let (count, after) := match dashes, rest with
    | 0, ']' :: after => (1, after)
    | _, _ => (dashes, rest)
  let known := count = 0 || (Sign.character '-' false).isMember mode
  if canNegate mode negated && known then some (count, after) else none

/-- Read on in a class up to its closing bracket: how deep the class is nested, and what follows it. To
the left of the last operation stands something of depth `left`, if there is one; to its right stand
`members` so far. Every step uses up a character, so the length of the text is fuel enough. -/
def members (mode : Mode) :
    (fuel : Nat) → (left : Option Nat) → (members : List Nat) → List Char → Option (Nat × List Char)
  | 0, _, _, _ => none
  | fuel + 1, left, found, text =>
      let depth := match left with
        | none => rowDepth found
        | some other => max other (rowDepth found) + 1
      match mode.skip text with
      | [] => none
      | ']' :: rest => some (depth + 1, rest)
      | '&' :: '&' :: rest => members mode fuel (some depth) [] rest
      | '-' :: '-' :: rest => members mode fuel (some depth) [] rest
      | '~' :: '~' :: rest => members mode fuel (some depth) [] rest
      | '[' :: rest =>
          match named? rest with
          | some (negated, after) =>
              if canNegate mode negated && !(mode.unicode && mode.caseless) then
                members mode fuel left (0 :: found) after
              else
                none
          | none => do
              let (count, inside) ← start? mode rest
              let (inner, after) ← members mode fuel none (List.replicate count 0) inside
              members mode fuel left (inner :: found) after
      | other => do members mode fuel left (0 :: found) (← afterMember? mode other)

/-- A class behind its opening bracket: how deep it is nested, and what follows it. -/
def read? (mode : Mode) (text : List Char) : Option (Nat × List Char) := do
  let (count, rest) ← start? mode text
  members mode (rest.length + 1) none (List.replicate count 0) rest

end CharacterClass

end Pattern

end RecordRing
