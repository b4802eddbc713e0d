import RecordRing.Text.Alphanumeric
import RecordRing.Text.Pattern.CharacterClass
/-!
Regular expressions, as far as it matters whether an automaton can be built for one. It can if the
expression is sound and asks only for what is known of its characters, and if it does not ask for
boundaries of words in any script.
-/

set_option autoImplicit false

namespace RecordRing

namespace Pattern

/-- Why no automaton can be built for an expression. -/
inductive Fault where
  | unsound
  /-- It asks for boundaries of words in any script. -/
  | wordBoundary
  deriving DecidableEq, Repr

def Fault.message : Fault → String
  | unsound => "error building NFA"
  | wordBoundary =>
      "unsupported regex feature for DFAs: cannot build DFAs for regexes with Unicode word boundaries; " ++
        "switch to ASCII word boundaries, or heuristically enable Unicode word boundaries or use a " ++
        "different regex engine"

/-- The letters of modes, and the dash before those that are switched off. -/
def modeLetters : List Char :=
  "imsUuRx-".toList

/-- The mode that letters switch to. Other modes than these three change nothing in what is sound. -/
def Mode.switch (mode : Mode) (letters : List Char) : Mode :=
  let on := letters.takeWhile (· != '-')
  let switched (letter : Char) (before : Bool) : Bool :=
    if letters.contains letter then on.contains letter else before
  { caseless := switched 'i' mode.caseless
    unicode := switched 'u' mode.unicode
    spaced := switched 'x' mode.spaced }

/-- Letters of modes are sound: each is there once, and one follows the dash. -/
def areModeLetters (letters : List Char) : Bool :=
  letters.all modeLetters.contains && letters.eraseDups.length = letters.length &&
    letters.getLast? != some '-'

def isGroupName : List Char → Bool
  | [] => false
  | first :: rest =>
      (first == '_' || isAlphabetic first) &&
        rest.all fun character => "_.[]".toList.contains character || isAlphanumeric character

/-- What stands behind an opening parenthesis. -/
inductive Opening where
  /-- A group in a mode, which may have a name. -/
  | group (mode : Mode) (name : Option (List Char))
  /-- Another mode up to the end of the group around it. -/
  | switch (mode : Mode)
  deriving DecidableEq, Repr

/-- The opening of a group that has a name. -/
def namedOpening? (mode : Mode) (text : List Char) : Option (Opening × List Char) :=
  let name := text.takeWhile (· != '>')
  match text.drop name.length with
  | '>' :: rest => if isGroupName name then some (.group mode (some name), rest) else none
  | _ => none

/-- The opening of a group with letters of modes. -/
def modeOpening? (mode : Mode) (text : List Char) : Option (Opening × List Char) :=
  let letters := text.takeWhile fun character => character != ':' && character != ')'
  if areModeLetters letters then
    match text.drop letters.length with
    | ':' :: rest => some (.group (mode.switch letters) none, rest)
    | ')' :: rest => if letters.isEmpty then none else some (.switch (mode.switch letters), rest)
    | _ => none
  else
    none

def opening? (mode : Mode) (text : List Char) : Option (Opening × List Char) :=
  match mode.skip text with
  | '?' :: 'P' :: '<' :: rest => namedOpening? mode rest
  | '?' :: '<' :: rest => namedOpening? mode rest
  | '?' :: rest => modeOpening? mode rest
  | rest => some (.group mode none, rest)

/-- Where the reading of an expression stands. -/
structure Reading where
  rest : List Char
  mode : Mode := {}
  names : List (List Char) := []
  /-- It has asked for boundaries of words in any script. -/
  bounded : Bool := false
  deriving DecidableEq, Repr

/-- A part of a row of parts: how deep it is nested, and whether it can be repeated. -/
structure Part where
  depth : Nat := 0
  repeatable : Bool := true
  deriving DecidableEq, Repr

/-- The parts of a row when the last one is repeated, the newest first. -/
def repeatLast? : List Part → Option (List Part)
  | [] => none
  | last :: before => if last.repeatable then some ({ depth := last.depth + 1 } :: before) else none

/-- A mark of repetition may have another one behind it, so that as little as possible is taken. -/
def afterRepetition : List Char → List Char
  | '?' :: rest => rest
  | rest => rest

/-- Take up a sign. -/
def Reading.withSign? (reading : Reading) (text : List Char) : Option Reading := do
  let (sign, rest) ← Sign.first? reading.mode text
  if sign.isKnown reading.mode then
    let bounded := reading.bounded || (sign == .wordBoundary && reading.mode.unicode)
    return { reading with rest, bounded }
  else
    none

/-- Go into a group. Two groups cannot have one name. -/
def Reading.into? (reading : Reading) (mode : Mode) (name : Option (List Char)) (rest : List Char) :
    Option Reading :=
  match name with
  | none => some { reading with rest, mode }
  | some name =>
      if reading.names.contains name then none
      else some { reading with rest, mode, names := name :: reading.names }

/-- Read on in an expression up to its end, which is a closing parenthesis if it is `inner`: how deep it
is nested, and where the reading then stands. The row that is read has `parts` so far, the newest first,
and stands behind alternatives of the depths `earlier`. Every step uses up a character, so the length of
the text is fuel enough. -/
def alternatives (inner : Bool) :
    (fuel : Nat) → Reading → (parts : List Part) → (earlier : List Nat) → Option (Nat × Reading)
  | 0, _, _, _ => none
  | fuel + 1, reading, parts, earlier =>
      let depths := rowDepth (parts.map Part.depth) :: earlier
      match reading.mode.skip reading.rest with
      | [] => if inner then none else some (rowDepth depths, { reading with rest := [] })
      | ')' :: rest => if inner then some (rowDepth depths, { reading with rest }) else none
      | '|' :: rest => alternatives inner fuel { reading with rest } [] depths
      | '(' :: rest => do
          match ← opening? reading.mode rest with
          | (.group mode name, inside) =>
              let (depth, after) ←
                alternatives true fuel (← reading.into? mode name inside) [] []
              alternatives inner fuel { after with mode := reading.mode }
                ({ depth := depth + 1 } :: parts) earlier
          | (.switch mode, behind) =>
              alternatives inner fuel { reading with rest := behind, mode }
                ({ repeatable := false } :: parts) earlier
      | '[' :: rest => do
          let (depth, after) ← CharacterClass.read? reading.mode rest
          alternatives inner fuel { reading with rest := after } ({ depth } :: parts) earlier
      | '\x7B' :: _ => none
      | mark :: rest => do
          if "?*+".toList.contains mark then
            alternatives inner fuel { reading with rest := afterRepetition rest }
              (← repeatLast? parts) earlier
          else
            alternatives inner fuel (← reading.withSign? (mark :: rest)) ({} :: parts) earlier

def maxDepth : Nat := 250

/-- An automaton can be built for the expression. It comes from between braces and so holds no closing
one; an opening one is then unsound, as are all forms that need a pair of them. -/
def check (text : String) : Except Fault Unit :=
  let rest := text.toList
  match alternatives false (rest.length + 1) { rest } [] [] with
  | none => .error .unsound
  | some (depth, reading) =>
      if maxDepth < depth then .error .unsound
      else if reading.bounded then .error .wordBoundary
      else .ok ()

end Pattern

end RecordRing
