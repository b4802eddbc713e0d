import RecordRing.NumberText
import RecordRing.Text.Alphanumeric
import RecordRing.Text.Pattern
import RecordRing.Text.Pieces

set_option autoImplicit false

namespace RecordRing

/-- A condition on a field: that it is there, and that it has a value, if one is given. -/
structure FieldCondition where
  name : String
  value : Option String := none
  deriving DecidableEq, Repr

/-- What a directive says: whatever meets its conditions is logged up to a depth of levels. Without a
level, every level is. -/
structure Directive where
  target : Option String := none
  span : Option String := none
  fields : List FieldCondition := []
  depth : Nat := 5
  deriving DecidableEq, Repr

inductive DirectiveFault where
  | malformed
  /-- A field cannot be compared with what is given as its value. -/
  | value (fault : Pattern.Fault)
  | level
  deriving DecidableEq, Repr

def DirectiveFault.message : DirectiveFault → String
  | malformed => "invalid filter directive"
  | value fault => "invalid field filter: " ++ fault.message
  | level =>
      "error parsing level filter: expected one of \"off\", \"error\", \"warn\", \"info\", " ++
        "\"debug\", \"trace\", or a number 0-5"

namespace Directive

/-- How many levels a word lets through: a name of a level in any case, or a number up to five. -/
def depth? (word : String) : Option Nat :=
  match NumberText.unsigned (UInt64.size - 1) word.toList with
  | .ok depth => if depth ≤ 5 then some depth else none
  | .error _ =>
      match String.ofList (word.toList.map Char.toLower) with
      | "" => some 1
      | "off" => some 0
      | "error" => some 1
      | "warn" => some 2
      | "info" => some 3
      | "debug" => some 4
      | "trace" => some 5
      | _ => none

/-- The part of a directive that is being read, with the place where it starts. -/
inductive Part where
  | start
  | word (first : Nat)
  | span (first : Nat)
  | field (first : Nat)
  /-- Behind the braces of the fields. -/
  | fieldsEnd
  /-- Behind the bracket of the span. -/
  | spanEnd
  | level (first : Nat)
  deriving DecidableEq, Repr

/-- The characters of a text with their places, counted in bytes. -/
def places (place : Nat) : List Char → List (Nat × Char)
  | [] => []
  | character :: rest => (place, character) :: places (place + character.utf8Size) rest

/-- The bytes of a word from one place up to another one, if they are a text. -/
def cut (word : String) (first last : Nat) : Except DirectiveFault String :=
  match String.fromUTF8? (word.toUTF8.extract first last) with
  | some text => .ok text
  | none => .error .malformed

/-- A value that fields are compared with is a truth value, a number, or else a pattern. -/
def checkValue (value : String) : Except DirectiveFault Unit :=
  if ["true", "false"].contains value || NumberText.isReal value.toList then .ok ()
  else (Pattern.check value).mapError .value

/-- The condition that stands between braces. -/
def condition (text : String) : Except DirectiveFault FieldCondition :=
  match pieces text '=' with
  | [""] => .error .malformed
  | [name] => .ok { name }
  | name :: value :: _ => do
      checkValue value
      return { name, value }
  | [] => .error .malformed

/-- A character that a word may start with. -/
def isStart (character : Char) : Bool :=
  character == '-' || character == ':' || character == '_' || isAlphanumeric character

def step (text : String) (state : Part × Directive) (next : Nat × Char) :
    Except DirectiveFault (Part × Directive) :=
  let (place, character) := next
  let (part, directive) := state
  match part, character with
  | .start, '[' => .ok (.span (place + 1), directive)
  | .start, _ =>
      if isStart character then .ok (.word place, directive) else .error .malformed
  | .word first, '=' => do
      return (.level (place + 1), { directive with target := ← cut text first place })
  | .word first, '[' => do
      return (.span (place + 1), { directive with target := ← cut text first place })
  | .span first, ']' => do
      return (.spanEnd, { directive with span := ← cut text first place })
  | .span first, '\x7B' => do
      let name ← cut text first place
      let span := if name.isEmpty then none else some name
      return (.field (place + 1), { directive with span })
  | .field first, '\x7D' => do
      let found ← condition (← cut text first place)
      return (.fieldsEnd, { directive with fields := directive.fields ++ [found] })
  | .fieldsEnd, ']' => .ok (.spanEnd, directive)
  | .spanEnd, '=' => .ok (.level (place + 1), directive)
  | .fieldsEnd, _ | .spanEnd, _ => .error .malformed
  | part, _ => .ok (part, directive)

def finish (text : String) (state : Part × Directive) : Except DirectiveFault Directive := do
  let (part, directive) := state
  match part with
  | .word first =>
      let word ← cut text first text.utf8ByteSize
      match depth? word with
      | some depth => return { directive with depth }
      | none => return { directive with target := some word }
  | .level first =>
      let word ← cut text first text.utf8ByteSize
      if word.isEmpty then
        return directive
      else
        match depth? word with
        | some depth => return { directive with depth }
        | none => .error .level
  | .spanEnd => return directive
  | .start | .span _ | .field _ | .fieldsEnd => .error .malformed

/-- Read one directive. Blanks around it are passed over while its parts are found, and yet the places
of the parts are counted from its very start, so a blank in front shifts what is cut out. -/
def ofText (text : String) : Except DirectiveFault Directive := do
  let state ← (places 0 (trimBlanks text.toList)).foldlM (step text) (.start, {})
  finish text state

/-- It speaks of spans or of the fields of spans. -/
def concernsSpans (directive : Directive) : Bool :=
  directive.span.isSome || !directive.fields.isEmpty

end Directive

end RecordRing
