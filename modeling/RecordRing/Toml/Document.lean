import RecordRing.Toml.Bare
import RecordRing.Toml.Quoted

set_option autoImplicit false

namespace RecordRing

namespace Toml

def Raw.value (raw : Raw) : Except Fault Value :=
  match raw.form with
  | .bare => raw.bareValue
  | _ => raw.quotedText.map .string

mutual

def Node.value : Node → Except Fault (Span × Value)
  | .scalar raw => do return (raw.span, ← raw.value)
  | .array span items => do return (span, .array (← itemValues items))
  | .table span pairs => do return (span, .table .inline (← pairValues [] pairs))

def itemValues : List Node → Except Fault (List (Span × Value))
  | [] => .ok []
  | item :: rest => do
      let value ← item.value
      return value :: (← itemValues rest)

/-- The table that pairs make, added to what is there already. -/
def pairValues (entries : Entries) : List (List Raw × Node) → Except Fault Entries
  | [] => .ok entries
  | (parts, node) :: rest => do
      let (path, key, span) ← keyPath parts
      let value ← node.value
      pairValues (← Entries.add .inline path key span value .inline entries) rest

end

structure Header where
  /-- It stands for one more table in an array. -/
  row : Bool
  path : List (String × Span)
  key : String
  keySpan : Span
  /-- Where the whole header stands. -/
  span : Span

/-- What is read so far: the document, and the table that lines now fill. That table is put in its
place when it is complete; without a header it is the document itself. -/
structure Draft where
  root : Entries := []
  header : Option Header := none
  current : Entries := []

namespace Draft

def finish (draft : Draft) : Except Fault Entries :=
  match draft.header with
  | none => .ok draft.current
  | some header =>
      let put :=
        if header.row then Entries.putRow header.key header.keySpan header.span draft.current
        else Entries.putTable header.key header.span draft.current
      Entries.within .header put header.path .header draft.root

/-- What the table under a header line holds at first. It must be new, or known only from tables
inside it; one more table in an array is always new. -/
def opened (root : Entries) (header : Header) : Except Fault Entries := do
  if header.row then
    return []
  else
    match (← root.enter header.path).get? header.key with
    | none => return []
    | some (_, .table .implied held) => return held
    | some _ => .error (.spanning .duplicateKey header.keySpan)

def line (draft : Draft) : Line → Except Fault Draft
  | .header row parts span => do
      let root ← draft.finish
      let (path, key, keySpan) ← keyPath parts
      let header : Header := { row, path, key, keySpan, span }
      return { root, header := some header, current := ← opened root header }
  | .pair parts node => do
      let (path, key, span) ← keyPath parts
      let value ← node.value
      let current ← Entries.add .line path key span value .header draft.current
      return { draft with current }

end Draft

/-- The table that a document describes, if it is one. The lines are found first, and only then what
their keys and values say, so a line that is no line is told before any wrong value. -/
def parse (text : String) : Except Fault Entries := do
  let lines ← Grammar.ofTokens (Token.ofText text)
  let draft ← lines.foldlM Draft.line {}
  draft.finish

end Toml

end RecordRing
