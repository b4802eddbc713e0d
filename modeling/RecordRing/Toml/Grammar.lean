import RecordRing.Toml.Token
/-!
The grammar of TOML documents over their tokens: lines with headers, or with keys and values. What the
keys and the scalar values say is left to later; here a document is sound if its marks stand where
they may. A key that is missing where one is due counts as an empty one.
-/

set_option autoImplicit false

namespace RecordRing

namespace Toml

/-- How a key or a scalar value is written. -/
inductive Form where
  | bare
  | literal
  | longLiteral
  | basic
  | longBasic
  deriving DecidableEq, Repr

/-- A key or a scalar value as it stands in the document. -/
structure Raw where
  form : Form
  span : Span
  text : List Char
  deriving DecidableEq, Repr

/-- A value as it stands in the document. -/
inductive Node where
  | scalar (raw : Raw)
  | array (span : Span) (items : List Node)
  | table (span : Span) (pairs : List (List Raw × Node))
  deriving Repr

/-- A line that says something. -/
inductive Line where
  /-- A header, of one more table in an array if `row`. -/
  | header (row : Bool) (key : List Raw) (span : Span)
  | pair (key : List Raw) (value : Node)
  deriving Repr

namespace Grammar

/-- The form of a token that can be a key or a scalar value. -/
def form? : TokenKind → Option Form
  | .literal => some .literal
  | .longLiteral => some .longLiteral
  | .basic => some .basic
  | .longBasic => some .longBasic
  | .atom => some .bare
  | _ => none

/-- Nothing, where something is missing before a token. -/
def missing (token : Token) : Raw :=
  ⟨.bare, token.before, []⟩

/-- Nothing, where the last value of a table within a line is missing before the closing brace. It
counts as a text in single quotes that lacks both of them. -/
def missingLast (token : Token) : Raw :=
  ⟨.literal, token.before, []⟩

/-- Leave out blanks within a line. -/
def dropSpaces (tokens : List Token) : List Token :=
  tokens.dropWhile fun token => token.kind == .space

/-- A newline is a line feed, and a carriage return only before one. -/
def checkNewline (token : Token) : Except Fault Unit :=
  if token.text = ['\r'] then .error (.spanning .loneReturn token.after) else .ok ()

/-- A comment holds no control characters but tabs. -/
def checkComment (token : Token) : Except Fault Unit :=
  let good := token.text.takeWhile fun character => !isForbidden character
  if good.length = token.text.length then .ok ()
  else .error (.here .commentCharacter (token.span.start + byteLength good))

/-- What follows a comment on the next line. -/
def afterComment (comment : Token) (rest : List Token) : Except Fault (List Token) := do
  checkComment comment
  match rest with
  | [] => return []
  | next :: after =>
      match next.kind with
      | .newline => checkNewline next; return after
      | .ending => return []
      | _ => return rest

/-- What follows on the next line, when nothing but a comment is left on this one. -/
def lineEnd (tokens : List Token) : Except Fault (List Token) :=
  match dropSpaces tokens with
  | [] => .ok []
  | token :: rest =>
      match token.kind with
      | .comment => afterComment token rest
      | .newline => do checkNewline token; return rest
      | .ending => .ok []
      | _ => .error (.spanning .surplusOnLine token.before)

/-- What follows on the next line, whatever is left on this one. -/
def skipLine : List Token → Except Fault (List Token)
  | [] => .ok []
  | token :: rest =>
      match token.kind with
      | .comment => afterComment token rest
      | .newline => do checkNewline token; return rest
      | .ending => .ok []
      | _ => skipLine rest

/-- Keys joined by dots, what follows the blanks behind them, and whether none is missing. With `due`
the first thing must be a key, otherwise a dot. -/
def dotted (due : Bool) : List Token → List Raw × List Token × Bool
  | [] => ([], [], !due)
  | token :: rest =>
      match token.kind, form? token.kind with
      | .space, _ => dotted due rest
      | .dot, _ =>
          let (keys, after, sound) := dotted true rest
          (if due then missing token :: keys else keys, after, sound)
      | _, some form =>
          if due then
            let (keys, after, sound) := dotted false rest
            (⟨form, token.span, token.text⟩ :: keys, after, sound)
          else
            ([], token :: rest, true)
      | _, none => (if due then [missing token] else [], token :: rest, !due)

/-- A token joins a bare value before it: a dot, a run of characters, or blanks before such a run. -/
def joins (token : Token) (rest : List Token) : Bool :=
  match token.kind with
  | .atom | .dot => true
  | .space => rest.head?.map (·.kind) == some .atom
  | _ => false

/-- The tokens that join a bare value, and what follows. -/
def joined : List Token → List Token × List Token
  | [] => ([], [])
  | token :: rest =>
      if joins token rest then
        let (more, after) := joined rest
        (token :: more, after)
      else
        ([], token :: rest)

def bare (token : Token) (rest : List Token) : Raw × List Token :=
  let (more, after) := joined rest
  let stop := (more.getLast?.getD token).span.stop
  (⟨.bare, ⟨token.span.start, stop⟩, token.text ++ more.flatMap (·.text)⟩, after)

/-- A reader of a value; it never meets blanks at the start. -/
abbrev Reader := List Token → Except Fault (Node × List Token)

/-- How far a document goes. -/
structure Extent where
  /-- More than the number of its tokens. -/
  size : Nat
  /-- The place behind its last token that is more than blank. -/
  last : Nat

/-- The items of an array up to its closing bracket, the place behind that, and what follows. Commas
part them, and one may stand behind the last. A document that ends too early is at fault behind its
last token that is more than blank. -/
def arrayItems (value : Reader) (last : Nat) :
    (fuel : Nat) → (due : Bool) → List Token → Except Fault (List Node × Nat × List Token)
  | 0, _, _ | _, _, [] => .error (.here .unclosedArray last)
  | fuel + 1, due, token :: rest =>
      let item (_ : Unit) : Except Fault (List Node × Nat × List Token) :=
        if due then do
          let (first, after) ← value (token :: rest)
          let (others, stop, final) ← arrayItems value last fuel false after
          return (first :: others, stop, final)
        else
          .error (.spanning .missingArrayComma token.before)
      match token.kind with
      | .space => arrayItems value last fuel due rest
      | .newline => do
          checkNewline token
          arrayItems value last fuel due rest
      | .comment => do arrayItems value last fuel due (← afterComment token rest)
      | .ending => .error (.here .unclosedArray last)
      | .comma =>
          if due then .error (.spanning .surplusArrayComma token.span)
          else arrayItems value last fuel true rest
      | .equals => .error (.spanning .equalsInArray token.span)
      | .closeBracket => .ok ([], token.span.stop, rest)
      | _ => item ()

/-- What is due next in a table within a line. -/
inductive Due where
  | key
  | equals (key : List Raw)
  | value (key : List Raw)
  | comma

/-- What is due, as it is told. -/
def Due.words : Due → String
  | key => "key"
  | equals _ => Complaint.mark "="
  | value _ => "value"
  | comma => Complaint.mark ","

/-- The pairs of a table within a line up to its closing brace, the place behind that, and what
follows. -/
def tablePairs (value : Reader) (last : Nat) :
    (fuel : Nat) → Due → List Token → Except Fault (List (List Raw × Node) × Nat × List Token)
  | 0, _, _ | _, _, [] => .error (.here .unclosedTable last)
  | fuel + 1, due, token :: rest =>
      let next := tablePairs value last fuel
      let fail {α : Type} (words : String) : Except Fault α :=
        .error (.spanning (.inTable words due.words) token.before)
      let pair (key : List Raw) : Except Fault (List (List Raw × Node) × Nat × List Token) := do
        let (first, after) ← value (token :: rest)
        let (others, stop, final) ← next .comma after
        return ((key, first) :: others, stop, final)
      match token.kind with
      | .space => next due rest
      | .newline => do
          checkNewline token
          next due rest
      | .comment => do next due (← afterComment token rest)
      | .ending => .error (.here .unclosedTable last)
      | .comma =>
          match due with
          | .comma => next .key rest
          | _ => fail "extra comma in inline table"
      | .equals =>
          match due with
          | .key => next (.value [missing token]) rest
          | .equals key => next (.value key) rest
          | _ => fail "extra assignment between key-value pairs"
      | .openBrace | .openBracket =>
          match due with
          | .value key => pair key
          | .equals _ => .error (.spanning .missingAssignment token.before)
          | _ => fail "missing key for inline table element"
      | .closeBracket =>
          match due with
          | .value key => pair key
          | _ => fail "invalid inline table element"
      | .closeBrace =>
          match due with
          | .equals key | .value key =>
              .ok ([(key, .scalar (missingLast token))], token.span.stop, rest)
          | _ => .ok ([], token.span.stop, rest)
      | _ =>
          match due with
          | .key =>
              let (key, after, _) := dotted true (token :: rest)
              next (.equals key) after
          | .equals _ => .error (.spanning .missingAssignment token.before)
          | .value key => pair key
          | .comma => .error (.spanning .missingTableComma token.before)

/-- How deep arrays and tables within a line may be nested. -/
def maxDepth : Nat := 80

/-- A value in which arrays and tables are nested at most so deep. -/
def value (extent : Extent) : Nat → Reader
  | _, [] => .error (.here .missingQuotes extent.last)
  | depth, token :: rest =>
      match token.kind, form? token.kind with
      | .equals, _ => .error (.spanning .surplusEquals token.span)
      | .closeBrace, _ => .error (.spanning .missingTableOpening token.before)
      | .closeBracket, _ => .error (.spanning .missingArrayOpening token.before)
      | .openBracket, _ =>
          match depth with
          | 0 => .error (.spanning .tooDeep token.span)
          | depth + 1 => do
              let (items, stop, after) ←
                arrayItems (value extent depth) extent.last extent.size true rest
              return (.array ⟨token.span.start, stop⟩ items, after)
      | .openBrace, _ =>
          match depth with
          | 0 => .error (.spanning .tooDeep token.span)
          | depth + 1 => do
              let (pairs, stop, after) ←
                tablePairs (value extent depth) extent.last extent.size .key rest
              return (.table ⟨token.span.start, stop⟩ pairs, after)
      | .atom, _ | .dot, _ =>
          let (raw, after) := bare token rest
          .ok (.scalar raw, after)
      | _, some form => .ok (.scalar ⟨form, token.span, token.text⟩, rest)
      | _, none => .ok (.scalar (missing token), token :: rest)

/-- The value behind an equals sign, and what follows on the next line. -/
def assigned (extent : Extent) (key : List Raw) (tokens : List Token) :
    Except Fault (Line × List Token) := do
  let (node, after) ← value extent maxDepth (dropSpaces tokens)
  return (.pair key node, ← lineEnd after)

/-- A line with a key that starts here. -/
def pairLine (extent : Extent) (complaint : Complaint) (tokens : List Token) :
    Except Fault (Line × List Token) :=
  let (key, after, _) := dotted true tokens
  match after with
  | [] => .error (.here complaint extent.last)
  | token :: rest =>
      match token.kind with
      | .equals => assigned extent key rest
      | _ => .error (.spanning complaint token.before)

/-- A header that goes on behind its key, which is then the last thing read, is at fault there. -/
def unclosed {α : Type} (complaint : Complaint) (opening : Token) (key : List Raw) :
    Except Fault α :=
  .error (.here complaint ((key.getLast?.map (·.span.stop)).getD opening.span.stop))

def tableHeader (opening : Token) (tokens : List Token) : Except Fault (Line × List Token) :=
  let (key, after, sound) := dotted true tokens
  match after with
  | [] => .ok (.header false key opening.span, [])
  | token :: rest =>
      match token.kind with
      | .closeBracket => do
          return (.header false key ⟨opening.span.start, token.span.stop⟩, ← lineEnd rest)
      | _ =>
          if sound then unclosed .unclosedHeader opening key
          else do return (.header false key opening.span, ← skipLine after)

/-- The header of one more table in an array, behind its opening brackets. -/
def rowHeader (opening : Token) (tokens : List Token) : Except Fault (Line × List Token) :=
  let (key, after, sound) := dotted true tokens
  match after with
  | [] => .ok (.header true key opening.span, [])
  | token :: rest =>
      match token.kind, rest with
      | .closeBracket, [] => .error (.spanning (.unclosedRow "]") token.after)
      | .closeBracket, second :: final =>
          if second.kind == .closeBracket then do
            return (.header true key ⟨opening.span.start, second.span.stop⟩, ← lineEnd final)
          else
            .error (.spanning (.unclosedRow "]") token.after)
      | _, _ =>
          if sound then unclosed (.unclosedRow "]]") opening key
          else do return (.header true key opening.span, ← skipLine after)

def header (opening : Token) (tokens : List Token) : Except Fault (Line × List Token) :=
  match tokens with
  | [] => tableHeader opening tokens
  | second :: rest =>
      if second.kind == .openBracket then rowHeader opening rest else tableHeader opening tokens

def lines (extent : Extent) : (fuel : Nat) → List Token → Except Fault (List Line)
  | 0, _ | _, [] => .ok []
  | fuel + 1, token :: rest =>
      let go (read : Except Fault (Line × List Token)) : Except Fault (List Line) := do
        let (line, after) ← read
        return line :: (← lines extent fuel after)
      match token.kind with
      | .ending => .ok []
      | .space => lines extent fuel rest
      | .newline => do
          checkNewline token
          lines extent fuel rest
      | .comment => do lines extent fuel (← afterComment token rest)
      | .openBracket => go (header token rest)
      | .closeBracket => .error (.spanning .missingHeaderOpening token.before)
      | .equals => go (assigned extent [missing token] rest)
      | .comma | .openBrace | .closeBrace => .error (.spanning .missingKey token.before)
      | .dot => go (pairLine extent .missingValueForKey (token :: rest))
      | _ => go (pairLine extent .keyWithoutValue (token :: rest))

/-- A token that is more than blank. -/
def isContent (token : Token) : Bool :=
  match token.kind with
  | .space | .comment | .newline | .ending => false
  | _ => true

def ofTokens (tokens : List Token) : Except Fault (List Line) :=
  let last := ((tokens.filter isContent).getLast?.map (·.span.stop)).getD 0
  let size := tokens.length + 1
  lines ⟨size, last⟩ size tokens

end Grammar

end Toml

end RecordRing
