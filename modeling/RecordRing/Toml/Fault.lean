import RecordRing.Text.Pieces

set_option autoImplicit false

namespace RecordRing

namespace Toml

def byteLength : List Char → Nat
  | [] => 0
  | character :: rest => byteLength rest + character.utf8Size

/-- A stretch of a document, counted in bytes. -/
structure Span where
  start : Nat
  stop : Nat
  deriving DecidableEq, Repr

/-- What is wrong, and what was expected in its place. -/
structure Complaint where
  words : String
  expected : Option (List String) := none
  deriving DecidableEq, Repr

structure Fault where
  complaint : Complaint
  span : Option Span
  deriving DecidableEq, Repr

namespace Complaint

def message (complaint : Complaint) : String :=
  match complaint.expected with
  | none => complaint.words
  | some [] => complaint.words ++ ", expected nothing"
  | some expected => complaint.words ++ ", expected " ++ ", ".intercalate expected

def mark (text : String) : String :=
  "\x60" ++ text ++ "\x60"

/-- A complaint about something in the place of a mark. -/
def wanting (words text : String) : Complaint :=
  ⟨words, some [mark text]⟩

/-- A complaint about something that should not be there. -/
def surplus (words : String) : Complaint :=
  ⟨words, some []⟩

def missingHeaderOpening : Complaint := wanting "missing table open" "["

def unclosedHeader : Complaint := wanting "unclosed table" "]"

/-- The header of one more table in an array lacks closing brackets. -/
def unclosedRow (brackets : String) : Complaint := wanting "unclosed array table" brackets

def missingKey : Complaint := ⟨"invalid key-value pair", some ["key"]⟩

def keyWithoutValue : Complaint := wanting "key with no value" "="

def missingValueForKey : Complaint := wanting "missing value for key" "="

def surplusOnLine : Complaint := ⟨"unexpected key or value", some ["newline", mark "#"]⟩

def loneReturn : Complaint := ⟨"carriage return must be followed by newline", some ["newline"]⟩

def commentCharacter : Complaint :=
  ⟨"invalid comment character", some ["printable characters"]⟩

def surplusEquals : Complaint := surplus ("extra " ++ mark "=")

def missingTableOpening : Complaint := wanting "missing inline table opening" "\x7b"

def missingArrayOpening : Complaint := wanting "missing array opening" "["

def tooDeep : Complaint := ⟨"cannot recurse further; max recursion depth met", none⟩

def unclosedArray : Complaint := wanting "unclosed array" "]"

def surplusArrayComma : Complaint := ⟨"extra comma in array", some ["value"]⟩

def equalsInArray : Complaint :=
  ⟨"unexpected " ++ mark "=" ++ " in array", some ["value", mark "]"]⟩

def missingArrayComma : Complaint := wanting "missing comma between array elements" ","

def unclosedTable : Complaint := wanting "unclosed inline table" "\x7d"

/-- Something stands in a table within a line where another thing is due. -/
def inTable (words due : String) : Complaint := ⟨words, some [due]⟩

def missingAssignment : Complaint := wanting "missing assignment between key-value pairs" "="

def missingTableComma : Complaint := wanting "missing comma between key-value pairs" ","

def keyCharacters : List String := ["letters", "numbers", mark "-", mark "_"]

def emptyKey : Complaint := ⟨"unquoted keys cannot be empty", some keyCharacters⟩

def keyCharacter : Complaint := ⟨"invalid unquoted key", some keyCharacters⟩

/-- A key may not go over several lines. -/
def longKey (kind : String) : Complaint :=
  ⟨"keys cannot be multi-line " ++ kind ++ " strings", some ["basic string", "literal string"]⟩

def longPath : Complaint := ⟨"recursion limit", none⟩

def duplicateKey : Complaint := ⟨"duplicate key", none⟩

/-- A key leads into a value that holds no keys. -/
def notExtensible (kind : String) : Complaint :=
  ⟨"cannot extend value of type " ++ kind ++ " with a dotted key", none⟩

def literalEnd : Complaint := wanting "invalid literal string" "'"

def literalCharacter : Complaint :=
  ⟨"invalid literal string", some ["non-single-quote visible characters"]⟩

def longLiteralEnd : Complaint := wanting "invalid multi-line literal string" "'"

def longLiteralCharacter : Complaint :=
  ⟨"invalid multi-line literal string", some ["non-single-quote characters"]⟩

def basicEnd : Complaint := wanting "invalid basic string" "\""

def basicCharacter : Complaint :=
  ⟨"invalid basic string", some ["non-double-quote visible characters", mark "\\"]⟩

def longBasicEnd : Complaint := wanting "invalid multi-line basic string" "\""

def longBasicCharacter : Complaint :=
  ⟨"invalid multi-line basic string", some [mark "\\", "characters"]⟩

def hiddenNewline : Complaint := ⟨"invalid multi-line basic string", some ["newline"]⟩

def unknownEscape : Complaint :=
  ⟨"missing escaped value",
    some (["b", "e", "f", "n", "r", "\\", "\"", "x", "u", "U"].map mark)⟩

def fewDigits : Complaint :=
  ⟨"too few unicode value digits", some ["unicode hexadecimal value"]⟩

def noCharacter : Complaint := ⟨"invalid value", some ["unicode hexadecimal value"]⟩

def missingQuotes : Complaint := ⟨"string values must be quoted", some ["literal string"]⟩

def missingOpeningQuote (quote : String) : Complaint := wanting "missing opening quote" quote

def secondSign : Complaint := surplus "redundant numeric sign"

def signedRadix : Complaint := surplus "integers with a radix cannot be signed"

def capitalRadix (start : String) : Complaint := wanting "radix must be lowercase" start

def decimalRadix : Complaint := surplus "redundant integer number prefix"

def signAfterRadix : Complaint := surplus "unexpected sign"

def radixDigit (radix : String) : Complaint := ⟨"invalid " ++ radix ++ " number", none⟩

def leadingZero : Complaint := surplus "unexpected leading zero"

def missingDigits (part : String) : Complaint := ⟨"invalid " ++ part, some ["digits"]⟩

def afterReal : Complaint := surplus "invalid float"

def strayUnderscore : Complaint := surplus (mark "_" ++ " may only go between digits")

/-- A word that starts like one of the names of a value, and goes on otherwise. -/
def misspelt (kind name : String) : Complaint := wanting ("invalid " ++ kind) name

def integerOverflow : Complaint := ⟨"integer number overflowed", none⟩

def realOverflow : Complaint := ⟨"floating-point number overflowed", none⟩

def wrongKind (found wanted : String) : Complaint := ⟨"invalid type: " ++ found, some [wanted]⟩

def outOfRange (found wanted : String) : Complaint := ⟨"invalid value: " ++ found, some [wanted]⟩

end Complaint

namespace Fault

def here (complaint : Complaint) (place : Nat) : Fault :=
  ⟨complaint, some ⟨place, place⟩⟩

def spanning (complaint : Complaint) (span : Span) : Fault :=
  ⟨complaint, some span⟩

/-- The line and the column of a byte, counted from zero. A place behind the last byte belongs to its
line. Columns are characters, where the line is whole up to the place, and bytes otherwise. -/
def position (source : String) (place : Nat) : Nat × Nat :=
  let bytes := source.toUTF8
  if bytes.isEmpty then
    (0, place)
  else
    let found := min place (bytes.size - 1)
    let before := (bytes.extract 0 found).toList
    let column := (before.reverse.takeWhile (· != 10)).length
    let shown := match String.fromUTF8? (bytes.extract (found - column) (found + 1)) with
      | some text => text.length - 1
      | none => column
    (before.count 10, shown + (place - found))

/-- What is reported of a fault of a source. -/
def report (source : String) (fault : Fault) : String :=
  let ending := fault.complaint.message ++ "\n"
  match fault.span with
  | none => ending
  | some span =>
      let (line, column) := position source span.start
      let number := toString (line + 1)
      let content := (pieces source '\n')[line]?.getD ""
      let marks := min (span.stop - span.start) (content.utf8ByteSize - column)
      let margin := "".pushn ' ' (number.length + 1)
      s!"TOML parse error at line {number}, column {column + 1}\n" ++
        margin ++ "|\n" ++ number ++ " | " ++ content ++ "\n" ++
        margin ++ "|" ++ "".pushn ' ' (column + 1) ++ "".pushn '^' (max marks 1) ++ "\n" ++ ending

end Fault

end Toml

end RecordRing
