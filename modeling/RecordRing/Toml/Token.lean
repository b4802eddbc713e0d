import RecordRing.Toml.Alphabet
import RecordRing.Toml.Fault

set_option autoImplicit false

namespace RecordRing

namespace Toml

inductive TokenKind where
  | dot
  | equals
  | comma
  | openBracket
  | closeBracket
  | openBrace
  | closeBrace
  | space
  | comment
  | newline
  | literal
  | longLiteral
  | basic
  | longBasic
  /-- A run of other characters. -/
  | atom
  /-- What stands behind the last character. -/
  | ending
  deriving DecidableEq, Repr

structure Token where
  kind : TokenKind
  span : Span
  text : List Char
  deriving DecidableEq, Repr

namespace Token

def before (token : Token) : Span :=
  ⟨token.span.start, token.span.start⟩

def after (token : Token) : Span :=
  ⟨token.span.stop, token.span.stop⟩

/-- A character that ends a run of other characters. -/
def endsAtom (character : Char) : Bool :=
  ".=,[]\x7b\x7d \t#\r\n".toList.contains character

def literalLength : List Char → Nat
  | [] | '\n' :: _ => 0
  | '\x27' :: _ => 1
  | _ :: rest => literalLength rest + 1

/-- How many characters a text in double quotes has behind its first quote. A backslash takes a quote
or a backslash with it. -/
def basicLength : List Char → Nat
  | [] | '\n' :: _ => 0
  | '\x22' :: _ => 1
  | '\x5C' :: '\x22' :: rest => basicLength rest + 2
  | '\x5C' :: '\x5C' :: rest => basicLength rest + 2
  | _ :: rest => basicLength rest + 1

/-- Up to two quotes that follow three closing ones still belong to the text. -/
def closingLength (quote : Char) (rest : List Char) : Nat :=
  3 + min (rest.takeWhile (· == quote)).length 2

def longLiteralLength : List Char → Nat
  | [] => 0
  | '\x27' :: '\x27' :: '\x27' :: rest => closingLength '\x27' rest
  | _ :: rest => longLiteralLength rest + 1

/-- How many characters a text has behind three double quotes. -/
def longBasicLength : List Char → Nat
  | [] => 0
  | '\x22' :: '\x22' :: '\x22' :: rest => closingLength '\x22' rest
  | '\x5C' :: '\x22' :: rest => longBasicLength rest + 2
  | '\x5C' :: '\x5C' :: rest => longBasicLength rest + 2
  | _ :: rest => longBasicLength rest + 1

/-- The first token of a text that is not empty: its kind and the number of its characters. -/
def first (text : List Char) : TokenKind × Nat :=
  match text with
  | '.' :: _ => (.dot, 1)
  | '=' :: _ => (.equals, 1)
  | ',' :: _ => (.comma, 1)
  | '[' :: _ => (.openBracket, 1)
  | ']' :: _ => (.closeBracket, 1)
  | '\x7B' :: _ => (.openBrace, 1)
  | '\x7D' :: _ => (.closeBrace, 1)
  | ' ' :: _ | '\t' :: _ => (.space, (text.takeWhile isSpace).length)
  | '#' :: _ =>
      (.comment, (text.takeWhile fun character => character != '\n' && character != '\r').length)
  | '\r' :: '\n' :: _ => (.newline, 2)
  | '\r' :: _ | '\n' :: _ => (.newline, 1)
  | '\x27' :: '\x27' :: '\x27' :: rest => (.longLiteral, longLiteralLength rest + 3)
  | '\x27' :: rest => (.literal, literalLength rest + 1)
  | '\x22' :: '\x22' :: '\x22' :: rest => (.longBasic, longBasicLength rest + 3)
  | '\x22' :: rest => (.basic, basicLength rest + 1)
  | text => (.atom, (text.takeWhile fun character => !endsAtom character).length)

/-- The tokens of a text that starts at a place. Every token has a character, so the length of the text
is fuel enough. -/
def split (place : Nat) : Nat → List Char → List Token
  | 0, _ | _, [] => [⟨.ending, ⟨place, place⟩, []⟩]
  | fuel + 1, text =>
      let (kind, length) := first text
      let word := text.take length
      let stop := place + byteLength word
      ⟨kind, ⟨place, stop⟩, word⟩ :: split stop fuel (text.drop length)

/-- The tokens of a document. A byte order mark may stand at its start. -/
def ofText (text : String) : List Token :=
  match text.toList with
  | '\uFEFF' :: rest => split (Char.utf8Size '\uFEFF') rest.length rest
  | characters => split 0 characters.length characters

end Token

end Toml

end RecordRing
