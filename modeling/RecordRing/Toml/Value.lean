import RecordRing.Toml.Fault

set_option autoImplicit false

namespace RecordRing

namespace Toml

/-- A floating-point number as it is written. -/
inductive RealNumber where
  /-- The digits, read as one number, times ten to the exponent. -/
  | finite (negative : Bool) (digits : Nat) (exponent : Int)
  | infinite (negative : Bool)
  | notANumber
  deriving DecidableEq, Repr

structure Date where
  year : Nat
  month : Nat
  day : Nat
  deriving DecidableEq, Repr

structure TimeOfDay where
  hour : Nat
  minute : Nat
  second : Nat
  nanosecond : Nat
  deriving DecidableEq, Repr

/-- A day, a time of the day, or both; with both there may be an offset in minutes. -/
inductive Moment where
  | day (date : Date)
  | time (time : TimeOfDay)
  | both (date : Date) (time : TimeOfDay) (offset : Option Int)
  deriving DecidableEq, Repr

/-- How a table came to be. -/
inductive TableForm where
  /-- By its own header line, or as the document itself. -/
  | header
  /-- By the header line of a table inside it. -/
  | implied
  /-- By a dotted key. -/
  | dotted
  /-- Within a line; it is complete. -/
  | inline
  deriving DecidableEq, Repr

inductive Value where
  | string (text : String)
  /-- A whole number, unless it is too large to be kept. -/
  | integer (number : Option Int)
  /-- A floating-point number, unless it is too large to be kept. -/
  | real (number : Option RealNumber)
  | boolean (truth : Bool)
  | moment (moment : Moment)
  | array (items : List (Span × Value))
  | table (form : TableForm) (entries : List (String × Span × Value))
  /-- Tables of one name, each under a header line of its own. -/
  | tables (rows : List (Span × List (String × Span × Value)))
  deriving Repr

/-- The keys of a table with their values, in the order of the keys. -/
abbrev Entries := List (String × Span × Value)

/-- What kind of value it is, as it is told where a key leads into it. -/
def Value.kind : Value → String
  | string _ => "string"
  | integer _ => "integer"
  | real _ => "float"
  | boolean _ => "boolean"
  | moment _ => "datetime"
  | array _ | tables _ => "array"
  | table .inline _ => "inline table"
  | table _ _ => "table"

/-- From where tables are entered: from a header line, from a dotted key on a line of its own, or from
one in a table within a line. -/
inductive Access where
  | header
  | line
  | inline
  deriving DecidableEq, Repr

namespace Entries

def get? (entries : Entries) (key : String) : Option (Span × Value) :=
  (entries.find? fun entry => entry.1 == key).map Prod.snd

def put (entries : Entries) (key : String) (value : Span × Value) : Entries :=
  match entries with
  | [] => [(key, value)]
  | entry :: rest =>
      if entry.1 == key then (key, value) :: rest
      else if key < entry.1 then (key, value) :: entry :: rest
      else entry :: put rest key value

/-- The table at the end of a path of header lines. What is missing holds nothing, and the last table
of an array of tables stands for the array. -/
def enter : List (String × Span) → Entries → Except Fault Entries
  | [], entries => .ok entries
  | (key, span) :: path, entries =>
      match entries.get? key with
      | none => enter path []
      | some (_, .table form held) =>
          if form == .inline then
            .error (.spanning (.notExtensible (Value.table form held).kind) span)
          else
            enter path held
      | some (_, .tables rows) => enter path ((rows.getLast?.map Prod.snd).getD [])
      | some (_, value) => .error (.spanning (.notExtensible value.kind) span)

/-- Change the table at the end of a path. Tables missing on the way are made, the last table of an
array of tables stands for the array, and what is complete is not entered. A dotted key does not
enter a table that has a header line. -/
def within (access : Access) (change : TableForm → Entries → Except Fault Entries) :
    List (String × Span) → TableForm → Entries → Except Fault Entries
  | [], form, entries => change form entries
  | (key, span) :: path, _, entries => do
      match entries.get? key with
      | none =>
          let form := if access == .header then .implied else .dotted
          return entries.put key (span, .table form (← within access change path form []))
      | some (place, .table form held) =>
          if form == .inline && access != .inline then
            .error (.spanning (.notExtensible (Value.table form held).kind) span)
          else if form == .inline || (form == .header && access != .header) then
            .error (.spanning .duplicateKey span)
          else
            return entries.put key (place, .table form (← within access change path form held))
      | some (place, .tables rows) =>
          match rows.reverse with
          | [] => .error (.spanning .duplicateKey span)
          | (row, last) :: before =>
              let changed ← within access change path .header last
              return entries.put key (place, .tables ((row, changed) :: before).reverse)
      | some (_, value) => .error (.spanning (.notExtensible value.kind) span)

/-- Add a value under a key that is still free. A table made by dotted keys is filled only by dotted
keys, and any other table only by plain ones. -/
def assign (key : String) (span : Span) (value : Span × Value) (plain : Bool) (form : TableForm)
    (entries : Entries) : Except Fault Entries :=
  if (form == .dotted) == plain || (entries.get? key).isSome then
    .error (.spanning .duplicateKey span)
  else
    .ok (entries.put key value)

/-- Add the value of a key, dotted or not. -/
def add (access : Access) (path : List (String × Span)) (key : String) (span : Span)
    (value : Span × Value) (form : TableForm) (entries : Entries) : Except Fault Entries :=
  within access (assign key span value path.isEmpty) path form entries

def putTable (key : String) (place : Span) (held : Entries) (_form : TableForm)
    (entries : Entries) : Except Fault Entries :=
  .ok (entries.put key (place, .table .header held))

/-- Put one more table behind those of the same name. -/
def putRow (key : String) (span place : Span) (held : Entries) (_form : TableForm)
    (entries : Entries) : Except Fault Entries :=
  match entries.get? key with
  | none => .ok (entries.put key (place, .tables [(place, held)]))
  | some (first, .tables rows) => .ok (entries.put key (first, .tables (rows ++ [(place, held)])))
  | some _ => .error (.spanning .duplicateKey span)

end Entries

mutual

/-- The first number in a value that was too large to be kept. -/
def Value.check (span : Span) : Value → Except Fault Unit
  | .integer none => .error (.spanning .integerOverflow span)
  | .real none => .error (.spanning .realOverflow span)
  | .array items => checkItems items
  | .table _ entries => checkEntries entries
  | .tables rows => checkRows rows
  | _ => .ok ()

def checkItems : List (Span × Value) → Except Fault Unit
  | [] => .ok ()
  | (span, value) :: rest => do
      value.check span
      checkItems rest

def checkEntries : List (String × Span × Value) → Except Fault Unit
  | [] => .ok ()
  | (_, span, value) :: rest => do
      value.check span
      checkEntries rest

def checkRows : List (Span × List (String × Span × Value)) → Except Fault Unit
  | [] => .ok ()
  | (_, entries) :: rest => do
      checkEntries entries
      checkRows rest

end

end Toml

end RecordRing
