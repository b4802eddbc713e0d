import RecordRing.Toml.Alphabet
import RecordRing.Toml.Value

set_option autoImplicit false

namespace RecordRing

namespace Toml

namespace Moment

/-- A sign of a day or a time. -/
inductive Sign where
  | digits (text : List Char)
  | dash
  | plus
  | colon
  | dot
  /-- A letter between day and time. -/
  | letter
  | space
  /-- The mark of the zero meridian. -/
  | zero
  | other
  deriving DecidableEq, Repr

/-- The sign that a character other than a digit is. -/
def Sign.ofChar : Char → Sign
  | '-' => dash
  | '+' => plus
  | ':' => colon
  | '.' => dot
  | 'T' | 't' => letter
  | ' ' => space
  | 'Z' | 'z' => zero
  | _ => other

/-- The signs of a text. Digits that stand together are one. -/
def signs : List Char → List Sign
  | [] => []
  | character :: rest =>
      if isDigit character then
        match signs rest with
        | .digits more :: after => .digits (character :: more) :: after
        | after => .digits [character] :: after
      else
        Sign.ofChar character :: signs rest

def expecting (what expected : String) : Complaint :=
  ⟨"invalid " ++ what, some [expected]⟩

def digits (complaint : Complaint) : List Sign → Except Complaint (List Char × List Sign)
  | .digits text :: rest => .ok (text, rest)
  | _ => .error complaint

def behind (sign : Sign) (complaint : Complaint) : List Sign → Except Complaint (List Sign)
  | first :: rest => if first = sign then .ok rest else .error complaint
  | [] => .error complaint

def ensure (holds : Bool) (complaint : Complaint) : Except Complaint Unit :=
  if holds then .ok () else .error complaint

def number (text : List Char) : Nat :=
  text.foldl (fun value character => value * 10 + (digitIn? 10 character).getD 0) 0

def daysIn (year month : Nat) : Nat :=
  if month = 2 then
    if year % 4 = 0 && (year % 100 != 0 || year % 400 = 0) then 29 else 28
  else if month = 4 || month = 6 || month = 9 || month = 11 then 30
  else 31

def date (year : List Char) (rest : List Sign) : Except Complaint (Date × List Sign) := do
  let want := expecting "date"
  let (month, afterMonth) ← digits (want "month") rest
  let dayText ← behind .dash (want (Complaint.mark "-" ++ " (MM-DD)")) afterMonth
  let (dayDigits, after) ← digits (want "day") dayText
  ensure (year.length = 4) (want "a four-digit year (YYYY)")
  ensure (month.length = 2) (want "a two-digit month (MM)")
  ensure (dayDigits.length = 2) (want "a two-digit day (DD)")
  let read : Date := ⟨number year, number month, number dayDigits⟩
  ensure (1 ≤ read.month && read.month ≤ 12) (want "month between 01 and 12")
  let last := daysIn read.year read.month
  ensure (1 ≤ read.day && read.day ≤ last) (want s!"day between 01 and {last}")
  return (read, after)

/-- The nanoseconds that the digits after the point stand for; more than nine are cut off. -/
def nanoseconds (text : List Char) : Nat :=
  let kept := text.take 9
  number kept * Nat.pow 10 (9 - kept.length)

/-- A time of the day. Seconds may be left out, and a leap second is allowed. -/
def timeOfDay (rest : List Sign) : Except Complaint (TimeOfDay × List Sign) := do
  let want := expecting "time"
  let (hour, afterHour) ← digits (want "hour") rest
  let minuteText ← behind .colon (want (Complaint.mark ":" ++ " (HH:MM)")) afterHour
  let (minute, afterMinute) ← digits (want "minute") minuteText
  let (second, afterSecond) ← match afterMinute with
    | .colon :: rest => digits (want "second") rest
    | _ => .ok (['0', '0'], afterMinute)
  let (part, after) ← match afterMinute, afterSecond with
    | .colon :: _, .dot :: rest => digits (want "nanosecond") rest
    | _, _ => .ok ([], afterSecond)
  ensure (hour.length = 2) (want "a two-digit hour (HH)")
  ensure (minute.length = 2) (want "a two-digit minute (MM)")
  ensure (second.length = 2) (want "a two-digit second (SS)")
  let read : TimeOfDay := ⟨number hour, number minute, number second, nanoseconds part⟩
  ensure (read.hour ≤ 23) (want "hour between 00 and 23")
  ensure (read.minute ≤ 59) (want "minute between 00 and 59")
  ensure (read.second ≤ 60) (want "second between 00 and 60")
  return (read, after)

/-- What may follow a day with its time: nothing, a mark for the zero meridian, or an offset. -/
def offset : List Sign → Except Complaint (Option Int × List Sign)
  | [] => .ok (none, [])
  | .zero :: rest => .ok (some 0, rest)
  | sign :: rest => do
      let want := expecting "offset"
      ensure (sign = .plus || sign = .dash) (want (Complaint.mark "Z" ++ ", +OFFSET, -OFFSET"))
      let (hours, afterHours) ← digits (want "hour") rest
      let minuteText ← behind .colon (want (Complaint.mark ":" ++ " (HH:MM)")) afterHours
      let (minutes, after) ← digits (want "minute") minuteText
      ensure (hours.length = 2) (want "a two-digit hour (HH)")
      ensure (minutes.length = 2) (want "a two-digit minute (MM)")
      ensure (number hours ≤ 23) (want "hours between 00 and 23")
      ensure (number minutes ≤ 59) (want "minutes between 00 and 59")
      let size : Int := number hours * 60 + number minutes
      return (some (if sign = .dash then -size else size), after)

/-- Nothing may follow a moment. -/
def ended (moment : Moment) (rest : List Sign) : Except Complaint Moment :=
  if rest.isEmpty then .ok moment else .error ⟨"invalid datetime", none⟩

/-- A day, a time, or both. -/
def ofSigns (all : List Sign) : Except Complaint Moment := do
  let (year, rest) ← digits (expecting "datetime" "year or hour") all
  match rest with
  | .dash :: rest =>
      let (read, after) ← date year rest
      match after with
      | [] => return .day read
      | .letter :: rest | .space :: rest =>
          let (clock, afterTime) ← timeOfDay rest
          let (zone, final) ← offset afterTime
          ended (.both read clock zone) final
      | _ => .error (expecting "date-time" (Complaint.mark "T" ++ " between date and time"))
  | .colon :: _ =>
      let (clock, after) ← timeOfDay all
      ended (.time clock) after
  | _ =>
      let marks := Complaint.mark "-" ++ " (YYYY-MM) or " ++ Complaint.mark ":" ++ " (HH:MM)"
      .error (expecting "datetime" marks)

def ofText (text : List Char) : Except Complaint Moment :=
  ofSigns (signs text)

end Moment

end Toml

end RecordRing
