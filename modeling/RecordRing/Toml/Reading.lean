import RecordRing.ShortestDecimal
import RecordRing.Text.Quoted
import RecordRing.Toml.Value

set_option autoImplicit false

namespace RecordRing

namespace Toml

/-- The number rounded to 64 bits, as its shortest text. -/
def RealNumber.text : RealNumber → String
  | finite negative digits exponent =>
      let size :=
        if digits = 0 || ((Nat.toDigits 10 digits).length : Int) + exponent < -330 then
          "0.0"
        else
          let number := match exponent with
            | .ofNat shift => Binary64.nearest (digits * Nat.pow 10 shift) 1
            | .negSucc shift => Binary64.nearest digits (Nat.pow 10 (shift + 1))
          number.text
      if negative then "-" ++ size else size
  | infinite negative => if negative then "-inf" else "inf"
  | notANumber => "NaN"

/-- A whole number fits a word of 64 bits, with a sign or without. -/
def fitsWord (number : Int) : Bool :=
  -(1 <<< 63 : Nat) ≤ number && number < (1 <<< 64 : Nat)

/-- What a whole number is called. One of more than 64 bits is told by the wider word that it fits. -/
def integerWords (number : Int) : String :=
  let named := "integer " ++ Complaint.mark (toString number)
  if fitsWord number then named
  else named ++ (if number < (1 <<< 127 : Nat) then " as i128" else " as u128")

/-- What a value is called where another one was wanted. -/
def Value.words : Value → String
  | string text => "string " ++ quotedText text
  | integer number => integerWords (number.getD 0)
  | real number => "floating point " ++ Complaint.mark ((number.map RealNumber.text).getD "inf")
  | boolean truth => "boolean " ++ Complaint.mark (if truth then "true" else "false")
  | moment _ | table _ _ => "map"
  | array _ | tables _ => "sequence"

/-- A number that was too large to be kept is refused as that; anything else is of the wrong kind. -/
def Value.refuse {α : Type} (value : Value) (span : Span) (wanted : String) : Except Fault α :=
  match value with
  | integer none => .error (.spanning .integerOverflow span)
  | real none => .error (.spanning .realOverflow span)
  | _ => .error (.spanning (.wrongKind value.words wanted) span)

def Value.asText (span : Span) (value : Value) : Except Fault String :=
  match value with
  | .string text => .ok text
  | other => other.refuse span "a string"

/-- The value as a whole number from zero up to a limit, where those are called by a name. -/
def Value.asNumber (limit : Nat) (wanted : String) (span : Span) (value : Value) :
    Except Fault Nat :=
  match value with
  | .integer (some number) =>
      if 0 ≤ number && number < limit then .ok number.toNat
      else if fitsWord number then .error (.spanning (.outOfRange (integerWords number) wanted) span)
      else value.refuse span wanted
  | other => other.refuse span wanted

end Toml

end RecordRing
