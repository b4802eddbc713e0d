import RecordRing.Binary64

set_option autoImplicit false

namespace RecordRing

namespace ByteSize

/-- A number of tenths with its point. -/
def tenths (count : Nat) : String :=
  s!"{count / 10}.{count % 10}"

def text (bytes : UInt64) : String :=
  let (numerator, denominator) := (Binary64.ofNat bytes.toNat).toQuotient
  if numerator < 1024 * denominator then
    s!"{bytes} B"
  else if numerator < 1024 * 1024 * denominator then
    tenths (roundDiv (numerator * 10) (denominator * 1024)) ++ " KiB"
  else
    tenths (roundDiv (numerator * 10) (denominator * (1024 * 1024))) ++ " MiB"

end ByteSize

end RecordRing
