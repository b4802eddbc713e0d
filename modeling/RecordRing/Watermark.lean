import RecordRing.RingPlan

set_option autoImplicit false

namespace RecordRing

/-- The fill of a ring in whole percent, cut to 32 bits; zero for a ring without capacity. -/
def utilization (used capacity : UInt64) : UInt32 :=
  if capacity = 0 then 0 else UInt32.ofNat (used.toNat * 100 / capacity.toNat)

inductive Edge where
  | rising
  | falling
  deriving DecidableEq, Repr

namespace Edge

def latched : Edge → Bool
  | rising => true
  | falling => false

/-- The edge that a fill makes. A clear latch only looks at the high mark, a set one only at the
low mark. -/
def ofFill (latched : Bool) (percent hi lo : UInt32) : Option Edge :=
  if latched then
    if percent ≤ lo then some falling else none
  else
    if hi ≤ percent then some rising else none

/-- An edge always changes the latch. -/
theorem latched_ofFill {latched : Bool} {percent hi lo : UInt32} {edge : Edge}
    (made : ofFill latched percent hi lo = some edge) : edge.latched = !latched := by
  unfold ofFill at made
  split at made <;> split at made <;> cases made <;> simp_all [Edge.latched]

end Edge

end RecordRing
