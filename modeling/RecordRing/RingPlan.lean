import RecordRing.Record
import RecordRing.RingError

set_option autoImplicit false

namespace RecordRing

/-- Bytes of the control page; the data ring starts right after it. -/
def controlPageSize : UInt64 := 4096

/-- Fewest bytes a data ring may have. -/
def minCapacity : UInt64 := 64

/-- Bytes of a region whose data ring has the given capacity. -/
def bytesForRing (capacity : UInt64) : UInt64 :=
  controlPageSize + capacity

/-- Exactly one bit of the word is set. -/
def isPowerOfTwo (word : UInt64) : Bool :=
  word != 0 && (word &&& (word - 1)) == 0

/-- The largest payload that fits beside its own header and a drop summary, so that an episode of
drops can always be closed once the ring is drained. A length must also fit 32 bits. -/
def maxPayload (capacity : UInt64) : UInt64 :=
  min (if capacity < 52 then 0 else capacity - 52) 0xFFFFFFFF

/-- Watermarks are percentages, the low one not above the high one. -/
def checkWatermarks (hi lo : UInt32) : Except RingError Unit :=
  if hi > 100 || lo > 100 || lo > hi then
    .error (.invalidRange (.watermarks hi lo))
  else
    .ok ()

/-- A producer pushes between once and 100000 times a second. -/
def checkRate (rate : UInt32) : Except RingError Unit :=
  if rate == 0 || rate > 100000 then
    .error (.invalidRange (.rate rate))
  else
    .ok ()

def checkCapacity (capacity : UInt64) : Except RingError Unit :=
  if isPowerOfTwo capacity then
    if capacity < minCapacity then
      .error (.capacityTooSmall capacity minCapacity)
    else
      .ok ()
  else
    .error (.capacityNotPowerOfTwo capacity)

theorem checkWatermarks_eq_ok_iff (hi lo : UInt32) :
    checkWatermarks hi lo = .ok () ↔ lo ≤ hi ∧ hi ≤ 100 := by
  simp only [checkWatermarks, Bool.or_eq_true, decide_eq_true_eq, GT.gt, UInt32.lt_iff_toNat_lt,
    UInt32.le_iff_toNat_le, UInt32.reduceToNat]
  split
  · simp only [reduceCtorEq, false_iff]
    omega
  · simp only [true_iff]
    omega

theorem checkRate_eq_ok_iff (rate : UInt32) :
    checkRate rate = .ok () ↔ 1 ≤ rate ∧ rate ≤ 100000 := by
  simp only [checkRate, Bool.or_eq_true, decide_eq_true_eq, beq_iff_eq, GT.gt,
    ← UInt32.toNat_inj, UInt32.lt_iff_toNat_lt, UInt32.le_iff_toNat_le, UInt32.reduceToNat]
  split
  · simp only [reduceCtorEq, false_iff]
    omega
  · simp only [true_iff]
    omega

theorem checkCapacity_eq_ok_iff (capacity : UInt64) :
    checkCapacity capacity = .ok () ↔ isPowerOfTwo capacity = true ∧ minCapacity ≤ capacity := by
  unfold checkCapacity
  split
  · rename_i power
    simp only [power, true_and, ← UInt64.not_lt]
    split <;> simp_all
  · rename_i other
    simp [other]

/-- What a ring is to be like. Nothing is promised of the fields until `validate` accepts them. -/
structure RingPlan where
  capacity : UInt64
  hi : UInt32 := 50
  lo : UInt32 := 30
  rate : UInt32 := 2000
  deriving DecidableEq, Repr

namespace RingPlan

def ofCapacity (capacity : UInt64) : Except RingError RingPlan := do
  checkCapacity capacity
  return { capacity }

/-- A plan for a ring of two to the given power of bytes. -/
def ofOrder (order : UInt32) : Except RingError RingPlan :=
  if order < 64 then
    ofCapacity (1 <<< order.toUInt64)
  else
    .error (.invalidRange (.order order))

def withWatermarks (plan : RingPlan) (hi lo : UInt32) : Except RingError RingPlan := do
  checkWatermarks hi lo
  return { plan with hi, lo }

def withRate (plan : RingPlan) (rate : UInt32) : Except RingError RingPlan := do
  checkRate rate
  return { plan with rate }

/-- Every field is checked; the first fault found is reported. -/
def validate (plan : RingPlan) : Except RingError Unit := do
  checkCapacity plan.capacity
  checkWatermarks plan.hi plan.lo
  checkRate plan.rate

/-- The bits of a position that pick a byte of the ring. -/
def mask (plan : RingPlan) : UInt64 :=
  plan.capacity - 1

def order (plan : RingPlan) : Nat :=
  plan.capacity.toNat.log2

end RingPlan

end RecordRing
