import RecordRing.Buffer

set_option autoImplicit false

namespace RecordRing

namespace ByteRing

/-- Where the byte at a logical position lies in memory. -/
def offset (capacity position : UInt64) : Nat :=
  (position &&& (capacity - 1)).toNat

def firstPiece (capacity position : UInt64) (length : Nat) : Nat :=
  min length (capacity.toNat - offset capacity position)

/-- Copy `bytes` into the ring from `position` on, going on at the start of the memory where they
run past its end. The run must not be longer than the ring. -/
def write (capacity : UInt64) (data : Buffer) (position : UInt64) (bytes : Bytes) : Buffer :=
  let first := firstPiece capacity position bytes.length
  Buffer.write (Buffer.write data (offset capacity position) (bytes.take first)) 0
    (bytes.drop first)

/-- The `length` bytes of the ring from `position` on, or nothing if the run is longer than the
ring. -/
def read? (capacity : UInt64) (data : Buffer) (position : UInt64) (length : Nat) : Option Bytes :=
  if length ≤ capacity.toNat then
    let first := firstPiece capacity position length
    some (Buffer.read data (offset capacity position) first ++ Buffer.read data 0 (length - first))
  else
    none

/-- The cell of a logical position, by division: what masking must agree with. -/
def cell (capacity position : UInt64) : Nat :=
  position.toNat % capacity.toNat

theorem offset_eq_cell {capacity : UInt64} {bits : Nat} (power : capacity.toNat = 1 <<< bits)
    (position : UInt64) : offset capacity position = cell capacity position := by
  have positive : 1 ≤ capacity.toNat := by
    rw [power, Nat.one_shiftLeft]
    exact Nat.one_le_two_pow
  have one : (1 : UInt64) ≤ capacity := by
    rw [UInt64.le_iff_toNat_le]
    exact positive
  rw [offset, cell, UInt64.toNat_and, UInt64.toNat_sub_of_le _ _ one, power,
    Nat.one_shiftLeft]
  exact Nat.and_two_pow_sub_one_eq_mod _ _

@[simp] theorem size_write (capacity : UInt64) (data : Buffer) (position : UInt64) (bytes : Bytes) :
    (write capacity data position bytes).size = data.size := by
  simp only [write, Buffer.size_write]

end ByteRing

end RecordRing
