import RecordRing.Proofs.Publication

set_option autoImplicit false

namespace RecordRing

namespace Buffer

theorem size_put (held : Array UInt8) (offset : Nat) (byte : UInt8) :
    (put held offset byte).size = max held.size (if byte = 0 then 0 else offset + 1) := by
  unfold put
  split
  · rw [Array.size_setIfInBounds]
    split <;> omega
  · split
    · omega
    · rw [Array.size_push, Array.size_append, Array.size_replicate]
      omega

/-- Zeros at the end may be held or not, and the order does not decide which. -/
theorem put_comm (held : Array UInt8) {offset other : Nat} (apart : offset ≠ other)
    (byte second : UInt8) :
    put (put held offset byte) other second = put (put held other second) offset byte := by
  apply Array.ext
  · simp only [size_put]
    omega
  · intro index left right
    have same : (put (put held offset byte) other second).getD index 0 =
        (put (put held other second) offset byte).getD index 0 := by
      simp only [getD_put]
      by_cases here : index = offset
      · rw [if_pos here, if_pos here, if_neg (by omega)]
      · rw [if_neg here, if_neg here]
    rwa [Array.getD_eq_getD_getElem?, Array.getD_eq_getD_getElem?, Array.getElem?_eq_getElem left,
      Array.getElem?_eq_getElem right] at same

theorem set_comm (buffer : Buffer) {offset other : Nat} (apart : offset ≠ other)
    (byte second : UInt8) :
    (buffer.set offset byte).set other second = (buffer.set other second).set offset byte := by
  obtain ⟨size, held, fits⟩ := buffer
  by_cases inside : offset < size
  · by_cases within : other < size
    · simp only [set, dif_pos inside, dif_pos within, put_comm held apart]
    · simp only [set, dif_pos inside, dif_neg within]
  · by_cases within : other < size
    · simp only [set, dif_neg inside, dif_pos within]
    · simp only [set, dif_neg inside, dif_neg within]

end Buffer

namespace ByteRing

/-- A byte outside of a run is stored before the run or after it. -/
theorem fill_set {capacity : Nat} (data : Buffer) (position : Nat) (bytes : Bytes) {index : Nat}
    (byte : UInt8) (outside : ∀ i < bytes.length, index ≠ (position + i) % capacity) :
    fill capacity (data.set index byte) position bytes =
      (fill capacity data position bytes).set index byte := by
  induction bytes generalizing data position with
  | nil => rfl
  | cons first rest ih =>
      have here : index ≠ position % capacity := outside 0 (by simp)
      rw [fill_cons, fill_cons, Buffer.set_comm data here, ih]
      intro i hi
      rw [Nat.add_right_comm]
      exact outside (i + 1) (Nat.succ_lt_succ hi)

/-- Runs without a common cell are stored in either order. -/
theorem fill_comm {capacity : Nat} (data : Buffer) (position other : Nat) (bytes more : Bytes)
    (apart : ∀ i < bytes.length, ∀ j < more.length,
      (position + i) % capacity ≠ (other + j) % capacity) :
    fill capacity (fill capacity data position bytes) other more =
      fill capacity (fill capacity data other more) position bytes := by
  induction bytes generalizing data position with
  | nil => rfl
  | cons byte rest ih =>
      have here : ∀ j < more.length, position % capacity ≠ (other + j) % capacity :=
        apart 0 (by simp)
      rw [fill_cons, fill_cons, ih, fill_set data other more byte here]
      intro i hi
      rw [Nat.add_right_comm]
      exact apart (i + 1) (Nat.succ_lt_succ hi)

/-- The cell of the byte that stands `count` places behind a position. The word that counts positions
wraps, and the cell is the remainder of what is left of the sum. -/
def cellBehind (capacity position : UInt64) (count : Nat) : Nat :=
  (position.toNat + count) % UInt64.size % capacity.toNat

def Apart (capacity position : UInt64) (length : Nat) (other : UInt64) (count : Nat) : Prop :=
  ∀ i < length, ∀ j < count, cellBehind capacity position i ≠ cellBehind capacity other j

section Power

variable {capacity : UInt64} (power : isPowerOfTwo capacity = true)

include power

/-- It does not matter to the cell that the word has wrapped. -/
theorem cellBehind_eq (position : UInt64) (count : Nat) :
    cellBehind capacity position count = (position.toNat + count) % capacity.toNat :=
  Nat.mod_mod_of_dvd _ (capacity_dvd_size power)

theorem offset_eq_cellBehind (position : UInt64) (count : Nat) :
    offset capacity (position + UInt64.ofNat count) = cellBehind capacity position count := by
  rw [offset_add power, cellBehind_eq power]

theorem get?_write_cell {data : Buffer} (held : capacity.toNat ≤ data.size) (position : UInt64)
    (bytes : Bytes) (fits : bytes.length ≤ capacity.toNat) {i : Nat} (hi : i < bytes.length) :
    (write capacity data position bytes).get? (cellBehind capacity position i) = bytes[i]? := by
  rw [write_eq_fill power _ _ _ fits, cellBehind_eq power]
  exact get?_fill_inside data position.toNat bytes fits held hi

theorem get?_write_apart (data : Buffer) (position : UInt64) (bytes : Bytes)
    (fits : bytes.length ≤ capacity.toNat) {index : Nat}
    (outside : ∀ i < bytes.length, index ≠ cellBehind capacity position i) :
    (write capacity data position bytes).get? index = data.get? index := by
  rw [write_eq_fill power _ _ _ fits]
  apply get?_fill_outside
  intro i hi
  rw [← cellBehind_eq power]
  exact outside i hi

theorem exists_read? {data : Buffer} (held : capacity.toNat ≤ data.size) (position : UInt64)
    {length : Nat} (fits : length ≤ capacity.toNat) :
    ∃ bytes, read? capacity data position length = some bytes ∧ bytes.length = length ∧
      ∀ i < length, bytes[i]? = data.get? (cellBehind capacity position i) := by
  refine ⟨_, read?_eq_stored power data held position fits, length_stored .., ?_⟩
  intro i hi
  have below := Nat.mod_lt (position.toNat + i) (capacity_pos power)
  obtain ⟨byte, found⟩ : ∃ byte, data.get? ((position.toNat + i) % capacity.toNat) = some byte :=
    ⟨_, if_pos (by omega)⟩
  rw [getElem?_stored _ _ hi, cellBehind_eq power, found, Option.getD_some]

/-- What was written is read back, wherever the two pieces of it lie. -/
theorem read?_write {data : Buffer} (held : capacity.toNat ≤ data.size) (position : UInt64)
    (bytes : Bytes) (fits : bytes.length ≤ capacity.toNat) :
    read? capacity (write capacity data position bytes) position bytes.length = some bytes := by
  have room : capacity.toNat ≤ (write capacity data position bytes).size := by
    rw [size_write]
    exact held
  rw [read?_eq_stored power _ room position fits, write_eq_fill power _ _ _ fits,
    stored_fill_self data position.toNat bytes fits held]

theorem write_comm (data : Buffer) (position other : UInt64) (bytes more : Bytes)
    (fits : bytes.length ≤ capacity.toNat) (room : more.length ≤ capacity.toNat)
    (apart : Apart capacity position bytes.length other more.length) :
    write capacity (write capacity data position bytes) other more =
      write capacity (write capacity data other more) position bytes := by
  simp only [write_eq_fill power _ _ _ fits, write_eq_fill power _ _ _ room]
  apply fill_comm
  intro i hi j hj
  rw [← cellBehind_eq power, ← cellBehind_eq power]
  exact apart i hi j hj

end Power

/-- What is written to these bytes and read from them goes by the remainders of the positions. -/
structure GoesByRemainders (capacity : UInt64) (data : Buffer) : Prop where
  masked : ∀ position count,
    offset capacity (position + UInt64.ofNat count) = cellBehind capacity position count
  sized : ∀ position bytes, (write capacity data position bytes).size = data.size
  /-- Each byte of a run is in its cell, and every byte outside of these cells is what it was. -/
  written : ∀ position (bytes : Bytes), bytes.length ≤ capacity.toNat → ∀ i < bytes.length,
    (write capacity data position bytes).get? (cellBehind capacity position i) = bytes[i]?
  kept : ∀ position (bytes : Bytes), bytes.length ≤ capacity.toNat →
    ∀ index, (∀ i < bytes.length, index ≠ cellBehind capacity position i) →
      (write capacity data position bytes).get? index = data.get? index
  found : ∀ position length, length ≤ capacity.toNat →
    ∃ bytes, read? capacity data position length = some bytes ∧ bytes.length = length ∧
      ∀ i < length, bytes[i]? = data.get? (cellBehind capacity position i)
  returned : ∀ position (bytes : Bytes), bytes.length ≤ capacity.toNat →
    read? capacity (write capacity data position bytes) position bytes.length = some bytes
  commuted : ∀ position other (bytes more : Bytes), bytes.length ≤ capacity.toNat →
    more.length ≤ capacity.toNat → Apart capacity position bytes.length other more.length →
      write capacity (write capacity data position bytes) other more =
        write capacity (write capacity data other more) position bytes
  joined : ∀ position (front back : Bytes), front.length + back.length ≤ capacity.toNat →
    write capacity (write capacity data position front) (position + UInt64.ofNat front.length) back =
      write capacity data position (front ++ back)

/-- A ring whose capacity is a power of two goes by remainders, at every position that a word can count
and for every run of up to a whole lap. -/
theorem goes_by_remainders {capacity : UInt64} (power : isPowerOfTwo capacity = true) {data : Buffer}
    (held : capacity.toNat ≤ data.size) : GoesByRemainders capacity data where
  masked := offset_eq_cellBehind power
  sized := size_write capacity data
  written position bytes fits _ hi := get?_write_cell power held position bytes fits hi
  kept position bytes fits _ outside := get?_write_apart power data position bytes fits outside
  found position _ fits := exists_read? power held position fits
  returned := read?_write power held
  commuted := write_comm power data
  joined := write_write power data

/-- A run of six bytes starts three before the word that counts positions wraps, which is where the
memory ends, and the bytes before it stay. -/
theorem goes_by_remainders_across_the_last_word :
    isPowerOfTwo 8 = true ∧ (8 : UInt64).toNat ≤ (Buffer.ofBytes [9, 9, 9, 9, 9, 9, 9, 9]).size ∧
      GoesByRemainders 8 (Buffer.ofBytes [9, 9, 9, 9, 9, 9, 9, 9]) ∧
      write 8 (.ofBytes [9, 9, 9, 9, 9, 9, 9, 9]) 0xFFFFFFFFFFFFFFFD [1, 2, 3, 4, 5, 6] =
        .ofBytes [4, 5, 6, 9, 9, 1, 2, 3] ∧
      read? 8 (.ofBytes [4, 5, 6, 9, 9, 1, 2, 3]) 0xFFFFFFFFFFFFFFFD 6 =
        some [1, 2, 3, 4, 5, 6] :=
  ⟨by decide, by decide, goes_by_remainders (by decide) (by decide), by decide, by decide⟩

end ByteRing

end RecordRing
