import RecordRing.ByteRing
import RecordRing.RingPlan

set_option autoImplicit false

namespace RecordRing

theorem isPowerOfTwo_iff (word : UInt64) :
    isPowerOfTwo word = true ↔ word.toNat.isPowerOfTwo := by
  have one : (1 : UInt64).toNat = 1 := rfl
  have zero : (0 : UInt64).toNat = 0 := rfl
  rw [← Nat.ne_zero_and_sub_one_eq_zero_iff_isPowerOfTwo, isPowerOfTwo, Bool.and_eq_true, bne_iff_ne,
    beq_iff_eq, ne_eq, ← UInt64.toNat_inj, ← UInt64.toNat_inj, UInt64.toNat_and, zero]
  apply and_congr_right
  intro positive
  rw [UInt64.toNat_sub_of_le _ _ (by rw [UInt64.le_iff_toNat_le, one]; omega), one]

namespace ByteRing

/-- A capacity that masking works for. -/
theorem offset_eq_mod {capacity : UInt64} (power : isPowerOfTwo capacity = true)
    (position : UInt64) : offset capacity position = position.toNat % capacity.toNat := by
  obtain ⟨bits, exponent⟩ := (isPowerOfTwo_iff capacity).mp power
  exact offset_eq_cell (by rw [exponent, Nat.one_shiftLeft]) position

theorem capacity_pos {capacity : UInt64} (power : isPowerOfTwo capacity = true) :
    0 < capacity.toNat :=
  Nat.pos_of_isPowerOfTwo ((isPowerOfTwo_iff capacity).mp power)

/-- A position that has wrapped past the last word is still in its cell. -/
theorem capacity_dvd_size {capacity : UInt64} (power : isPowerOfTwo capacity = true) :
    capacity.toNat ∣ UInt64.size := by
  obtain ⟨bits, exponent⟩ := (isPowerOfTwo_iff capacity).mp power
  have below : capacity.toNat < UInt64.size := capacity.toNat_lt
  have size : UInt64.size = Nat.pow 2 64 := rfl
  rw [size, exponent] at below ⊢
  exact Nat.pow_dvd_pow 2 (Nat.le_of_lt ((Nat.pow_lt_pow_iff_right (by decide)).mp below))

theorem toNat_add_mod {capacity : UInt64} (power : isPowerOfTwo capacity = true)
    (position : UInt64) (count : Nat) :
    (position + UInt64.ofNat count).toNat % capacity.toNat =
      (position.toNat + count) % capacity.toNat := by
  rw [UInt64.toNat_add, UInt64.toNat_ofNat', Nat.add_mod_mod]
  exact Nat.mod_mod_of_dvd _ (capacity_dvd_size power)

/-- Positions are counted in a word, and cells by division. -/
theorem offset_add {capacity : UInt64} (power : isPowerOfTwo capacity = true) (position : UInt64)
    (count : Nat) :
    offset capacity (position + UInt64.ofNat count) =
      (position.toNat + count) % capacity.toNat := by
  rw [offset_eq_mod power, toNat_add_mod power]

/-- Positions less than a lap apart have cells of their own. -/
theorem cell_ne {capacity p q : Nat} (before : p < q) (lap : q < p + capacity) :
    p % capacity ≠ q % capacity := by
  intro same
  have turns := Nat.sub_mod_eq_zero_of_mod_eq same.symm
  rw [Nat.mod_eq_of_lt (by omega)] at turns
  omega

/-- The cell some way behind a cell, within a lap. -/
theorem cell_add {capacity p i : Nat} (hi : i < capacity) :
    (p + i) % capacity =
      if p % capacity + i < capacity then p % capacity + i else p % capacity + i - capacity := by
  have below := Nat.mod_lt p (by omega : 0 < capacity)
  rw [← Nat.mod_add_mod]
  split
  · exact Nat.mod_eq_of_lt ‹_›
  · rw [Nat.mod_eq_sub_mod (by omega), Nat.mod_eq_of_lt (by omega)]

/-- The bytes of the ring from a position on. Positions are counted without end. -/
def stored (capacity : Nat) (data : Buffer) (position length : Nat) : Bytes :=
  (List.range length).map fun index => (data.get? ((position + index) % capacity)).getD 0

def fill (capacity : Nat) (data : Buffer) (position : Nat) : Bytes → Buffer
  | [] => data
  | byte :: rest => fill capacity (data.set (position % capacity) byte) (position + 1) rest

@[simp] theorem fill_nil (capacity : Nat) (data : Buffer) (position : Nat) :
    fill capacity data position [] = data := rfl

theorem fill_cons (capacity : Nat) (data : Buffer) (position : Nat) (byte : UInt8) (rest : Bytes) :
    fill capacity data position (byte :: rest) =
      fill capacity (data.set (position % capacity) byte) (position + 1) rest := rfl

@[simp] theorem size_fill (capacity : Nat) (data : Buffer) (position : Nat) (bytes : Bytes) :
    (fill capacity data position bytes).size = data.size := by
  induction bytes generalizing data position with
  | nil => rfl
  | cons byte rest ih => rw [fill_cons, ih, Buffer.size_set]

theorem fill_append (capacity : Nat) (data : Buffer) (position : Nat) (front back : Bytes) :
    fill capacity data position (front ++ back) =
      fill capacity (fill capacity data position front) (position + front.length) back := by
  induction front generalizing data position with
  | nil => rfl
  | cons byte rest ih =>
      rw [List.cons_append, fill_cons, ih, fill_cons, List.length_cons]
      congr 1
      omega

/-- Only the cell of the position matters. -/
theorem fill_congr {capacity p q : Nat} (data : Buffer) (bytes : Bytes)
    (same : p % capacity = q % capacity) :
    fill capacity data p bytes = fill capacity data q bytes := by
  induction bytes generalizing data p q with
  | nil => rfl
  | cons byte rest ih =>
      rw [fill_cons, fill_cons, same]
      apply ih
      rw [Nat.add_mod, same, ← Nat.add_mod]

/-- A run that does not reach the end of the memory lies there in one piece. -/
theorem fill_eq_write {capacity position : Nat} (data : Buffer) (bytes : Bytes)
    (inside : position % capacity + bytes.length ≤ capacity) :
    fill capacity data position bytes = Buffer.write data (position % capacity) bytes := by
  induction bytes generalizing data position with
  | nil => rfl
  | cons byte rest ih =>
      rw [List.length_cons] at inside
      rw [fill_cons, Buffer.write_cons]
      by_cases last : position % capacity + 1 = capacity
      · have empty : rest = [] := List.eq_nil_of_length_eq_zero (by omega)
        rw [empty, fill_nil, Buffer.write_nil]
      · have next : (position + 1) % capacity = position % capacity + 1 := by
          have one : 1 % capacity = 1 := Nat.mod_eq_of_lt (by omega)
          rw [Nat.add_mod, one, Nat.mod_eq_of_lt (by omega)]
        rw [ih _ (by omega), next]

/-- Copying in two pieces stores every byte in its cell. -/
theorem write_eq_fill {capacity : UInt64} (power : isPowerOfTwo capacity = true) (data : Buffer)
    (position : UInt64) (bytes : Bytes) (fits : bytes.length ≤ capacity.toNat) :
    write capacity data position bytes = fill capacity.toNat data position.toNat bytes := by
  have below := Nat.mod_lt position.toNat (capacity_pos power)
  have piece : firstPiece capacity position bytes.length =
      min bytes.length (capacity.toNat - position.toNat % capacity.toNat) := by
    rw [firstPiece, offset_eq_mod power]
  rw [write, offset_eq_mod power, piece]
  generalize cut : min bytes.length (capacity.toNat - position.toNat % capacity.toNat) = first
  have front : (bytes.take first).length = first := by
    rw [List.length_take]
    omega
  conv => rhs; rw [← List.take_append_drop first bytes, fill_append, front]
  rw [fill_eq_write data (bytes.take first) (by omega)]
  by_cases whole : bytes.length ≤ first
  · rw [List.drop_of_length_le whole, fill_nil, Buffer.write_nil]
  · have start : (position.toNat + first) % capacity.toNat = 0 := by
      have turn : position.toNat % capacity.toNat + first = capacity.toNat := by omega
      rw [← Nat.mod_add_mod, turn, Nat.mod_self]
    rw [fill_eq_write _ _ (by rw [start, List.length_drop]; omega), start]

/-- Strings that are written one behind the other are written joined, wherever the end of the memory and
that of the word that counts positions cut them. -/
theorem write_write {capacity : UInt64} (power : isPowerOfTwo capacity = true) (data : Buffer)
    (position : UInt64) (front back : Bytes)
    (fits : front.length + back.length ≤ capacity.toNat) :
    write capacity (write capacity data position front) (position + UInt64.ofNat front.length) back =
      write capacity data position (front ++ back) := by
  have next := toNat_add_mod power position front.length
  have joined : (front ++ back).length ≤ capacity.toNat := by
    rw [List.length_append]
    exact fits
  rw [write_eq_fill power _ _ back (by omega), write_eq_fill power _ _ front (by omega),
    write_eq_fill power _ _ _ joined, fill_append, fill_congr _ _ next]

theorem get?_fill_outside {capacity : Nat} (data : Buffer) (position : Nat) (bytes : Bytes)
    {index : Nat} (outside : ∀ i < bytes.length, index ≠ (position + i) % capacity) :
    (fill capacity data position bytes).get? index = data.get? index := by
  induction bytes generalizing data position with
  | nil => rfl
  | cons byte rest ih =>
      rw [fill_cons, ih, Buffer.get?_set_ne]
      · simpa only [Nat.add_zero] using outside 0 (by simp)
      · intro i hi
        have shifted := outside (i + 1) (by simpa using hi)
        rwa [show position + (i + 1) = position + 1 + i by omega] at shifted

theorem get?_fill_inside {capacity : Nat} (data : Buffer) (position : Nat) (bytes : Bytes)
    (fits : bytes.length ≤ capacity) (held : capacity ≤ data.size) {i : Nat}
    (hi : i < bytes.length) :
    (fill capacity data position bytes).get? ((position + i) % capacity) = bytes[i]? := by
  induction bytes generalizing data position i with
  | nil => cases hi
  | cons byte rest ih =>
      rw [List.length_cons] at fits hi
      rw [fill_cons]
      cases i with
      | zero =>
          have cell := Nat.mod_lt position (by omega : 0 < capacity)
          rw [get?_fill_outside]
          · exact Buffer.get?_set_self data _ byte (by omega)
          · intro j hj
            exact cell_ne (by omega) (by omega)
      | succ i =>
          have shifted := ih (data.set (position % capacity) byte) (position + 1) (by omega)
            (by rwa [Buffer.size_set]) (i := i) (by omega)
          rw [show position + (i + 1) = position + 1 + i by omega, shifted, List.getElem?_cons_succ]

@[simp] theorem length_stored (capacity : Nat) (data : Buffer) (position length : Nat) :
    (stored capacity data position length).length = length := by
  simp only [stored, List.length_map, List.length_range]

theorem getElem?_stored {capacity : Nat} (data : Buffer) (position : Nat) {length i : Nat}
    (hi : i < length) :
    (stored capacity data position length)[i]? =
      some ((data.get? ((position + i) % capacity)).getD 0) := by
  rw [stored, List.getElem?_map, List.getElem?_range hi, Option.map_some]

/-- A run that is stored is its first part followed by the rest. -/
theorem stored_add (capacity : Nat) (data : Buffer) (position front back : Nat) :
    stored capacity data position (front + back) =
      stored capacity data position front ++ stored capacity data (position + front) back := by
  simp only [stored, List.range_add, List.map_append, List.map_map, Function.comp_def,
    Nat.add_assoc]

theorem take_stored {capacity : Nat} (data : Buffer) (position : Nat) {length count : Nat}
    (fits : count ≤ length) :
    (stored capacity data position length).take count = stored capacity data position count := by
  obtain ⟨rest, rfl⟩ := Nat.exists_eq_add_of_le fits
  rw [stored_add, List.take_left' (length_stored ..)]

theorem drop_stored {capacity : Nat} (data : Buffer) (position : Nat) {length count : Nat}
    (fits : count ≤ length) :
    (stored capacity data position length).drop count =
      stored capacity data (position + count) (length - count) := by
  obtain ⟨rest, rfl⟩ := Nat.exists_eq_add_of_le fits
  rw [stored_add, List.drop_left' (length_stored ..), Nat.add_sub_cancel_left]

/-- Two memories with the same bytes in the cells of a run store the same run. -/
theorem stored_congr {capacity : Nat} {data other : Buffer} {position length : Nat}
    (same : ∀ i < length,
      data.get? ((position + i) % capacity) = other.get? ((position + i) % capacity)) :
    stored capacity data position length = stored capacity other position length := by
  apply List.map_congr_left
  intro i member
  rw [same i (List.mem_range.mp member)]

/-- What was written is what is found. -/
theorem stored_fill_self {capacity : Nat} (data : Buffer) (position : Nat) (bytes : Bytes)
    (fits : bytes.length ≤ capacity) (held : capacity ≤ data.size) :
    stored capacity (fill capacity data position bytes) position bytes.length = bytes := by
  apply List.ext_getElem?
  intro i
  by_cases hi : i < bytes.length
  · rw [getElem?_stored _ _ hi, get?_fill_inside data position bytes fits held hi,
      List.getElem?_eq_getElem hi, Option.getD_some]
  · rw [List.getElem?_eq_none (by rw [length_stored]; omega), List.getElem?_eq_none (by omega)]

/-- A run that ends where writing begins, and starts no more than a lap before its end, is kept. -/
theorem stored_fill_before {capacity : Nat} (data : Buffer) (position : Nat) {length : Nat}
    (bytes : Bytes) (lap : length + bytes.length ≤ capacity) :
    stored capacity (fill capacity data (position + length) bytes) position length =
      stored capacity data position length := by
  apply stored_congr
  intro i hi
  apply get?_fill_outside
  intro j hj
  exact cell_ne (by omega) (by omega)

/-- What is written where a run ends goes on with it, within one lap. -/
theorem stored_fill_behind {capacity : Nat} (data : Buffer) (position length : Nat) (bytes : Bytes)
    (lap : length + bytes.length ≤ capacity) (held : capacity ≤ data.size) :
    stored capacity (fill capacity data (position + length) bytes) position
        (length + bytes.length) =
      stored capacity data position length ++ bytes := by
  rw [stored_add, stored_fill_before data position bytes lap,
    stored_fill_self data (position + length) bytes (by omega) held]

/-- Reading in two pieces finds what is stored. -/
theorem read?_eq_stored {capacity : UInt64} (power : isPowerOfTwo capacity = true) (data : Buffer)
    (held : capacity.toNat ≤ data.size) (position : UInt64) {length : Nat}
    (fits : length ≤ capacity.toNat) :
    read? capacity data position length =
      some (stored capacity.toNat data position.toNat length) := by
  have below := Nat.mod_lt position.toNat (capacity_pos power)
  have piece : firstPiece capacity position length =
      min length (capacity.toNat - position.toNat % capacity.toNat) := by
    rw [firstPiece, offset_eq_mod power]
  rw [read?, if_pos fits, offset_eq_mod power, piece]
  generalize cut : min length (capacity.toNat - position.toNat % capacity.toNat) = first
  apply congrArg some
  apply List.ext_getElem?
  intro i
  have front : (data.read (position.toNat % capacity.toNat) first).length = first := by
    rw [Buffer.length_read]
    omega
  by_cases hi : i < length
  · rw [getElem?_stored _ _ hi, List.getElem?_append, front]
    have cell := Nat.mod_lt (position.toNat + i) (capacity_pos power)
    obtain ⟨byte, found⟩ : ∃ byte, data.get? ((position.toNat + i) % capacity.toNat) = some byte :=
      ⟨_, if_pos (by omega)⟩
    rw [found, Option.getD_some, ← found]
    rw [cell_add (by omega)]
    by_cases before : i < first
    · rw [if_pos before, if_pos (by omega), Buffer.getElem?_read _ _ _ _ before]
    · rw [if_neg before, if_neg (by omega), Buffer.getElem?_read _ _ _ _ (by omega)]
      congr 1
      omega
  · rw [List.getElem?_eq_none, List.getElem?_eq_none]
    · rw [length_stored]
      omega
    · rw [List.length_append, front, Buffer.length_read]
      omega

end ByteRing

end RecordRing
