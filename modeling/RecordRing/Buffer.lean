import RecordRing.LittleEndian

set_option autoImplicit false

namespace RecordRing

/-- A run of memory. Behind the bytes that are held there are zeros, so fresh memory takes no room,
however long it is. -/
structure Buffer where
  size : Nat
  held : Array UInt8
  size_held_le : held.size ≤ size
  deriving DecidableEq

namespace Buffer

def zeros (size : Nat) : Buffer :=
  ⟨size, #[], Nat.zero_le size⟩

def ofArray (bytes : Array UInt8) : Buffer :=
  ⟨bytes.size, bytes, Nat.le_refl bytes.size⟩

def ofBytes (bytes : Bytes) : Buffer :=
  ofArray bytes.toArray

instance : Inhabited Buffer :=
  ⟨zeros 0⟩

def toBytes (buffer : Buffer) : Bytes :=
  buffer.held.toList ++ List.replicate (buffer.size - buffer.held.size) 0

def isEmpty (buffer : Buffer) : Bool :=
  buffer.size == 0

def get? (buffer : Buffer) (offset : Nat) : Option UInt8 :=
  if offset < buffer.size then some (buffer.held.getD offset 0) else none

/-- Held bytes with one of them changed. All before it are then held too; a zero behind them is there
without being held. -/
def put (held : Array UInt8) (offset : Nat) (byte : UInt8) : Array UInt8 :=
  if offset < held.size then held.setIfInBounds offset byte
  else if byte = 0 then held
  else (held ++ Array.replicate (offset - held.size) 0).push byte

theorem size_put_le {held : Array UInt8} {offset size : Nat} (byte : UInt8)
    (fits : held.size ≤ size) (inside : offset < size) : (put held offset byte).size ≤ size := by
  unfold put
  split
  · simpa using fits
  · split
    · exact fits
    · simp only [Array.size_push, Array.size_append, Array.size_replicate]
      omega

/-- Store a byte. What would lie past the end is lost. -/
def set (buffer : Buffer) (offset : Nat) (byte : UInt8) : Buffer :=
  match buffer with
  | ⟨size, held, fits⟩ =>
      if inside : offset < size then ⟨size, put held offset byte, size_put_le byte fits inside⟩
      else ⟨size, held, fits⟩

/-- Store bytes from `offset` on. What would lie past the end is lost. -/
def write (buffer : Buffer) (offset : Nat) : Bytes → Buffer
  | [] => buffer
  | byte :: rest => write (buffer.set offset byte) (offset + 1) rest

/-- The `length` bytes from `offset` on, fewer where the memory ends. -/
def read (buffer : Buffer) (offset length : Nat) : Bytes :=
  let stop := min (offset + length) buffer.size
  let found := (buffer.held.extract offset stop).toList
  found ++ List.replicate (stop - offset - found.length) 0

def extract (buffer : Buffer) (start stop : Nat) : Buffer where
  size := min stop buffer.size - start
  held := buffer.held.extract start stop
  size_held_le := by
    have fits := buffer.size_held_le
    simp only [Array.size_extract]
    omega

/-- Cut the memory to a size, or go on with zeros up to it. -/
def resize (buffer : Buffer) (size : Nat) : Buffer where
  size := size
  held := buffer.held.extract 0 size
  size_held_le := by
    simp only [Array.size_extract]
    omega

def append (front back : Buffer) : Buffer where
  size := front.size + back.size
  held :=
    if back.held.isEmpty then front.held
    else front.held ++ Array.replicate (front.size - front.held.size) 0 ++ back.held
  size_held_le := by
    have fits := front.size_held_le
    have fitsBack := back.size_held_le
    split
    · omega
    · simp only [Array.size_append, Array.size_replicate]
      omega

instance : Append Buffer :=
  ⟨append⟩

@[simp] theorem size_zeros (size : Nat) : (zeros size).size = size := rfl

@[simp] theorem size_ofBytes (bytes : Bytes) : (ofBytes bytes).size = bytes.length := by
  simp [ofBytes, ofArray]

@[simp] theorem size_set (buffer : Buffer) (offset : Nat) (byte : UInt8) :
    (buffer.set offset byte).size = buffer.size := by
  unfold set
  split
  split <;> rfl

@[simp] theorem size_append (front back : Buffer) : (front ++ back).size = front.size + back.size :=
  rfl

@[simp] theorem write_nil (buffer : Buffer) (offset : Nat) : write buffer offset [] = buffer := rfl

@[simp] theorem write_cons (buffer : Buffer) (offset : Nat) (byte : UInt8) (rest : Bytes) :
    write buffer offset (byte :: rest) = write (buffer.set offset byte) (offset + 1) rest := rfl

@[simp] theorem size_write (buffer : Buffer) (offset : Nat) (bytes : Bytes) :
    (write buffer offset bytes).size = buffer.size := by
  induction bytes generalizing buffer offset with
  | nil => rfl
  | cons byte rest ih => rw [write_cons, ih, size_set]

/-- A write holds no more bytes than there were, or than it reaches. -/
theorem size_held_write_le (buffer : Buffer) (offset : Nat) (bytes : Bytes) :
    (write buffer offset bytes).held.size ≤ max buffer.held.size (offset + bytes.length) := by
  induction bytes generalizing buffer offset with
  | nil => exact Nat.le_max_left ..
  | cons byte rest ih =>
      have first : (buffer.set offset byte).held.size ≤ max buffer.held.size (offset + 1) := by
        unfold set
        split
        split
        · exact size_put_le byte (Nat.le_max_left ..) (by omega)
        · exact Nat.le_max_left ..
      have rests := ih (buffer.set offset byte) (offset + 1)
      rw [write_cons, List.length_cons]
      omega

/-- Behind all that is held there are zeros. -/
theorem extract_of_held_le (buffer : Buffer) {start : Nat} (stop : Nat)
    (beyond : buffer.held.size ≤ start) :
    buffer.extract start stop = zeros (min stop buffer.size - start) := by
  have none : buffer.held.extract start stop = #[] := by
    apply Array.eq_empty_of_size_eq_zero
    rw [Array.size_extract]
    omega
  simp only [extract, zeros, none]

@[simp] theorem length_toBytes (buffer : Buffer) : buffer.toBytes.length = buffer.size := by
  have fits := buffer.size_held_le
  simp only [toBytes, List.length_append, Array.length_toList, List.length_replicate]
  omega

theorem getD_put (held : Array UInt8) (offset index : Nat) (byte : UInt8) :
    (put held offset byte).getD index 0 = if index = offset then byte else held.getD index 0 := by
  simp only [Array.getD_eq_getD_getElem?]
  unfold put
  split
  · rename_i inside
    by_cases same : offset = index
    · subst same
      simp [inside]
    · rw [Array.getElem?_setIfInBounds_ne same, if_neg (Ne.symm same)]
  · split
    · rename_i outside zero
      by_cases same : index = offset
      · subst same
        simp [zero, Array.getElem?_eq_none (Nat.le_of_not_lt outside)]
      · rw [if_neg same]
    · rename_i outside _
      have reached : (held ++ Array.replicate (offset - held.size) 0).size = offset := by
        simp only [Array.size_append, Array.size_replicate]
        omega
      rw [Array.getElem?_push, reached]
      by_cases same : index = offset
      · simp [same]
      · rw [if_neg same, if_neg same, Array.getElem?_append]
        split
        · rfl
        · rename_i beyond
          rw [Array.getElem?_eq_none (Nat.le_of_not_lt beyond), Array.getElem?_replicate]
          split <;> rfl

theorem get?_set_self (buffer : Buffer) (offset : Nat) (byte : UInt8)
    (inside : offset < buffer.size) : (buffer.set offset byte).get? offset = some byte := by
  obtain ⟨size, held, fits⟩ := buffer
  change offset < size at inside
  simp only [set, get?, dif_pos inside, if_pos inside, getD_put]
  rfl

theorem get?_set_ne (buffer : Buffer) {offset index : Nat} (byte : UInt8) (other : index ≠ offset) :
    (buffer.set offset byte).get? index = buffer.get? index := by
  obtain ⟨size, held, fits⟩ := buffer
  by_cases inside : offset < size
  · simp only [set, get?, dif_pos inside, getD_put, if_neg other]
  · simp only [set, dif_neg inside]

@[simp] theorem get?_zeros (size index : Nat) :
    (zeros size).get? index = if index < size then some 0 else none := rfl

theorem get?_eq_none (buffer : Buffer) {index : Nat} (beyond : buffer.size ≤ index) :
    buffer.get? index = none :=
  if_neg (Nat.not_lt.2 beyond)

theorem get?_ofBytes (bytes : Bytes) (index : Nat) : (ofBytes bytes).get? index = bytes[index]? := by
  unfold get?
  rw [size_ofBytes]
  split
  · rename_i inside
    change some (bytes.toArray.getD index 0) = _
    rw [Array.getD_eq_getD_getElem?, List.getElem?_toArray, List.getElem?_eq_getElem inside]
    rfl
  · rename_i outside
    rw [List.getElem?_eq_none (Nat.le_of_not_lt outside)]

theorem get?_write_outside (buffer : Buffer) (offset : Nat) (bytes : Bytes) (index : Nat)
    (outside : index < offset ∨ offset + bytes.length ≤ index) :
    (write buffer offset bytes).get? index = buffer.get? index := by
  induction bytes generalizing buffer offset with
  | nil => rfl
  | cons byte rest ih =>
      simp only [List.length_cons] at outside
      rw [write_cons, ih _ _ (by omega), get?_set_ne _ _ (by omega)]

theorem get?_write_inside (buffer : Buffer) (offset : Nat) (bytes : Bytes) (index : Nat)
    (inside : index < bytes.length) (fits : offset + index < buffer.size) :
    (write buffer offset bytes).get? (offset + index) = bytes[index]? := by
  induction bytes generalizing buffer offset index with
  | nil => cases inside
  | cons byte rest ih =>
      rw [write_cons]
      cases index with
      | zero =>
          rw [get?_write_outside _ _ _ _ (Or.inl (by omega))]
          exact get?_set_self buffer offset byte fits
      | succ index =>
          have shifted := ih (buffer.set offset byte) (offset + 1) index (by simpa using inside)
            (by rw [size_set]; omega)
          rw [show offset + (index + 1) = offset + 1 + index by omega, shifted,
            List.getElem?_cons_succ]

theorem length_read (buffer : Buffer) (offset length : Nat) :
    (read buffer offset length).length = min length (buffer.size - offset) := by
  have fits := buffer.size_held_le
  simp only [read, List.length_append, Array.length_toList, Array.size_extract,
    List.length_replicate]
  omega

theorem getElem?_read (buffer : Buffer) (offset length index : Nat) (inside : index < length) :
    (read buffer offset length)[index]? = buffer.get? (offset + index) := by
  have fits := buffer.size_held_le
  by_cases ends : offset + index < buffer.size
  · rw [get?, if_pos ends, Array.getD_eq_getD_getElem?]
    simp only [read, List.getElem?_append, Array.length_toList, Array.size_extract,
      Array.getElem?_toList, Array.getElem?_extract, List.getElem?_replicate]
    by_cases known : offset + index < buffer.held.size
    · rw [if_pos (by omega), if_pos (by omega), Array.getElem?_eq_getElem known]
      rfl
    · rw [if_neg (by omega), if_pos (by omega), Array.getElem?_eq_none (by omega)]
      rfl
  · rw [get?_eq_none _ (by omega), List.getElem?_eq_none]
    rw [length_read]
    omega

/-- A read is told by the bytes that it covers. -/
theorem read_congr {left right : Buffer} {offset length : Nat}
    (same : ∀ index, offset ≤ index → index < offset + length →
      left.get? index = right.get? index) :
    read left offset length = read right offset length := by
  apply List.ext_getElem?
  intro index
  by_cases inside : index < length
  · rw [getElem?_read _ _ _ _ inside, getElem?_read _ _ _ _ inside]
    exact same _ (Nat.le_add_right ..) (by omega)
  · have beyond (buffer : Buffer) : (read buffer offset length)[index]? = none := by
      apply List.getElem?_eq_none
      rw [length_read]
      omega
    rw [beyond, beyond]

theorem read_write_self (buffer : Buffer) (offset : Nat) (bytes : Bytes)
    (fits : offset + bytes.length ≤ buffer.size) :
    read (write buffer offset bytes) offset bytes.length = bytes := by
  apply List.ext_getElem?
  intro index
  by_cases inside : index < bytes.length
  · rw [getElem?_read _ _ _ _ inside, get?_write_inside _ _ _ _ inside (by omega)]
  · rw [List.getElem?_eq_none, List.getElem?_eq_none (by omega)]
    rw [length_read, size_write]
    omega

theorem read_write_apart (buffer : Buffer) {offset start length : Nat} {bytes : Bytes}
    (apart : start + length ≤ offset ∨ offset + bytes.length ≤ start) :
    read (write buffer offset bytes) start length = read buffer start length := by
  apply read_congr
  intro index lower upper
  exact get?_write_outside _ _ _ _ (by omega)

/-- Bytes that were handed on are those of the buffer. -/
theorem get?_ofBytes_toBytes (buffer : Buffer) (index : Nat) :
    (ofBytes buffer.toBytes).get? index = buffer.get? index := by
  have fits := buffer.size_held_le
  by_cases inside : index < buffer.size
  · have there : index < (ofBytes buffer.toBytes).size := by
      rw [size_ofBytes, length_toBytes]
      exact inside
    rw [get?, get?, if_pos inside, if_pos there, Array.getD_eq_getD_getElem?,
      Array.getD_eq_getD_getElem?]
    change some ((buffer.toBytes.toArray)[index]?.getD 0) = _
    rw [List.getElem?_toArray, toBytes, List.getElem?_append, Array.length_toList]
    by_cases known : index < buffer.held.size
    · rw [if_pos known, Array.getElem?_toList]
    · rw [if_neg known, Array.getElem?_eq_none (Nat.le_of_not_lt known), List.getElem?_replicate]
      split <;> rfl
  · have beyond : (ofBytes buffer.toBytes).size ≤ index := by
      rw [size_ofBytes, length_toBytes]
      exact Nat.le_of_not_lt inside
    rw [get?_eq_none _ beyond, get?_eq_none _ (Nat.le_of_not_lt inside)]

end Buffer

end RecordRing
