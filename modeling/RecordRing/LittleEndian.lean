set_option autoImplicit false

namespace RecordRing

abbrev Bytes := List UInt8

namespace LittleEndian

/-- The low `width` bytes of `value`, least significant first. -/
def encode : Nat → Nat → Bytes
  | 0, _ => []
  | width + 1, value => UInt8.ofNat value :: encode width (value / 256)

/-- The number whose bytes, least significant first, are given. -/
def decode : Bytes → Nat
  | [] => 0
  | byte :: rest => byte.toNat + 256 * decode rest

@[simp] theorem encode_zero (value : Nat) : encode 0 value = [] := rfl

@[simp] theorem encode_succ (width value : Nat) :
    encode (width + 1) value = UInt8.ofNat value :: encode width (value / 256) := rfl

@[simp] theorem decode_nil : decode [] = 0 := rfl

@[simp] theorem decode_cons (byte : UInt8) (rest : Bytes) :
    decode (byte :: rest) = byte.toNat + 256 * decode rest := rfl

@[simp] theorem length_encode (width value : Nat) : (encode width value).length = width := by
  induction width generalizing value with
  | zero => rfl
  | succ width ih => simp only [encode_succ, List.length_cons, ih]

/-- How many numbers have a string of the given width. -/
def count : Nat → Nat
  | 0 => 1
  | width + 1 => 256 * count width

@[simp] theorem count_zero : count 0 = 1 := rfl

@[simp] theorem count_succ (width : Nat) : count (width + 1) = 256 * count width := rfl

theorem decode_encode (width value : Nat) : decode (encode width value) = value % count width := by
  induction width generalizing value with
  | zero => simp only [encode_zero, decode_nil, count_zero, Nat.mod_one]
  | succ width ih =>
      rw [encode_succ, decode_cons, ih, count_succ, Nat.mod_mul]
      rfl

theorem decode_encode_of_lt {width value : Nat} (fits : value < count width) :
    decode (encode width value) = value := by
  rw [decode_encode, Nat.mod_eq_of_lt fits]

theorem decode_lt (bytes : Bytes) : decode bytes < count bytes.length := by
  induction bytes with
  | nil => simp only [decode_nil, List.length_nil, count_zero, Nat.lt_add_one]
  | cons byte rest ih =>
      have bound : byte.toNat < 256 := byte.toNat_lt
      rw [decode_cons, List.length_cons, count_succ]
      omega

theorem encode_decode (bytes : Bytes) : encode bytes.length (decode bytes) = bytes := by
  induction bytes with
  | nil => rfl
  | cons byte rest ih =>
      have bound : byte.toNat < 256 := byte.toNat_lt
      rw [List.length_cons, encode_succ, decode_cons]
      congr 1
      · apply UInt8.toNat_inj.mp
        simp only [UInt8.toNat_ofNat']
        omega
      · rw [Nat.add_mul_div_left _ _ (by decide), Nat.div_eq_of_lt bound, Nat.zero_add, ih]

def ofUInt16 (word : UInt16) : Bytes := encode 2 word.toNat

def ofUInt32 (word : UInt32) : Bytes := encode 4 word.toNat

def ofUInt64 (word : UInt64) : Bytes := encode 8 word.toNat

def toUInt16 (bytes : Bytes) : UInt16 := UInt16.ofNat (decode bytes)

def toUInt32 (bytes : Bytes) : UInt32 := UInt32.ofNat (decode bytes)

def toUInt64 (bytes : Bytes) : UInt64 := UInt64.ofNat (decode bytes)

@[simp] theorem length_ofUInt16 (word : UInt16) : (ofUInt16 word).length = 2 := length_encode ..

@[simp] theorem length_ofUInt32 (word : UInt32) : (ofUInt32 word).length = 4 := length_encode ..

@[simp] theorem length_ofUInt64 (word : UInt64) : (ofUInt64 word).length = 8 := length_encode ..

@[simp] theorem toUInt16_ofUInt16 (word : UInt16) : toUInt16 (ofUInt16 word) = word := by
  have fits : word.toNat < count 2 := word.toNat_lt
  rw [toUInt16, ofUInt16, decode_encode_of_lt fits, UInt16.ofNat_toNat]

@[simp] theorem toUInt32_ofUInt32 (word : UInt32) : toUInt32 (ofUInt32 word) = word := by
  have fits : word.toNat < count 4 := word.toNat_lt
  rw [toUInt32, ofUInt32, decode_encode_of_lt fits, UInt32.ofNat_toNat]

@[simp] theorem toUInt64_ofUInt64 (word : UInt64) : toUInt64 (ofUInt64 word) = word := by
  have fits : word.toNat < count 8 := word.toNat_lt
  rw [toUInt64, ofUInt64, decode_encode_of_lt fits, UInt64.ofNat_toNat]

theorem ofUInt16_toUInt16 {bytes : Bytes} (width : bytes.length = 2) :
    ofUInt16 (toUInt16 bytes) = bytes := by
  have bound := decode_lt bytes
  rw [width] at bound
  rw [ofUInt16, toUInt16, UInt16.toNat_ofNat_of_lt' bound, ← width, encode_decode]

theorem ofUInt32_toUInt32 {bytes : Bytes} (width : bytes.length = 4) :
    ofUInt32 (toUInt32 bytes) = bytes := by
  have bound := decode_lt bytes
  rw [width] at bound
  rw [ofUInt32, toUInt32, UInt32.toNat_ofNat_of_lt' bound, ← width, encode_decode]

theorem ofUInt64_toUInt64 {bytes : Bytes} (width : bytes.length = 8) :
    ofUInt64 (toUInt64 bytes) = bytes := by
  have bound := decode_lt bytes
  rw [width] at bound
  rw [ofUInt64, toUInt64, UInt64.toNat_ofNat_of_lt' bound, ← width, encode_decode]

end LittleEndian

end RecordRing
