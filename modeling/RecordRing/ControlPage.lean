import RecordRing.RingPlan

set_option autoImplicit false

namespace RecordRing

structure ControlPage where
  /-- One past the last byte published. -/
  head : UInt64
  /-- The next byte to be read. -/
  tail : UInt64
  capacity : UInt64
  hi : UInt32
  lo : UInt32
  flags : UInt32
  reserved : UInt32
  episodeStart : UInt64
  episodeCount : UInt64
  deriving DecidableEq, Repr

namespace ControlPage

/-- Bytes the fields take at the start of the page. -/
def size : Nat := 56

/-- The page of a ring nothing was written to. -/
def fresh (capacity : UInt64) (hi lo : UInt32) : ControlPage :=
  ⟨0, 0, capacity, hi, lo, 0, 0, 0, 0⟩

/-- The fields in the order of their places, every one little-endian. -/
def encode (page : ControlPage) : Bytes :=
  LittleEndian.ofUInt64 page.head ++ (LittleEndian.ofUInt64 page.tail ++
    (LittleEndian.ofUInt64 page.capacity ++ (LittleEndian.ofUInt32 page.hi ++
      (LittleEndian.ofUInt32 page.lo ++ (LittleEndian.ofUInt32 page.flags ++
        (LittleEndian.ofUInt32 page.reserved ++ (LittleEndian.ofUInt64 page.episodeStart ++
          LittleEndian.ofUInt64 page.episodeCount)))))))

/-- The fields stored in the first bytes of a page. -/
def decode (bytes : Bytes) : ControlPage where
  head := LittleEndian.toUInt64 (bytes.take 8)
  tail := LittleEndian.toUInt64 ((bytes.drop 8).take 8)
  capacity := LittleEndian.toUInt64 ((bytes.drop 16).take 8)
  hi := LittleEndian.toUInt32 ((bytes.drop 24).take 4)
  lo := LittleEndian.toUInt32 ((bytes.drop 28).take 4)
  flags := LittleEndian.toUInt32 ((bytes.drop 32).take 4)
  reserved := LittleEndian.toUInt32 ((bytes.drop 36).take 4)
  episodeStart := LittleEndian.toUInt64 ((bytes.drop 40).take 8)
  episodeCount := LittleEndian.toUInt64 ((bytes.drop 48).take 8)

@[simp] theorem length_encode (page : ControlPage) : page.encode.length = size := by
  simp [encode, size]

@[simp] theorem decode_encode (page : ControlPage) : decode page.encode = page := by
  simp [decode, encode, List.drop_append, List.drop_of_length_le, List.take_of_length_le]

/-- Bytes published and not yet read. A tail beyond the head shows as a number near 2^64. -/
def used (page : ControlPage) : UInt64 :=
  page.head - page.tail

def isDropping (page : ControlPage) : Bool :=
  page.flags &&& 1 != 0

/-- Open or close the drop episode; the other flags stay. -/
def setDropping (page : ControlPage) (dropping : Bool) : ControlPage :=
  { page with flags := if dropping then page.flags ||| 1 else page.flags &&& ~~~1 }

/-- Check a page found in a region of which `view` bytes are mapped. -/
def validate (page : ControlPage) (view : UInt64) : Except RingError Unit :=
  if !isPowerOfTwo page.capacity then
    .error (.badLayout .capacityNotPowerOfTwo)
  else if view < bytesForRing page.capacity then
    .error (.viewTooSmall view (bytesForRing page.capacity))
  else if page.lo > page.hi then
    .error (.badLayout .watermarksCrossed)
  else if page.head < page.tail || page.used > page.capacity then
    .error (.badLayout .cursorsOutOfRange)
  else
    .ok ()

/-- One field, for a party that overwrites the page from outside. -/
inductive Field where
  | head
  | tail
  | capacity
  | hi
  | lo
  | flags
  | reserved
  | episodeStart
  | episodeCount
  deriving DecidableEq, Repr

def Field.offset : Field → Nat
  | head => 0
  | tail => 8
  | capacity => 16
  | hi => 24
  | lo => 28
  | flags => 32
  | reserved => 36
  | episodeStart => 40
  | episodeCount => 48

/-- The bytes that a value has in a field; a narrow field keeps the low half. -/
def Field.encode (field : Field) (value : UInt64) : Bytes :=
  match field with
  | hi | lo | flags | reserved => LittleEndian.ofUInt32 value.toUInt32
  | _ => LittleEndian.ofUInt64 value

def set (page : ControlPage) (field : Field) (value : UInt64) : ControlPage :=
  match field with
  | .head => { page with head := value }
  | .tail => { page with tail := value }
  | .capacity => { page with capacity := value }
  | .hi => { page with hi := value.toUInt32 }
  | .lo => { page with lo := value.toUInt32 }
  | .flags => { page with flags := value.toUInt32 }
  | .reserved => { page with reserved := value.toUInt32 }
  | .episodeStart => { page with episodeStart := value }
  | .episodeCount => { page with episodeCount := value }

end ControlPage

end RecordRing
