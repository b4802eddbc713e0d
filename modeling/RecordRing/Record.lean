import RecordRing.LittleEndian

set_option autoImplicit false

namespace RecordRing

inductive RecordKind where
  | packet
  | drop
  deriving DecidableEq, Repr

namespace RecordKind

/-- The number that stands for a kind in a header. -/
def code : RecordKind → UInt16
  | packet => 1
  | drop => 0xFFFF

/-- Only the two known numbers stand for a kind. -/
def ofCode? (code : UInt16) : Option RecordKind :=
  if code = 1 then some packet else if code = 0xFFFF then some drop else none

@[simp] theorem ofCode?_code (kind : RecordKind) : ofCode? kind.code = some kind := by
  cases kind <;> rfl

theorem ofCode?_eq_some_iff {number : UInt16} {kind : RecordKind} :
    ofCode? number = some kind ↔ number = kind.code := by
  constructor
  · unfold ofCode?
    split
    · rename_i one
      rintro ⟨⟩
      exact one
    · split
      · rename_i last
        rintro ⟨⟩
        exact last
      · rintro ⟨⟩
  · rintro rfl
    exact ofCode?_code kind

end RecordKind

/-- The fixed part in front of every payload. -/
structure RecordHeader where
  kind : UInt16
  flags : UInt16
  /-- Bytes of payload that follow. -/
  length : UInt32
  timestamp : UInt64
  deriving DecidableEq, Repr

namespace RecordHeader

def size : Nat := 16

/-- The header of a packet has no flags. -/
def packet (length : UInt32) (timestamp : UInt64) : RecordHeader :=
  ⟨RecordKind.packet.code, 0, length, timestamp⟩

/-- The header of a drop summary; its payload always takes twenty bytes. -/
def dropSummary (timestamp : UInt64) : RecordHeader :=
  ⟨RecordKind.drop.code, 0, 20, timestamp⟩

def recordKind? (header : RecordHeader) : Option RecordKind :=
  RecordKind.ofCode? header.kind

/-- Bytes the record takes in the ring, header included. -/
def span (header : RecordHeader) : UInt64 :=
  16 + header.length.toUInt64

theorem span_toNat (header : RecordHeader) : header.span.toNat = size + header.length.toNat := by
  have bound := header.length.toNat_lt
  simp only [span, size, UInt64.toNat_add, UInt32.toNat_toUInt64]
  exact Nat.mod_eq_of_lt (by change 16 + _ < _; omega)

/-- The header as stored, every field little-endian. -/
def encode (header : RecordHeader) : Bytes :=
  LittleEndian.ofUInt16 header.kind ++ (LittleEndian.ofUInt16 header.flags ++
    (LittleEndian.ofUInt32 header.length ++ LittleEndian.ofUInt64 header.timestamp))

/-- The header stored in sixteen bytes. -/
def decode (bytes : Bytes) : RecordHeader where
  kind := LittleEndian.toUInt16 (bytes.take 2)
  flags := LittleEndian.toUInt16 ((bytes.drop 2).take 2)
  length := LittleEndian.toUInt32 ((bytes.drop 4).take 4)
  timestamp := LittleEndian.toUInt64 ((bytes.drop 8).take 8)

@[simp] theorem length_encode (header : RecordHeader) : header.encode.length = size := by
  simp [encode, size]

@[simp] theorem decode_encode (header : RecordHeader) : decode header.encode = header := by
  simp [decode, encode, List.drop_append, List.drop_of_length_le, List.take_of_length_le]

theorem encode_decode {bytes : Bytes} (width : bytes.length = size) :
    (decode bytes).encode = bytes := by
  simp only [size] at width
  simp only [encode, decode]
  rw [LittleEndian.ofUInt16_toUInt16 (by simp; omega), LittleEndian.ofUInt16_toUInt16 (by simp; omega),
    LittleEndian.ofUInt32_toUInt32 (by simp; omega), LittleEndian.ofUInt64_toUInt64 (by simp; omega)]
  have last : (bytes.drop 8).take 8 = bytes.drop 8 := List.take_of_length_le (by simp; omega)
  rw [last, show bytes.drop 8 = (bytes.drop 4).drop 4 by simp, List.take_append_drop,
    show bytes.drop 4 = (bytes.drop 2).drop 2 by simp, List.take_append_drop, List.take_append_drop]

end RecordHeader

/-- How many pushes an episode lost, and when it began and ended. -/
structure DropSummary where
  lost : UInt32
  start : UInt64
  finish : UInt64
  deriving DecidableEq, Repr

namespace DropSummary

def size : Nat := 20

def recordSize : Nat := RecordHeader.size + size

/-- The summary as stored, every field little-endian. -/
def encode (summary : DropSummary) : Bytes :=
  LittleEndian.ofUInt32 summary.lost ++
    (LittleEndian.ofUInt64 summary.start ++ LittleEndian.ofUInt64 summary.finish)

/-- Only twenty bytes hold a summary. -/
def decode? (bytes : Bytes) : Option DropSummary :=
  if bytes.length = size then
    some {
      lost := LittleEndian.toUInt32 (bytes.take 4)
      start := LittleEndian.toUInt64 ((bytes.drop 4).take 8)
      finish := LittleEndian.toUInt64 ((bytes.drop 12).take 8) }
  else
    none

@[simp] theorem length_encode (summary : DropSummary) : summary.encode.length = size := by
  simp [encode, size]

@[simp] theorem decode?_encode (summary : DropSummary) :
    decode? summary.encode = some summary := by
  rw [decode?, if_pos (length_encode summary)]
  simp [encode, List.drop_append, List.drop_of_length_le, List.take_of_length_le]

theorem eq_encode_of_decode? {bytes : Bytes} {summary : DropSummary}
    (decoded : decode? bytes = some summary) : bytes = summary.encode := by
  unfold decode? at decoded
  split at decoded
  · rename_i width
    simp only [size] at width
    cases decoded
    simp only [encode]
    rw [LittleEndian.ofUInt32_toUInt32 (by simp; omega),
      LittleEndian.ofUInt64_toUInt64 (by simp; omega),
      LittleEndian.ofUInt64_toUInt64 (by simp; omega)]
    have last : (bytes.drop 12).take 8 = bytes.drop 12 := List.take_of_length_le (by simp; omega)
    rw [last, show bytes.drop 12 = (bytes.drop 4).drop 8 by simp, List.take_append_drop,
      List.take_append_drop]
  · cases decoded

end DropSummary

/-- A record as a reader hands it on. -/
inductive Record where
  | packet (header : RecordHeader) (payload : Bytes)
  | drop (header : RecordHeader) (summary : DropSummary)
  deriving DecidableEq, Repr

namespace Record

def header : Record → RecordHeader
  | packet header _ => header
  | drop header _ => header

def body : Record → Bytes
  | packet _ payload => payload
  | drop _ summary => summary.encode

def encode (record : Record) : Bytes :=
  record.header.encode ++ record.body

/-- A record is framed right when its header names its kind and counts its body. -/
def WellFormed (record : Record) : Prop :=
  record.header.length.toNat = record.body.length ∧
    record.header.recordKind? = some (match record with
      | packet .. => RecordKind.packet
      | drop .. => RecordKind.drop)

theorem length_encode (record : Record) (framed : record.WellFormed) :
    record.encode.length = record.header.span.toNat := by
  rw [encode, List.length_append, RecordHeader.length_encode, RecordHeader.span_toNat, framed.1]

end Record

end RecordRing
