import RecordRing.Buffer

set_option autoImplicit false

namespace RecordRing

namespace LoadPattern

/-- Bytes of the timestamp and the sequence number. -/
def minPayload : Nat := 16

/-- Spreads the sequence number over a word. -/
def multiplier : UInt64 := 0x123456789ABCDEF0

/-- The full word at a place, counted in words from the start of the payload. -/
def wordAt (sequence : UInt64) (index : Nat) : UInt64 :=
  sequence * multiplier + UInt64.ofNat index

/-- A byte behind the last full word, by its place in the payload. -/
def tailByte (sequence : UInt64) (index : Nat) : UInt8 :=
  (sequence + UInt64.ofNat index).toUInt8

/-- The places of the full words after the sequence number. -/
def wordPlaces (size : Nat) : List Nat :=
  List.range' 2 (size / 8 - 2)

/-- The places of the bytes behind the last full word. -/
def tailPlaces (size : Nat) : List Nat :=
  List.range' (size / 8 * 8) (size % 8)

def fill (buffer : Buffer) (timestamp sequence : UInt64) : Buffer :=
  let stamped := Buffer.write buffer 0 (LittleEndian.ofUInt64 timestamp)
  let numbered := Buffer.write stamped 8 (LittleEndian.ofUInt64 sequence)
  let worded := (wordPlaces buffer.size).foldl
    (fun held index => Buffer.write held (index * 8) (LittleEndian.ofUInt64 (wordAt sequence index)))
    numbered
  (tailPlaces buffer.size).foldl
    (fun held index => held.set index (tailByte sequence index)) worded

/-- Overwrite a buffer with the pattern, if there is room for timestamp and sequence number. -/
def fill? (buffer : Buffer) (timestamp sequence : UInt64) : Option Buffer :=
  if buffer.size < minPayload then none else some (fill buffer timestamp sequence)

def tooShortMessage : String := "payload too short"

/-- Why a payload does not follow the pattern. -/
inductive Fault where
  | tooShort (length : Nat)
  | mismatch (sequence : UInt64) (offset : Nat)
  deriving DecidableEq, Repr

def Fault.message : Fault → String
  | tooShort length => s!"payload of {length} bytes is shorter than the {minPayload}-byte prefix"
  | mismatch sequence offset =>
      s!"payload for seq {sequence} differs from its pattern at byte {offset}"

def readWord (payload : Buffer) (index : Nat) : UInt64 :=
  LittleEndian.toUInt64 (Buffer.read payload (index * 8) 8)

/-- The timestamp and the sequence number of a payload that follows the pattern. The first place
that differs is reported: the start of a word, or a byte behind the last word. -/
def verify (payload : Buffer) : Except Fault (UInt64 × UInt64) :=
  if payload.size < minPayload then
    .error (.tooShort payload.size)
  else
    let sequence := readWord payload 1
    match (wordPlaces payload.size).find? fun index =>
        readWord payload index != wordAt sequence index with
    | some index => .error (.mismatch sequence (index * 8))
    | none =>
        match (tailPlaces payload.size).find? fun index =>
            payload.get? index != some (tailByte sequence index) with
        | some index => .error (.mismatch sequence index)
        | none => .ok (readWord payload 0, sequence)

end LoadPattern

end RecordRing
