import RecordRing.Proofs.Framing

set_option autoImplicit false

namespace RecordRing

namespace LittleEndian

/-- The byte of an encoding at a place of it. -/
theorem getElem?_encode {width index : Nat} (inside : index < width) (value : Nat) :
    (encode width value)[index]? = some (UInt8.ofNat (value / count index)) := by
  induction width generalizing value index with
  | zero => exact absurd inside (Nat.not_lt_zero _)
  | succ width ih =>
      cases index with
      | zero => rw [encode_succ, List.getElem?_cons_zero, count_zero, Nat.div_one]
      | succ index =>
          rw [encode_succ, List.getElem?_cons_succ, ih (Nat.lt_of_succ_lt_succ inside), count_succ,
            Nat.div_div_eq_div_mul]

/-- The bytes of a string from a place on, so many of them, are those of a number. -/
def StandsAt (bytes : Bytes) (place width value : Nat) : Prop :=
  ∀ index < width, bytes[place + index]? = some (UInt8.ofNat (value / count index))

theorem standsAt_iff {bytes : Bytes} {place width value : Nat} :
    StandsAt bytes place width value ↔ (bytes.drop place).take width = encode width value := by
  constructor
  · intro stands
    refine List.ext_getElem? fun index => ?_
    by_cases inside : index < width
    · rw [List.getElem?_take_of_lt inside, List.getElem?_drop, stands index inside,
        getElem?_encode inside]
    · rw [List.getElem?_eq_none (by rw [List.length_take]; omega),
        List.getElem?_eq_none (by rw [length_encode]; omega)]
  · intro same index inside
    rw [← List.getElem?_drop, ← List.getElem?_take_of_lt inside, same, getElem?_encode inside]

/-- Fields stored one after another, each given by its width and its value. -/
def encodeRow : List (Nat × Nat) → Bytes
  | [] => []
  | (width, value) :: rest => encode width value ++ encodeRow rest

def RowStandsAt (bytes : Bytes) : Nat → List (Nat × Nat) → Prop
  | place, [] => bytes.length = place
  | place, (width, value) :: rest =>
      StandsAt bytes place width value ∧ RowStandsAt bytes (place + width) rest

theorem rowStandsAt_iff {bytes : Bytes} {place : Nat} {row : List (Nat × Nat)} :
    RowStandsAt bytes place row ↔ place ≤ bytes.length ∧ bytes.drop place = encodeRow row := by
  induction row generalizing place with
  | nil =>
      rw [RowStandsAt, encodeRow, List.drop_eq_nil_iff]
      omega
  | cons field rest ih =>
      obtain ⟨width, value⟩ := field
      rw [RowStandsAt, encodeRow, ih, standsAt_iff, ← List.drop_drop]
      constructor
      · rintro ⟨first, long, others⟩
        exact ⟨by omega, by rw [← first, ← others, List.take_append_drop]⟩
      · rintro ⟨long, same⟩
        have counted : (bytes.drop place).length = width + (encodeRow rest).length := by
          rw [same, List.length_append, length_encode]
        rw [List.length_drop] at counted
        refine ⟨?_, by omega, ?_⟩
        · rw [same, List.take_left' (length_encode ..)]
        · rw [same, List.drop_left' (length_encode ..)]

/-- A string is the encoding of a row of fields exactly when these stand in it. -/
theorem eq_encodeRow_iff {bytes : Bytes} {row : List (Nat × Nat)} :
    bytes = encodeRow row ↔ RowStandsAt bytes 0 row := by
  rw [rowStandsAt_iff, List.drop_zero]
  exact (and_iff_right (Nat.zero_le _)).symm

end LittleEndian

open LittleEndian

namespace RecordHeader

structure StoredAs (header : RecordHeader) (bytes : Bytes) : Prop where
  kind : StandsAt bytes 0 2 header.kind.toNat
  flags : StandsAt bytes 2 2 header.flags.toNat
  length : StandsAt bytes 4 4 header.length.toNat
  timestamp : StandsAt bytes 8 8 header.timestamp.toNat
  width : bytes.length = 16

theorem encode_eq_encodeRow (header : RecordHeader) :
    header.encode = encodeRow [(2, header.kind.toNat), (2, header.flags.toNat),
      (4, header.length.toNat), (8, header.timestamp.toNat)] := by
  simp only [encodeRow, List.append_nil]
  rfl

theorem storedAs_iff {header : RecordHeader} {bytes : Bytes} :
    header.StoredAs bytes ↔ bytes = header.encode := by
  rw [encode_eq_encodeRow, eq_encodeRow_iff]
  constructor
  · rintro ⟨kind, flags, length, timestamp, width⟩
    exact ⟨kind, flags, length, timestamp, width⟩
  · rintro ⟨kind, flags, length, timestamp, width⟩
    exact ⟨kind, flags, length, timestamp, width⟩

/-- Sixteen bytes are decoded to the one header that is stored as they are. -/
theorem decode_eq_iff {header : RecordHeader} {bytes : Bytes} (width : bytes.length = size) :
    decode bytes = header ↔ header.StoredAs bytes := by
  rw [storedAs_iff]
  constructor
  · rintro rfl
    exact (encode_decode width).symm
  · rintro rfl
    exact decode_encode header

end RecordHeader

namespace DropSummary

structure StoredAs (summary : DropSummary) (bytes : Bytes) : Prop where
  lost : StandsAt bytes 0 4 summary.lost.toNat
  start : StandsAt bytes 4 8 summary.start.toNat
  finish : StandsAt bytes 12 8 summary.finish.toNat
  width : bytes.length = 20

theorem encode_eq_encodeRow (summary : DropSummary) :
    summary.encode = encodeRow
      [(4, summary.lost.toNat), (8, summary.start.toNat), (8, summary.finish.toNat)] := by
  simp only [encodeRow, List.append_nil]
  rfl

theorem storedAs_iff {summary : DropSummary} {bytes : Bytes} :
    summary.StoredAs bytes ↔ bytes = summary.encode := by
  rw [encode_eq_encodeRow, eq_encodeRow_iff]
  constructor
  · rintro ⟨lost, start, finish, width⟩
    exact ⟨lost, start, finish, width⟩
  · rintro ⟨lost, start, finish, width⟩
    exact ⟨lost, start, finish, width⟩

/-- A string is decoded to a summary exactly when it is the encoding of that summary. -/
theorem decode?_eq_some_iff {summary : DropSummary} {bytes : Bytes} :
    decode? bytes = some summary ↔ bytes = summary.encode := by
  constructor
  · exact eq_encode_of_decode?
  · rintro rfl
    exact decode?_encode summary

theorem decode?_eq_none_iff {bytes : Bytes} : decode? bytes = none ↔ bytes.length ≠ 20 := by
  rw [← Option.not_isSome_iff_eq_none, decode?_isSome_iff]
  rfl

end DropSummary

/-- Headers and the strings of sixteen bytes stand for one another, and so do drop summaries and the
strings of twenty; each field has its own place in them. What a header counts of a payload and itself is
what both take together. -/
theorem formats_exact :
    (∀ header, RecordHeader.decode header.encode = header ∧ header.StoredAs header.encode) ∧
      (∀ bytes : Bytes, bytes.length = 16 → (RecordHeader.decode bytes).encode = bytes ∧
        ∀ header, RecordHeader.decode bytes = header ↔ header.StoredAs bytes) ∧
      (∀ summary, DropSummary.decode? summary.encode = some summary) ∧
      (∀ bytes summary, (DropSummary.decode? bytes = some summary ↔ bytes = summary.encode) ∧
        (DropSummary.decode? bytes = some summary ↔ summary.StoredAs bytes)) ∧
      (∀ bytes, DropSummary.decode? bytes = none ↔ bytes.length ≠ 20) ∧
      (∀ header : RecordHeader, header.span.toNat = 16 + header.length.toNat) ∧
      (∀ (length : UInt32) (now : UInt64) (payload : Bytes), payload.length = length.toNat →
        ((RecordHeader.packet length now).encode ++ payload).length =
          (RecordHeader.packet length now).span.toNat) ∧
      (∀ (now : UInt64) (summary : DropSummary),
        ((RecordHeader.dropSummary now).encode ++ summary.encode).length =
          (RecordHeader.dropSummary now).span.toNat) := by
  refine ⟨?_, ?_, ?_, ?_, ?_, ?_, ?_, ?_⟩
  · exact fun header => ⟨header.decode_encode, RecordHeader.storedAs_iff.mpr rfl⟩
  · exact fun bytes width =>
      ⟨RecordHeader.encode_decode width, fun header => RecordHeader.decode_eq_iff width⟩
  · exact DropSummary.decode?_encode
  · exact fun bytes summary => ⟨DropSummary.decode?_eq_some_iff,
      DropSummary.decode?_eq_some_iff.trans DropSummary.storedAs_iff.symm⟩
  · exact fun bytes => DropSummary.decode?_eq_none_iff
  · exact RecordHeader.span_toNat
  · intro length now payload counted
    exact (Record.packet (.packet length now) payload).length_encode ⟨counted.symm, rfl⟩
  · intro now summary
    exact (Record.drop (.dropSummary now) summary).length_encode
      ⟨(DropSummary.length_encode summary).symm, rfl⟩

end RecordRing
