import RecordRing.Record

set_option autoImplicit false

namespace RecordRing

namespace RecordHeader

theorem recordKind?_eq_packet_iff (header : RecordHeader) :
    header.recordKind? = some .packet ↔ header.kind = 1 :=
  RecordKind.ofCode?_eq_some_iff

theorem recordKind?_eq_drop_iff (header : RecordHeader) :
    header.recordKind? = some .drop ↔ header.kind = 0xFFFF :=
  RecordKind.ofCode?_eq_some_iff

end RecordHeader

theorem DropSummary.decode?_isSome_iff (bytes : Bytes) :
    (decode? bytes).isSome ↔ bytes.length = size := by
  unfold decode?
  split <;> simp [*]

namespace Record

/-- The bytes of records stored one after another. -/
def stream (records : List Record) : Bytes :=
  records.flatMap encode

@[simp] theorem stream_nil : stream [] = [] := rfl

@[simp] theorem stream_cons (record : Record) (records : List Record) :
    stream (record :: records) = record.encode ++ stream records := rfl

@[simp] theorem stream_append (front back : List Record) :
    stream (front ++ back) = stream front ++ stream back :=
  List.flatMap_append

theorem length_encode_eq (record : Record) :
    record.encode.length = RecordHeader.size + record.body.length := by
  rw [encode, List.length_append, RecordHeader.length_encode]

/-- Every record takes at least a header. -/
theorem size_le_length_encode (record : Record) : RecordHeader.size ≤ record.encode.length := by
  rw [length_encode_eq]
  exact Nat.le_add_right ..

theorem length_le_length_stream (records : List Record) :
    RecordHeader.size * records.length ≤ (stream records).length := by
  induction records with
  | nil => exact Nat.le_refl 0
  | cons record records ih =>
      have least := record.size_le_length_encode
      rw [stream_cons, List.length_append, List.length_cons, Nat.mul_succ]
      omega

/-- The record that a string begins with: a header of a known kind, then as many bytes as it counts,
which are twenty for a summary. -/
def front? (bytes : Bytes) : Option Record :=
  let header := RecordHeader.decode (bytes.take RecordHeader.size)
  let body := (bytes.drop RecordHeader.size).take header.length.toNat
  if RecordHeader.size + header.length.toNat ≤ bytes.length then
    match header.recordKind? with
    | none => none
    | some .packet => some (.packet header body)
    | some .drop => (DropSummary.decode? body).map (.drop header)
  else
    none

/-- What a record was framed as is found at the front again, whatever follows. -/
theorem front?_encode_append {record : Record} (framed : record.WellFormed) (rest : Bytes) :
    front? (record.encode ++ rest) = some record := by
  have width := record.header.length_encode
  have header : (record.encode ++ rest).take RecordHeader.size = record.header.encode := by
    rw [encode, List.append_assoc, List.take_left' width]
  have body : ((record.encode ++ rest).drop RecordHeader.size).take record.header.length.toNat =
      record.body := by
    rw [encode, List.append_assoc, List.drop_left' width, framed.1, List.take_left]
  have long : RecordHeader.size + record.header.length.toNat ≤ (record.encode ++ rest).length := by
    rw [List.length_append, length_encode_eq, framed.1]
    exact Nat.le_add_right ..
  simp only [front?, header, RecordHeader.decode_encode, body, if_pos long, framed.2]
  cases record with
  | packet header payload => rfl
  | drop header summary =>
      simp only [Record.body, DropSummary.decode?_encode, Option.map_some, Record.header]

/-- A string begins with a record only by beginning with its encoding. -/
theorem eq_append_of_front? {bytes : Bytes} {record : Record} (found : front? bytes = some record) :
    record.WellFormed ∧ bytes = record.encode ++ bytes.drop record.encode.length := by
  simp only [front?] at found
  generalize decoded : RecordHeader.decode (bytes.take RecordHeader.size) = header at found
  split at found
  · rename_i long
    have width : (bytes.take RecordHeader.size).length = RecordHeader.size := by
      rw [List.length_take]
      omega
    have front : bytes.take RecordHeader.size = header.encode := by
      rw [← decoded, RecordHeader.encode_decode width]
    have counted : ((bytes.drop RecordHeader.size).take header.length.toNat).length =
        header.length.toNat := by
      rw [List.length_take, List.length_drop]
      omega
    -- Both kinds split the string at the same two places.
    have joined : ∀ other : Record, other.header = header →
        other.body = (bytes.drop RecordHeader.size).take header.length.toNat →
        bytes = other.encode ++ bytes.drop other.encode.length := by
      intro other sameHeader sameBody
      have whole : other.encode = bytes.take other.encode.length := by
        rw [length_encode_eq, sameBody, counted, List.take_add, front, ← sameBody, ← sameHeader, encode]
      conv => lhs; rw [← List.take_append_drop other.encode.length bytes, ← whole]
    split at found
    · cases found
    · rename_i kind
      cases found
      exact ⟨⟨counted.symm, kind⟩, joined _ rfl rfl⟩
    · rename_i kind
      obtain ⟨summary, held, rfl⟩ := Option.map_eq_some_iff.mp found
      have body := DropSummary.eq_encode_of_decode? held
      refine ⟨⟨?_, kind⟩, joined _ rfl body.symm⟩
      change header.length.toNat = summary.encode.length
      rw [← body, counted]
  · cases found

/-- Whether a string begins with a record is told by its first sixteen bytes and its length. -/
theorem front?_isSome_iff (bytes : Bytes) :
    (front? bytes).isSome ↔
      let header := RecordHeader.decode (bytes.take RecordHeader.size)
      RecordHeader.size + header.length.toNat ≤ bytes.length ∧
        (header.kind = 1 ∨ header.kind = 0xFFFF) ∧
        (header.kind = 0xFFFF → header.length = 20) := by
  simp only [front?]
  generalize RecordHeader.decode (bytes.take RecordHeader.size) = header
  split
  · rename_i long
    have counted : ((bytes.drop RecordHeader.size).take header.length.toNat).length =
        header.length.toNat := by
      rw [List.length_take, List.length_drop]
      omega
    have twenty : header.length.toNat = DropSummary.size ↔ header.length = 20 := by
      rw [← UInt32.toNat_inj]
      rfl
    split
    · rename_i unknown
      have first : header.kind ≠ 1 := by
        intro one
        rw [(header.recordKind?_eq_packet_iff).mpr one] at unknown
        cases unknown
      have second : header.kind ≠ 0xFFFF := by
        intro last
        rw [(header.recordKind?_eq_drop_iff).mpr last] at unknown
        cases unknown
      simp [first, second]
    · rename_i kind
      have one := (header.recordKind?_eq_packet_iff).mp kind
      simp [one, long]
    · rename_i kind
      have last := (header.recordKind?_eq_drop_iff).mp kind
      simp [last, long, DropSummary.decode?_isSome_iff, counted, twenty, -List.length_take]
  · rename_i short
    simp [short]

end Record

end RecordRing
