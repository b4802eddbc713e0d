import RecordRing.Proofs.PatternRoundTrip

set_option autoImplicit false

namespace RecordRing

namespace Buffer

variable {left right : Buffer}

theorem read_eq_iff {offset length : Nat} :
    read left offset length = read right offset length ↔
      ∀ index, offset ≤ index → index < offset + length → left.get? index = right.get? index := by
  refine ⟨?_, read_congr⟩
  intro same index lower upper
  have inside : index - offset < length := by omega
  have found := congrArg (fun bytes : Bytes => bytes[index - offset]?) same
  rw [getElem?_read _ _ _ _ inside, getElem?_read _ _ _ _ inside, Nat.add_sub_cancel' lower] at found
  exact found

theorem toBytes_eq_iff :
    left.toBytes = right.toBytes ↔ ∀ index, left.get? index = right.get? index := by
  rw [List.ext_getElem?_iff]
  refine forall_congr' fun index => ?_
  rw [← get?_ofBytes, ← get?_ofBytes, get?_ofBytes_toBytes, get?_ofBytes_toBytes]

end Buffer

namespace LoadPattern

variable {payload buffer pattern : Buffer} {size offset length : Nat}

theorem readWord_eq_iff {index : Nat} (size : payload.size = buffer.size)
    (inside : index < payload.size / 8) :
    readWord payload index = readWord buffer index ↔
      Buffer.read payload (index * 8) 8 = Buffer.read buffer (index * 8) 8 := by
  have long : (Buffer.read payload (index * 8) 8).length = 8 := by
    rw [Buffer.length_read]
    omega
  have longOther : (Buffer.read buffer (index * 8) 8).length = 8 := by
    rw [Buffer.length_read]
    omega
  refine ⟨?_, congrArg LittleEndian.toUInt64⟩
  intro same
  rw [← LittleEndian.ofUInt64_toUInt64 long, ← LittleEndian.ofUInt64_toUInt64 longOther]
  exact congrArg LittleEndian.ofUInt64 same

/-- The pieces that verification compares: the full words behind the sequence number, and one by one
the bytes behind the last full word. -/
inductive Piece (size : Nat) : Nat → Nat → Prop
  | word {index : Nat} (behind : 2 ≤ index) (inside : index < size / 8) : Piece size (index * 8) 8
  | byte {offset : Nat} (behind : size / 8 * 8 ≤ offset) (inside : offset < size) : Piece size offset 1

/-- Up to this offset the payload is as its pattern, and there starts a piece that is not. -/
structure FirstFault (payload pattern : Buffer) (offset : Nat) : Prop where
  before : ∀ index, index < offset → payload.get? index = pattern.get? index
  differs : ∃ length, Piece payload.size offset length ∧
    Buffer.read payload offset length ≠ Buffer.read pattern offset length

theorem FirstFault.not_same (fault : FirstFault payload pattern offset)
    (same : ∀ index, payload.get? index = pattern.get? index) : False := by
  obtain ⟨length, -, differs⟩ := fault.differs
  exact differs (Buffer.read_congr fun index _ _ => same index)

/-- Pieces do not overlap. -/
theorem Piece.end_le {other otherLength : Nat} (first : Piece size offset length)
    (second : Piece size other otherLength) (before : offset < other) : offset + length ≤ other := by
  cases first with
  | word behind inside => cases second with
    | word behindOther insideOther => omega
    | byte behindOther insideOther => omega
  | byte behind inside => omega

/-- So there is one first fault only. -/
theorem FirstFault.unique {other : Nat} (fault : FirstFault payload pattern offset)
    (second : FirstFault payload pattern other) : offset = other := by
  obtain ⟨length, piece, differs⟩ := fault.differs
  obtain ⟨otherLength, otherPiece, otherDiffers⟩ := second.differs
  rcases Nat.lt_trichotomy offset other with less | same | more
  · have ends := piece.end_le otherPiece less
    exact absurd (Buffer.read_congr fun index _ inside => second.before index (by omega)) differs
  · exact same
  · have ends := otherPiece.end_le piece more
    exact absurd (Buffer.read_congr fun index _ inside => fault.before index (by omega)) otherDiffers

/-- The pattern that a payload announces, in a buffer of its size. -/
def announced (payload buffer : Buffer) : Buffer :=
  fill buffer (readWord payload 0) (readWord payload 1)

theorem size_announced (size : buffer.size = payload.size) :
    payload.size = (announced payload buffer).size := by
  rw [announced, size_fill, size]

theorem readWord_announced (size : buffer.size = payload.size) (room : minPayload ≤ payload.size)
    {index : Nat} (inside : index < payload.size / 8) :
    readWord (announced payload buffer) index =
      if index < 2 then readWord payload index else wordAt (readWord payload 1) index := by
  rw [announced, readWord_fill (by rw [size]; exact room) _ _ (by rw [size]; exact inside)]
  by_cases zero : index = 0
  · rw [if_pos zero, if_pos (by omega), zero]
  · by_cases one : index = 1
    · rw [if_neg zero, if_pos one, if_pos (by omega), one]
    · rw [if_neg zero, if_neg one, if_neg (by omega)]

theorem get?_announced (size : buffer.size = payload.size) {index : Nat}
    (member : index ∈ tailPlaces payload.size) :
    (announced payload buffer).get? index = some (tailByte (readWord payload 1) index) :=
  get?_fill_tail _ _ (by rw [size]; exact member)

/-- Where words are the same, so are their bytes. -/
theorem get?_eq_of_readWord {count : Nat} (size : payload.size = buffer.size)
    (whole : count ≤ payload.size / 8)
    (same : ∀ index, index < count → readWord payload index = readWord buffer index) {index : Nat}
    (inside : index < count * 8) : payload.get? index = buffer.get? index := by
  have word : index / 8 < count := Nat.div_lt_of_lt_mul (by omega)
  have read := (readWord_eq_iff size (Nat.lt_of_lt_of_le word whole)).mp (same _ word)
  exact Buffer.read_eq_iff.mp read index (by omega) (by omega)

/-- Where the words are those of the number that is announced, so are their bytes. -/
theorem get?_announced_of_words (size : buffer.size = payload.size) (room : minPayload ≤ payload.size)
    {count : Nat} (whole : count ≤ payload.size / 8)
    (good : ∀ index, 2 ≤ index → index < count →
      readWord payload index = wordAt (readWord payload 1) index)
    {index : Nat} (inside : index < count * 8) :
    payload.get? index = (announced payload buffer).get? index := by
  refine get?_eq_of_readWord (size_announced size) whole (fun place before => ?_) inside
  rw [readWord_announced size room (Nat.lt_of_lt_of_le before whole)]
  by_cases small : place < 2
  · rw [if_pos small]
  · rw [if_neg small]
    exact good place (Nat.le_of_not_lt small) before

/-- The first word that is not the announced one starts the first fault. -/
theorem firstFault_of_word (size : buffer.size = payload.size) (room : minPayload ≤ payload.size)
    {index : Nat} (behind : 2 ≤ index) (inside : index < payload.size / 8)
    (bad : readWord payload index ≠ wordAt (readWord payload 1) index)
    (good : ∀ place, 2 ≤ place → place < index →
      readWord payload place = wordAt (readWord payload 1) place) :
    FirstFault payload (announced payload buffer) (index * 8) := by
  refine ⟨fun place => get?_announced_of_words size room (Nat.le_of_lt inside) good, 8,
    .word behind inside, fun read => bad ?_⟩
  rw [(readWord_eq_iff (size_announced size) inside).mpr read, readWord_announced size room inside,
    if_neg (Nat.not_lt.mpr behind)]

/-- Where all words are as announced, so are the bytes in front of the first one behind them that is
not. -/
theorem get?_announced_of_tail (size : buffer.size = payload.size) (room : minPayload ≤ payload.size)
    (words : ∀ index, 2 ≤ index → index < payload.size / 8 →
      readWord payload index = wordAt (readWord payload 1) index)
    {count : Nat} (within : count ≤ payload.size)
    (tail : ∀ index, payload.size / 8 * 8 ≤ index → index < count →
      payload.get? index = some (tailByte (readWord payload 1) index))
    {index : Nat} (before : index < count) :
    payload.get? index = (announced payload buffer).get? index := by
  by_cases word : index < payload.size / 8 * 8
  · exact get?_announced_of_words size room (Nat.le_refl _) words word
  · have behind := Nat.le_of_not_lt word
    rw [get?_announced size (mem_tailPlaces.mpr ⟨behind, Nat.lt_of_lt_of_le before within⟩)]
    exact tail index behind before

/-- A payload with room for a timestamp and a sequence number is accepted if it is as it announces, and
else its first fault is told. -/
theorem verify_announced (size : buffer.size = payload.size) (room : minPayload ≤ payload.size) :
    (verify payload = .ok (readWord payload 0, readWord payload 1) ∧
        ∀ index, payload.get? index = (announced payload buffer).get? index) ∨
      ∃ offset, verify payload = .error (.mismatch (readWord payload 1) offset) ∧
        FirstFault payload (announced payload buffer) offset := by
  unfold verify
  dsimp only
  rw [if_neg (Nat.not_lt.mpr room)]
  cases found : (wordPlaces payload.size).find? fun index =>
      readWord payload index != wordAt (readWord payload 1) index with
  | some index =>
      obtain ⟨bad, member, good⟩ := List.find?_range'_eq_some.mp found
      obtain ⟨behind, inside⟩ := mem_wordPlaces.mp member
      exact .inr ⟨index * 8, rfl, firstFault_of_word size room behind inside (bne_iff_ne.mp bad)
        fun place two before => by simpa using good place two before⟩
  | none =>
      have words : ∀ index, 2 ≤ index → index < payload.size / 8 →
          readWord payload index = wordAt (readWord payload 1) index := by
        intro index behind inside
        simpa using List.find?_eq_none.mp found index (mem_wordPlaces.mpr ⟨behind, inside⟩)
      dsimp only
      cases search : (tailPlaces payload.size).find? fun index =>
          payload.get? index != some (tailByte (readWord payload 1) index) with
      | some index =>
          obtain ⟨bad, member, tail⟩ := List.find?_range'_eq_some.mp search
          obtain ⟨behind, inside⟩ := mem_tailPlaces.mp member
          refine .inr ⟨index, rfl, fun place => ?_, 1, .byte behind inside, fun read => ?_⟩
          · exact get?_announced_of_tail size room words (Nat.le_of_lt inside)
              fun other behind before => by simpa using tail other behind before
          · have equal := Buffer.read_eq_iff.mp read index (Nat.le_refl _) (Nat.lt_succ_self _)
            exact bne_iff_ne.mp bad (equal.trans (get?_announced size member))
      | none =>
          refine .inl ⟨rfl, fun index => ?_⟩
          by_cases inside : index < payload.size
          · refine get?_announced_of_tail size room words (Nat.le_refl _) ?_ inside
            intro other behind before
            simpa using List.find?_eq_none.mp search other (mem_tailPlaces.mpr ⟨behind, before⟩)
          · rw [Buffer.get?_eq_none _ (Nat.le_of_not_lt inside),
              Buffer.get?_eq_none _ (size_announced size ▸ Nat.le_of_not_lt inside)]

theorem verify_short (short : payload.size < minPayload) :
    verify payload = .error (.tooShort payload.size) :=
  if_pos short

theorem verify_eq_tooShort_iff (length : Nat) :
    verify payload = .error (.tooShort length) ↔
      length = payload.size ∧ payload.size < minPayload := by
  rcases Nat.lt_or_ge payload.size minPayload with short | room
  · rw [verify_short short]
    refine ⟨?_, ?_⟩
    · intro told
      cases told
      exact ⟨rfl, short⟩
    · rintro ⟨rfl, -⟩
      rfl
  · refine ⟨?_, fun both => absurd both.2 (Nat.not_lt.mpr room)⟩
    intro told
    rcases verify_announced rfl room with ⟨accepted, -⟩ | ⟨offset, refused, -⟩
    · rw [accepted] at told
      cases told
    · rw [refused] at told
      cases told

/-- What is accepted is what the pattern makes of any buffer. -/
theorem verify_eq_ok_iff (room : minPayload ≤ payload.size) (timestamp sequence : UInt64) :
    verify payload = .ok (timestamp, sequence) ↔
      ∀ buffer : Buffer, buffer.size = payload.size →
        (fill buffer timestamp sequence).toBytes = payload.toBytes := by
  refine ⟨?_, ?_⟩
  · intro told buffer size
    rcases verify_announced size room with ⟨accepted, all⟩ | ⟨offset, refused, -⟩
    · rw [accepted] at told
      cases told
      exact Buffer.toBytes_eq_iff.mpr fun index => (all index).symm
    · rw [refused] at told
      cases told
  · intro filled
    rw [← verify_fill room timestamp sequence]
    exact verify_congr (size_fill ..).symm fun index =>
      (Buffer.toBytes_eq_iff.mp (filled payload rfl) index).symm

/-- What is told of a payload that is not accepted. -/
theorem verify_eq_mismatch_iff (room : minPayload ≤ payload.size) (sequence : UInt64)
    (offset : Nat) :
    verify payload = .error (.mismatch sequence offset) ↔
      sequence = readWord payload 1 ∧ ∀ buffer : Buffer, buffer.size = payload.size →
        FirstFault payload (fill buffer (readWord payload 0) sequence) offset := by
  refine ⟨?_, ?_⟩
  · intro told
    have known : sequence = readWord payload 1 := by
      rcases verify_announced rfl room with ⟨accepted, -⟩ | ⟨other, refused, -⟩
      · rw [accepted] at told
        cases told
      · rw [refused] at told
        cases told
        rfl
    refine ⟨known, fun buffer size => ?_⟩
    rcases verify_announced size room with ⟨accepted, -⟩ | ⟨other, refused, fault⟩
    · rw [accepted] at told
      cases told
    · rw [refused] at told
      cases told
      exact fault
  · rintro ⟨rfl, faults⟩
    have fault : FirstFault payload (announced payload payload) offset := faults payload rfl
    rcases verify_announced rfl room with ⟨accepted, all⟩ | ⟨other, refused, second⟩
    · exact absurd all fault.not_same
    · rw [refused, fault.unique second]

/-- A payload is too short, or it is what the pattern makes of any buffer of its size, or it parts from
the pattern that it announces at a first fault; and verification tells which. -/
theorem verify_locates (payload : Buffer) :
    (∀ length, verify payload = .error (.tooShort length) ↔
      length = payload.size ∧ payload.size < 16) ∧
    (∀ timestamp sequence, verify payload = .ok (timestamp, sequence) ↔
      16 ≤ payload.size ∧ ∀ buffer : Buffer, buffer.size = payload.size →
        (fill buffer timestamp sequence).toBytes = payload.toBytes) ∧
    ∀ sequence offset, verify payload = .error (.mismatch sequence offset) ↔
      16 ≤ payload.size ∧ sequence = LittleEndian.toUInt64 (Buffer.read payload 8 8) ∧
        ∀ buffer : Buffer, buffer.size = payload.size →
          FirstFault payload
            (fill buffer (LittleEndian.toUInt64 (Buffer.read payload 0 8)) sequence) offset := by
  refine ⟨verify_eq_tooShort_iff, ?_, ?_⟩
  · intro timestamp sequence
    rcases Nat.lt_or_ge payload.size minPayload with short | room
    · rw [verify_short short]
      exact ⟨nofun, fun both => absurd both.1 (Nat.not_le.mpr short)⟩
    · rw [verify_eq_ok_iff room]
      exact (and_iff_right room).symm
  · intro sequence offset
    rcases Nat.lt_or_ge payload.size minPayload with short | room
    · rw [verify_short short]
      exact ⟨nofun, fun both => absurd both.1 (Nat.not_le.mpr short)⟩
    · rw [verify_eq_mismatch_iff room]
      exact (and_iff_right room).symm

end LoadPattern

end RecordRing
