import Mathlib.Algebra.GroupWithZero.Nat
import RecordRing.Proofs.FirstFault

set_option autoImplicit false

namespace RecordRing

/-- Changing one byte changes the number by what it counts at its place. -/
theorem LittleEndian.decode_set {bytes : Bytes} {place : Nat} {old : UInt8}
    (held : bytes[place]? = some old) (byte : UInt8) :
    decode (bytes.set place byte) + old.toNat * 256 ^ place =
      decode bytes + byte.toNat * 256 ^ place := by
  induction bytes generalizing place with
  | nil => cases held
  | cons first rest ih =>
      cases place with
      | zero =>
          cases held
          rw [List.set_cons_zero, decode_cons, decode_cons]
          omega
      | succ place =>
          have later := ih held
          rw [List.set_cons_succ, decode_cons, decode_cons, Nat.pow_succ, ← Nat.mul_assoc,
            ← Nat.mul_assoc]
          omega

namespace LoadPattern

/-- The multiplier is sixteen times a word that has an inverse. -/
theorem multiplier_mul_inverse : multiplier * 0x010FEF010FEF010F = 16 := by
  decide

theorem mul_multiplier_eq_iff (left right : UInt64) :
    left * multiplier = right * multiplier ↔ left.toNat % 2 ^ 60 = right.toNat % 2 ^ 60 := by
  have sixteen : left * 16 = right * 16 ↔ left.toNat % 2 ^ 60 = right.toNat % 2 ^ 60 := by
    have value : (16 : UInt64).toNat = 16 := rfl
    rw [← UInt64.toNat_inj, UInt64.toNat_mul, UInt64.toNat_mul, value]
    omega
  rw [← sixteen]
  refine ⟨fun same => ?_, fun same => ?_⟩
  · rw [← multiplier_mul_inverse, ← UInt64.mul_assoc, ← UInt64.mul_assoc, same]
  · have factor : multiplier = 16 * 0x0123456789ABCDEF := by decide
    rw [factor, ← UInt64.mul_assoc, ← UInt64.mul_assoc, same]

/-- Words of the pattern tell all of the number but its four upper bits. -/
theorem wordAt_eq_iff (left right : UInt64) (index : Nat) :
    wordAt left index = wordAt right index ↔ left.toNat % 2 ^ 60 = right.toNat % 2 ^ 60 := by
  rw [← mul_multiplier_eq_iff]
  exact UInt64.add_left_inj _

theorem tailByte_eq {left right : UInt64} (same : left.toNat % 2 ^ 60 = right.toNat % 2 ^ 60)
    (index : Nat) : tailByte left index = tailByte right index := by
  apply UInt8.toNat_inj.mp
  rw [tailByte, tailByte, UInt64.toNat_toUInt8, UInt64.toNat_toUInt8, UInt64.toNat_add,
    UInt64.toNat_add]
  omega

/-- Two numbers that differ in one byte are the same up to their four upper bits, if that byte is the
last one and its lower half is the same. -/
theorem mod_eq_iff_of_byte {left right place old byte : Nat} (inside : place < 8)
    (few : old < 256) (fewOther : byte < 256) (differ : byte ≠ old)
    (changed : left + old * 256 ^ place = right + byte * 256 ^ place) :
    left % 2 ^ 60 = right % 2 ^ 60 ↔ place = 7 ∧ byte % 16 = old % 16 := by
  match place, inside with
  | 0, _ | 1, _ | 2, _ | 3, _ | 4, _ | 5, _ | 6, _ | 7, _ => omega

variable {payload buffer : Buffer} {index : Nat} {old byte : UInt8}

theorem readWord_set_apart {word : Nat} (apart : index / 8 ≠ word) :
    readWord (payload.set index byte) word = readWord payload word := by
  unfold readWord
  rw [Buffer.read_congr]
  intro place lower upper
  exact Buffer.get?_set_ne _ _ (by omega)

theorem read_set_inside (start length : Nat) (inside : index < payload.size) (lower : start ≤ index) :
    Buffer.read (payload.set index byte) start length =
      (Buffer.read payload start length).set (index - start) byte := by
  apply List.ext_getElem?
  intro place
  have long : (Buffer.read payload start length).length = min length (payload.size - start) :=
    Buffer.length_read ..
  by_cases within : place < length
  · rw [Buffer.getElem?_read _ _ _ _ within, List.getElem?_set]
    by_cases same : start + place = index
    · have there : index - start < (Buffer.read payload start length).length := by omega
      rw [same, Buffer.get?_set_self _ _ _ inside, if_pos (by omega), if_pos there]
    · rw [Buffer.get?_set_ne _ _ same, if_neg (by omega), Buffer.getElem?_read _ _ _ _ within]
  · rw [List.getElem?_eq_none, List.getElem?_eq_none]
    · rw [List.length_set]
      omega
    · rw [Buffer.length_read]
      omega

theorem toNat_readWord {word : Nat} (inside : word < payload.size / 8) :
    (readWord payload word).toNat = LittleEndian.decode (Buffer.read payload (word * 8) 8) := by
  have long : (Buffer.read payload (word * 8) 8).length = 8 := by
    rw [Buffer.length_read]
    omega
  have bound := LittleEndian.decode_lt (Buffer.read payload (word * 8) 8)
  rw [long] at bound
  exact UInt64.toNat_ofNat_of_lt' bound

/-- A changed byte of the sequence number changes it by what the byte counts. -/
theorem toNat_sequence_set (room : minPayload ≤ payload.size) (lower : 8 ≤ index)
    (upper : index < 16) (held : payload.get? index = some old) (byte : UInt8) :
    (readWord (payload.set index byte) 1).toNat + old.toNat * 256 ^ (index - 8) =
      (readWord payload 1).toNat + byte.toNat * 256 ^ (index - 8) := by
  have least : 16 ≤ payload.size := room
  have there : (Buffer.read payload (1 * 8) 8)[index - 8]? = some old := by
    rw [Buffer.getElem?_read _ _ _ _ (by omega), Nat.one_mul, Nat.add_sub_cancel' lower]
    exact held
  have changed := LittleEndian.decode_set there byte
  rw [← read_set_inside (1 * 8) 8 (by omega) lower] at changed
  rw [toNat_readWord (by rw [Buffer.size_set]; omega), toNat_readWord (by omega)]
  exact changed

variable {timestamp sequence : UInt64}

/-- A damaged payload that is accepted keeps the pattern of a number that differs only in its upper
four bits. -/
theorem place_of_accepted (long : 24 ≤ buffer.size) (behind : 8 ≤ index)
    (inside : index < buffer.size)
    (held : (fill buffer timestamp sequence).get? index = some old) (differ : byte ≠ old)
    {stamp number : UInt64}
    (accepted : verify ((fill buffer timestamp sequence).set index byte) = .ok (stamp, number)) :
    index = 15 ∧ byte.toNat % 16 = old.toNat % 16 := by
  have room : minPayload ≤ buffer.size := Nat.le_trans (by decide) long
  have size : ((fill buffer timestamp sequence).set index byte).size = buffer.size := by
    rw [Buffer.size_set, size_fill]
  have same := Buffer.toBytes_eq_iff.mp
    ((verify_eq_ok_iff (size ▸ room) stamp number).mp accepted buffer size.symm)
  have word {place : Nat} (whole : place < buffer.size / 8) :
      readWord ((fill buffer timestamp sequence).set index byte) place =
        if place = 0 then stamp else if place = 1 then number else wordAt number place := by
    rw [← readWord_fill room stamp number whole, readWord, readWord,
      Buffer.read_congr fun place _ _ => (same place).symm]
  have original {place : Nat} (whole : place < buffer.size / 8) (apart : index / 8 ≠ place) :
      readWord ((fill buffer timestamp sequence).set index byte) place =
        if place = 0 then timestamp else if place = 1 then sequence else wordAt sequence place := by
    rw [readWord_set_apart apart, readWord_fill room timestamp sequence whole]
  have stamps : timestamp = stamp :=
    (original (by omega) (by omega)).symm.trans (word (show 0 < buffer.size / 8 by omega))
  -- A byte of the number shows in the words behind it; any other byte shows in its own place.
  rcases Nat.lt_or_ge index 16 with early | late
  · have second : wordAt sequence 2 = wordAt number 2 :=
      (original (by omega) (by omega)).symm.trans (word (show 2 < buffer.size / 8 by omega))
    have changed := toNat_sequence_set (size_fill buffer timestamp sequence ▸ room) behind early held
      byte
    have became : readWord ((fill buffer timestamp sequence).set index byte) 1 = number :=
      word (show 1 < buffer.size / 8 by omega)
    have was : readWord (fill buffer timestamp sequence) 1 = sequence :=
      readWord_fill room timestamp sequence (show 1 < buffer.size / 8 by omega)
    rw [became, was] at changed
    have low := (mod_eq_iff_of_byte (by omega) old.toNat_lt byte.toNat_lt
      (fun equal => differ (UInt8.toNat_inj.mp equal)) changed).mp
        ((wordAt_eq_iff sequence number 2).mp second).symm
    exact ⟨by omega, low.2⟩
  · have numbers : sequence = number :=
      (original (by omega) (by omega)).symm.trans (word (show 1 < buffer.size / 8 by omega))
    subst stamps numbers
    have there := same index
    rw [held, Buffer.get?_set_self _ _ _ (by rw [size_fill]; exact inside)] at there
    exact absurd (Option.some.inj there).symm differ

/-- What has the words and the bytes of one number is accepted as the pattern of every number with the
same lower sixty bits. -/
theorem verify_of_low_bits (room : minPayload ≤ payload.size)
    (words : ∀ index, 2 ≤ index → index < payload.size / 8 →
      readWord payload index = wordAt sequence index)
    (tail : ∀ index, index ∈ tailPlaces payload.size →
      payload.get? index = some (tailByte sequence index))
    (low : (readWord payload 1).toNat % 2 ^ 60 = sequence.toNat % 2 ^ 60) :
    verify payload = .ok (readWord payload 0, readWord payload 1) := by
  rcases verify_announced (show payload.size = payload.size from rfl) room with
    ⟨accepted, -⟩ | ⟨offset, -, fault⟩
  · exact accepted
  · obtain ⟨length, piece, differs⟩ := fault.differs
    refine absurd ?_ differs
    cases piece with
    | @word place behind inside =>
        refine (readWord_eq_iff (size_announced rfl) inside).mp ?_
        rw [readWord_announced rfl room inside, if_neg (Nat.not_lt.mpr behind),
          words place behind inside]
        exact ((wordAt_eq_iff _ _ place).mpr low).symm
    | byte behind inside =>
        refine Buffer.read_congr fun place lower upper => ?_
        have only : place = offset := by omega
        have member : offset ∈ tailPlaces payload.size := mem_tailPlaces.mpr ⟨behind, inside⟩
        rw [only, get?_announced rfl member, tail offset member]
        exact congrArg some (tailByte_eq low offset).symm

/-- The upper half of the last byte of the sequence number is not seen. -/
theorem verify_set_upper (room : minPayload ≤ buffer.size)
    (held : (fill buffer timestamp sequence).get? 15 = some old)
    (differ : byte ≠ old) (low : byte.toNat % 16 = old.toNat % 16) :
    ∃ number, verify ((fill buffer timestamp sequence).set 15 byte) = .ok (timestamp, number) := by
  have least : 16 ≤ buffer.size := room
  have size : ((fill buffer timestamp sequence).set 15 byte).size = buffer.size := by
    rw [Buffer.size_set, size_fill]
  have was : readWord (fill buffer timestamp sequence) 1 = sequence :=
    readWord_fill room timestamp sequence (show 1 < buffer.size / 8 by omega)
  have changed := toNat_sequence_set (size_fill buffer timestamp sequence ▸ room) (by decide)
    (by decide) held byte
  rw [was] at changed
  have same : (readWord ((fill buffer timestamp sequence).set 15 byte) 1).toNat % 2 ^ 60 =
      sequence.toNat % 2 ^ 60 :=
    (mod_eq_iff_of_byte (by decide) old.toNat_lt byte.toNat_lt
      (fun equal => differ (UInt8.toNat_inj.mp equal)) changed).mpr ⟨rfl, low⟩
  have stamp : readWord ((fill buffer timestamp sequence).set 15 byte) 0 = timestamp := by
    rw [readWord_set_apart (by decide)]
    exact readWord_fill room timestamp sequence (show 0 < buffer.size / 8 by omega)
  have words : ∀ index, 2 ≤ index → index < ((fill buffer timestamp sequence).set 15 byte).size / 8 →
      readWord ((fill buffer timestamp sequence).set 15 byte) index = wordAt sequence index := by
    intro index behind inside
    rw [readWord_set_apart (by omega), readWord_fill room _ _ (size ▸ inside), if_neg (by omega),
      if_neg (by omega)]
  have tail : ∀ index, index ∈ tailPlaces ((fill buffer timestamp sequence).set 15 byte).size →
      ((fill buffer timestamp sequence).set 15 byte).get? index = some (tailByte sequence index) := by
    intro index member
    rw [size] at member
    obtain ⟨behind, -⟩ := mem_tailPlaces.mp member
    rw [Buffer.get?_set_ne _ _ (by omega), get?_fill_tail _ _ member]
  rw [verify_of_low_bits (size ▸ room) words tail same, stamp]
  exact ⟨_, rfl⟩

/-- Any change of one byte behind the timestamp is seen, but for a change in the upper half of the last
byte of the sequence number. -/
theorem verify_set_iff (long : 24 ≤ buffer.size) (behind : 8 ≤ index)
    (held : (fill buffer timestamp sequence).get? index = some old) (differ : byte ≠ old) :
    (∃ fault, verify ((fill buffer timestamp sequence).set index byte) = .error fault) ↔
      ¬(index = 15 ∧ byte.toNat % 16 = old.toNat % 16) := by
  have room : minPayload ≤ buffer.size := Nat.le_trans (by decide) long
  have inside : index < buffer.size := by
    apply Nat.lt_of_not_le
    intro beyond
    rw [Buffer.get?_eq_none _ (by rw [size_fill]; exact beyond)] at held
    cases held
  constructor
  · rintro ⟨fault, refused⟩ ⟨rfl, low⟩
    obtain ⟨number, accepted⟩ := verify_set_upper room held differ low
    rw [accepted] at refused
    cases refused
  · intro elsewhere
    cases seen : verify ((fill buffer timestamp sequence).set index byte) with
    | error fault => exact ⟨fault, rfl⟩
    | ok found => exact absurd (place_of_accepted long behind inside held differ seen) elsewhere

/-- A change in the lower half of that byte is seen. -/
theorem verify_set_lower_half :
    (fill (.zeros 27) 7 1).get? 15 = some 0 ∧
      ∃ fault, verify ((fill (.zeros 27) 7 1).set 15 17) = .error fault := by
  have held : (fill (.zeros 27) 7 1).get? 15 = some 0 := by decide +kernel
  exact ⟨held, (verify_set_iff (by decide) (by decide) held (by decide)).mpr (by decide)⟩

/-- A payload of which one byte of the sequence number was changed, and which is accepted. -/
theorem verify_set_unseen :
    ¬ ∀ (buffer : Buffer) (timestamp sequence : UInt64) (index : Nat) (old byte : UInt8),
      24 ≤ buffer.size → 8 ≤ index →
        (fill buffer timestamp sequence).get? index = some old → byte ≠ old →
          ∃ fault, verify ((fill buffer timestamp sequence).set index byte) = .error fault := by
  intro all
  obtain ⟨fault, refused⟩ := all (.zeros 24) 7 1 15 0 16 (by decide) (by decide) (by decide)
    (by decide)
  have accepted : verify ((fill (.zeros 24) 7 1).set 15 16) = .ok (7, 0x1000000000000001) :=
    rfl
  rw [accepted] at refused
  cases refused

end LoadPattern

end RecordRing
