import RecordRing.LoadPattern

set_option autoImplicit false

namespace RecordRing

namespace LoadPattern

theorem readWord_write {buffer : Buffer} {place : Nat} (fits : place * 8 + 8 ≤ buffer.size)
    (word : UInt64) (index : Nat) :
    readWord (Buffer.write buffer (place * 8) (LittleEndian.ofUInt64 word)) index =
      if index = place then word else readWord buffer index := by
  by_cases same : index = place
  · rw [if_pos same, readWord, same]
    have found := Buffer.read_write_self buffer (place * 8) (LittleEndian.ofUInt64 word)
      (by rw [LittleEndian.length_ofUInt64]; exact fits)
    rw [LittleEndian.length_ofUInt64] at found
    rw [found, LittleEndian.toUInt64_ofUInt64]
  · rw [if_neg same, readWord, readWord, Buffer.read_write_apart]
    rw [LittleEndian.length_ofUInt64]
    omega

/-- Words that are written one after another are all there. -/
theorem readWord_foldl (word : Nat → UInt64) (places : List Nat) {buffer : Buffer}
    (fits : ∀ place ∈ places, place * 8 + 8 ≤ buffer.size) (index : Nat) :
    readWord (places.foldl (fun held place =>
        Buffer.write held (place * 8) (LittleEndian.ofUInt64 (word place))) buffer) index =
      if index ∈ places then word index else readWord buffer index := by
  induction places generalizing buffer with
  | nil => rfl
  | cons place rest ih =>
      have first := fits place List.mem_cons_self
      have others : ∀ later ∈ rest, later * 8 + 8 ≤
          (Buffer.write buffer (place * 8) (LittleEndian.ofUInt64 (word place))).size := by
        intro later member
        rw [Buffer.size_write]
        exact fits later (List.mem_cons_of_mem _ member)
      rw [List.foldl_cons, ih others, readWord_write first]
      by_cases member : index ∈ rest
      · rw [if_pos member, if_pos (List.mem_cons_of_mem _ member)]
      · rw [if_neg member]
        by_cases same : index = place
        · rw [if_pos same, same, if_pos List.mem_cons_self]
        · rw [if_neg same, if_neg]
          rw [List.mem_cons]
          rintro (equal | later)
          · exact same equal
          · exact member later

theorem size_foldl {α : Type} (write : Buffer → α → Buffer)
    (same : ∀ held place, (write held place).size = held.size) (places : List α) (buffer : Buffer) :
    (places.foldl write buffer).size = buffer.size := by
  induction places generalizing buffer with
  | nil => rfl
  | cons place rest ih => rw [List.foldl_cons, ih, same]

theorem get?_foldl_set (byte : Nat → UInt8) (places : List Nat) {buffer : Buffer}
    (fits : ∀ place ∈ places, place < buffer.size) (index : Nat) :
    (places.foldl (fun held place => held.set place (byte place)) buffer).get? index =
      if index ∈ places then some (byte index) else buffer.get? index := by
  induction places generalizing buffer with
  | nil => rfl
  | cons place rest ih =>
      have first := fits place List.mem_cons_self
      have others : ∀ later ∈ rest, later < (buffer.set place (byte place)).size := by
        intro later member
        rw [Buffer.size_set]
        exact fits later (List.mem_cons_of_mem _ member)
      rw [List.foldl_cons, ih others]
      by_cases member : index ∈ rest
      · rw [if_pos member, if_pos (List.mem_cons_of_mem _ member)]
      · rw [if_neg member]
        by_cases same : index = place
        · rw [same, Buffer.get?_set_self _ _ _ first, if_pos List.mem_cons_self]
        · rw [Buffer.get?_set_ne _ _ same, if_neg]
          rw [List.mem_cons]
          rintro (equal | later)
          · exact same equal
          · exact member later

@[simp] theorem size_fill (buffer : Buffer) (timestamp sequence : UInt64) :
    (fill buffer timestamp sequence).size = buffer.size := by
  unfold fill
  dsimp only
  rw [size_foldl _ (fun _ _ => Buffer.size_set ..), size_foldl _ (fun _ _ => Buffer.size_write ..),
    Buffer.size_write, Buffer.size_write]

theorem mem_wordPlaces {size index : Nat} :
    index ∈ wordPlaces size ↔ 2 ≤ index ∧ index < size / 8 := by
  rw [wordPlaces, List.mem_range'_1]
  omega

theorem mem_tailPlaces {size index : Nat} :
    index ∈ tailPlaces size ↔ size / 8 * 8 ≤ index ∧ index < size := by
  rw [tailPlaces, List.mem_range'_1]
  omega

/-- Every full word of a payload: the timestamp, the sequence number, and then the pattern. -/
theorem readWord_fill {buffer : Buffer} (room : minPayload ≤ buffer.size)
    (timestamp sequence : UInt64) {index : Nat} (whole : index < buffer.size / 8) :
    readWord (fill buffer timestamp sequence) index =
      if index = 0 then timestamp else if index = 1 then sequence else wordAt sequence index := by
  have least : 16 ≤ buffer.size := room
  let stamped := Buffer.write buffer (0 * 8) (LittleEndian.ofUInt64 timestamp)
  let numbered := Buffer.write stamped (1 * 8) (LittleEndian.ofUInt64 sequence)
  let worded := (wordPlaces buffer.size).foldl (fun held place =>
    Buffer.write held (place * 8) (LittleEndian.ofUInt64 (wordAt sequence place))) numbered
  have size : numbered.size = buffer.size := by rw [Buffer.size_write, Buffer.size_write]
  have sizeWorded : worded.size = buffer.size := by
    rw [size_foldl _ (fun _ _ => Buffer.size_write ..), size]
  have filled : fill buffer timestamp sequence = (tailPlaces buffer.size).foldl
      (fun held place => held.set place (tailByte sequence place)) worded := rfl
  have tail : readWord (fill buffer timestamp sequence) index = readWord worded index := by
    rw [readWord, readWord, Buffer.read_congr]
    intro position lower upper
    rw [filled, get?_foldl_set, if_neg]
    · rw [mem_tailPlaces]
      omega
    · intro place member
      rw [sizeWorded]
      exact (mem_tailPlaces.mp member).2
  have words : readWord worded index =
      if index ∈ wordPlaces buffer.size then wordAt sequence index else readWord numbered index := by
    apply readWord_foldl
    intro place member
    have bounds := mem_wordPlaces.mp member
    rw [size]
    omega
  have second : readWord numbered index = if index = 1 then sequence else readWord stamped index :=
    readWord_write (by rw [Buffer.size_write]; omega) sequence index
  have first : readWord stamped index = if index = 0 then timestamp else readWord buffer index :=
    readWord_write (by omega) timestamp index
  rw [tail, words, second, first]
  by_cases pattern : index ∈ wordPlaces buffer.size
  · have bounds := mem_wordPlaces.mp pattern
    rw [if_pos pattern, if_neg (by omega), if_neg (by omega)]
  · have few : index < 2 := by
      rw [mem_wordPlaces] at pattern
      omega
    rw [if_neg pattern]
    by_cases zero : index = 0
    · rw [if_pos zero, if_neg (by omega), if_pos zero]
    · have one : index = 1 := by omega
      rw [if_pos one, if_neg zero, if_pos one]

theorem get?_fill_tail {buffer : Buffer} (timestamp sequence : UInt64) {index : Nat}
    (member : index ∈ tailPlaces buffer.size) :
    (fill buffer timestamp sequence).get? index = some (tailByte sequence index) := by
  unfold fill
  dsimp only
  rw [get?_foldl_set, if_pos member]
  intro place member
  rw [size_foldl _ (fun _ _ => Buffer.size_write ..), Buffer.size_write, Buffer.size_write]
  exact (mem_tailPlaces.mp member).2

theorem verify_fill {buffer : Buffer} (room : minPayload ≤ buffer.size)
    (timestamp sequence : UInt64) :
    verify (fill buffer timestamp sequence) = .ok (timestamp, sequence) := by
  have least : 16 ≤ buffer.size := room
  have word {index : Nat} (whole : index < buffer.size / 8) :=
    readWord_fill room timestamp sequence whole
  have stamp : readWord (fill buffer timestamp sequence) 0 = timestamp := by
    rw [word (by omega), if_pos rfl]
  have number : readWord (fill buffer timestamp sequence) 1 = sequence := by
    rw [word (by omega), if_neg Nat.one_ne_zero, if_pos rfl]
  have words : (wordPlaces buffer.size).find? (fun index =>
      readWord (fill buffer timestamp sequence) index != wordAt sequence index) = none := by
    rw [List.find?_eq_none]
    intro index member
    have bounds := mem_wordPlaces.mp member
    rw [word bounds.2, if_neg (by omega), if_neg (by omega), bne_self_eq_false]
    nofun
  have bytes : (tailPlaces buffer.size).find? (fun index =>
      (fill buffer timestamp sequence).get? index != some (tailByte sequence index)) = none := by
    rw [List.find?_eq_none]
    intro index member
    rw [get?_fill_tail _ _ member, bne_self_eq_false]
    nofun
  unfold verify
  dsimp only
  rw [size_fill, if_neg (Nat.not_lt.mpr room), number, words]
  dsimp only
  rw [bytes, stamp]

theorem verify_congr {left right : Buffer} (size : left.size = right.size)
    (same : ∀ index, left.get? index = right.get? index) : verify left = verify right := by
  have words : readWord left = readWord right := by
    funext index
    rw [readWord, readWord, Buffer.read_congr (fun index _ _ => same index)]
  have bytes : left.get? = right.get? := funext same
  unfold verify
  rw [size, words, bytes]

/-- Whoever is handed the bytes of a filled payload finds its timestamp and its sequence number. -/
theorem verify_ofBytes_fill {buffer : Buffer} (room : minPayload ≤ buffer.size)
    (timestamp sequence : UInt64) :
    verify (.ofBytes (fill buffer timestamp sequence).toBytes) = .ok (timestamp, sequence) := by
  rw [← verify_fill room timestamp sequence]
  apply verify_congr
  · rw [Buffer.size_ofBytes, Buffer.length_toBytes]
  · exact Buffer.get?_ofBytes_toBytes _

end LoadPattern

end RecordRing
