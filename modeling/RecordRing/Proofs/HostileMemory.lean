import Mathlib.Control.Monad.Basic
import RecordRing.Proofs.Attachment
import RecordRing.Proofs.TailRecord

set_option autoImplicit false

namespace RecordRing

namespace Region

/-- The header that the sixteen bytes at the tail stand for. -/
def headerAtTail (region : Region) (capacity : UInt64) : RecordHeader :=
  RecordHeader.decode
    (ByteRing.stored capacity.toNat region.data region.page.tail.toNat RecordHeader.size)

structure Readable (region : Region) (capacity : UInt64) : Prop where
  behind : region.page.tail < region.page.head
  header : RecordHeader.size ≤ region.page.head.toNat - region.page.tail.toNat
  lap : region.page.head.toNat - region.page.tail.toNat ≤ capacity.toNat
  kind : (region.headerAtTail capacity).kind = 1 ∨ (region.headerAtTail capacity).kind = 0xFFFF
  span : (region.headerAtTail capacity).span.toNat ≤
    region.page.head.toNat - region.page.tail.toNat
  summary : (region.headerAtTail capacity).kind = 0xFFFF →
    (region.headerAtTail capacity).length = 20

theorem readable_iff (region : Region) (capacity : UInt64) :
    region.Readable capacity ↔
      region.Spanned capacity ∧ (Record.front? (region.backlog capacity)).isSome := by
  have length := region.length_backlog capacity
  have span := (region.headerAtTail capacity).span_toNat
  rw [Record.front?_isSome_iff, length]
  constructor
  · intro sound
    have same := take_backlog region capacity sound.header
    rw [same]
    have long := sound.span
    rw [span] at long
    exact ⟨⟨UInt64.le_of_lt sound.behind, sound.lap⟩, long, sound.kind, sound.summary⟩
  · rintro ⟨⟨ordered, lap⟩, long, kind, summary⟩
    have header : RecordHeader.size ≤ region.page.head.toNat - region.page.tail.toNat := by omega
    have same := take_backlog region capacity header
    rw [same] at long kind summary
    refine ⟨?_, header, lap, kind, ?_, summary⟩
    · rw [UInt64.lt_iff_toNat_lt]
      simp only [RecordHeader.size] at header
      omega
    · rw [span]
      exact long

/-- A record that was found is what lies at the tail, and ends at the head or before it. -/
theorem of_recordAtTail {region : Region} {capacity : UInt64} (power : isPowerOfTwo capacity = true)
    (held : capacity.toNat ≤ region.data.size) {record : Record}
    (found : region.recordAtTail capacity = .record record) :
    record.header = region.headerAtTail capacity ∧
      record.encode = ByteRing.stored capacity.toNat region.data region.page.tail.toNat
        record.header.span.toNat ∧
      (region.page.tail + record.header.span).toNat =
        region.page.tail.toNat + record.header.span.toNat ∧
      region.page.tail.toNat + record.header.span.toNat ≤ region.page.head.toNat := by
  obtain ⟨⟨ordered, lap⟩, front⟩ := (recordAtTail_eq_record_iff power held record).mp found
  obtain ⟨framed, split⟩ := Record.eq_append_of_front? front
  have length := region.length_backlog capacity
  have width := record.length_encode framed
  have least := record.size_le_length_encode
  have joined := congrArg List.length split
  rw [List.length_append, List.length_drop] at joined
  rw [UInt64.le_iff_toNat_le] at ordered
  have whole : record.encode = ByteRing.stored capacity.toNat region.data region.page.tail.toNat
      record.header.span.toNat := by
    rw [← take_backlog region capacity (by omega), split,
      List.take_left' width]
  have header : record.header = region.headerAtTail capacity := by
    rw [headerAtTail,
      ← ByteRing.take_stored _ _ (by omega : RecordHeader.size ≤ record.header.span.toNat),
      ← whole, Record.encode, List.take_left' (RecordHeader.length_encode _),
      RecordHeader.decode_encode]
  have top := region.page.head.toNat_lt
  refine ⟨header, whole, ?_, by omega⟩
  rw [UInt64.toNat_add]
  exact Nat.mod_eq_of_lt (by omega)

end Region

namespace Record

def packets : Record → Nat
  | packet .. => 1
  | drop .. => 0

def lost : Record → Nat
  | packet .. => 0
  | drop _ summary => summary.lost.toNat

end Record

namespace Reader

/-- The totals of a reader grow by what the record says, as long as they fit their words. -/
theorem toNat_packets_count (reader : Reader) (record : Record)
    (fits : reader.packets.toNat + record.packets < UInt64.size) :
    (reader.count record).packets.toNat = reader.packets.toNat + record.packets := by
  cases record with
  | packet header payload =>
      simp only [count, UInt64.toNat_add]
      exact Nat.mod_eq_of_lt fits
  | drop header summary => rfl

theorem toNat_lost_count (reader : Reader) (record : Record)
    (fits : reader.lost.toNat + record.lost < UInt64.size) :
    (reader.count record).lost.toNat = reader.lost.toNat + record.lost := by
  cases record with
  | packet header payload => rfl
  | drop header summary =>
      simp only [count, UInt64.toNat_add, UInt32.toNat_toUInt64]
      exact Nat.mod_eq_of_lt fits

/-- One read of a region: what it finds, what it leaves, and where it looks. -/
structure ReadsSafely (reader : Reader) (region : Region) : Prop where
  no_overrun : (reader.take region).1 ≠ .overrun
  /-- Both pieces of every read end inside the data ring, and nothing is missing from them. -/
  inside : ∀ length raw,
    ByteRing.read? reader.capacity region.data region.page.tail length = some raw →
      ByteRing.offset reader.capacity region.page.tail +
          ByteRing.firstPiece reader.capacity region.page.tail length ≤ reader.capacity.toNat ∧
        length - ByteRing.firstPiece reader.capacity region.page.tail length ≤
          reader.capacity.toNat ∧
        reader.capacity.toNat ≤ region.data.size ∧ raw.length = length
  /-- Bytes outside the data ring have no say in what is found. -/
  confined : ∀ other : Region, other.page = region.page → other.data.size = region.data.size →
    (∀ index < reader.capacity.toNat, other.data.get? index = region.data.get? index) →
      (reader.take other).1 = (reader.take region).1
  nothing_iff : (reader.take region).1 = .nothing ↔ region.page.head = region.page.tail
  record_iff : (∃ record, (reader.take region).1 = .record record) ↔
    region.Readable reader.capacity
  /-- A record is handed on byte for byte, and only the tail moves, up to its end. -/
  of_record : ∀ record, (reader.take region).1 = .record record →
    record.header = region.headerAtTail reader.capacity ∧
      record.encode = ByteRing.stored reader.capacity.toNat region.data region.page.tail.toNat
        record.header.span.toNat ∧
      (reader.take region).2.2 =
        { region with page := { region.page with tail := region.page.tail + record.header.span } } ∧
      (region.page.tail + record.header.span).toNat =
        region.page.tail.toNat + record.header.span.toNat ∧
      region.page.tail.toNat + record.header.span.toNat ≤ region.page.head.toNat
  /-- The totals count the record, as long as they fit their words. -/
  totals : ∀ record, (reader.take region).1 = .record record →
    (reader.packets.toNat + record.packets < UInt64.size →
      (reader.take region).2.1.packets.toNat = reader.packets.toNat + record.packets) ∧
    (reader.lost.toNat + record.lost < UInt64.size →
      (reader.take region).2.1.lost.toNat = reader.lost.toNat + record.lost)
  of_corrupted : ∀ place, (reader.take region).1 = .corrupted place →
    place.tail = region.page.tail ∧ place.head = region.page.head
  unchanged : (∀ record, (reader.take region).1 ≠ .record record) →
    (reader.take region).2 = (reader, region)

/-- A read of the ring sees only the cells of the ring. -/
theorem read?_congr {capacity : UInt64} (power : isPowerOfTwo capacity = true)
    {data other : Buffer} (held : capacity.toNat ≤ data.size) (heldOther : capacity.toNat ≤ other.size)
    (same : ∀ index < capacity.toNat, other.get? index = data.get? index) (position : UInt64)
    (length : Nat) :
    ByteRing.read? capacity other position length = ByteRing.read? capacity data position length := by
  by_cases fits : length ≤ capacity.toNat
  · rw [ByteRing.read?_eq_stored power _ held _ fits,
      ByteRing.read?_eq_stored power _ heldOther _ fits]
    apply congrArg some
    apply ByteRing.stored_congr
    intro i _
    exact same _ (Nat.mod_lt _ (ByteRing.capacity_pos power))
  · rw [ByteRing.read?, ByteRing.read?, if_neg fits, if_neg fits]

theorem readsSafely_of_held (reader : Reader) (region : Region)
    (power : isPowerOfTwo reader.capacity = true)
    (held : reader.capacity.toNat ≤ region.data.size) : reader.ReadsSafely region := by
  have record_iff : ∀ record, region.recordAtTail reader.capacity = .record record ↔ _ :=
    fun record => Region.recordAtTail_eq_record_iff power held record
  refine ⟨?_, ?_, ?_, ?_, ?_, ?_, ?_, ?_, ?_⟩
  · rw [take_fst]
    rcases Region.recordAtTail_cases power held with found | ⟨record, found⟩ | ⟨length, found⟩ <;>
      rw [found] <;> nofun
  · intro length raw granted
    have fits : length ≤ reader.capacity.toNat := by
      apply Nat.le_of_not_lt
      intro long
      rw [ByteRing.read?, if_neg (Nat.not_le.mpr long)] at granted
      cases granted
    rw [ByteRing.read?_eq_stored power _ held _ fits] at granted
    cases granted
    rw [ByteRing.firstPiece, ByteRing.offset_eq_mod power]
    have below := Nat.mod_lt region.page.tail.toNat (ByteRing.capacity_pos power)
    exact ⟨by omega, by omega, held, ByteRing.length_stored ..⟩
  · intro other samePage sameSize same
    rw [take_fst, take_fst]
    simp only [Region.recordAtTail, samePage,
      read?_congr power held (by rw [sameSize]; exact held) same]
  · rw [take_fst, Region.recordAtTail_eq_nothing_iff power held]
    exact eq_comm
  · simp only [take_fst, record_iff, exists_and_left, Region.readable_iff, Option.isSome_iff_exists]
  · intro record found
    rw [take_fst] at found
    obtain ⟨header, whole, next, below⟩ := Region.of_recordAtTail power held found
    rw [take_of_record found]
    exact ⟨header, whole, rfl, next, below⟩
  · intro record found
    rw [take_fst] at found
    rw [take_of_record found]
    exact ⟨reader.toNat_packets_count record, reader.toNat_lost_count record⟩
  · intro place found
    rw [take_fst] at found
    rcases Region.recordAtTail_cases power held with look | ⟨record, look⟩ | ⟨length, look⟩ <;>
      rw [look] at found <;> cases found
    exact ⟨rfl, rfl⟩
  · intro none
    simp only [take_fst] at none
    rw [take_of_not_record none]

/-- Read once from each of several contents of a mapping: what was found, and the reader after it. -/
def takeEach (reader : Reader) : List Region → List ReadOutcome × Reader
  | [] => ([], reader)
  | region :: rest =>
      let (outcome, after, _) := reader.take region
      let (outcomes, last) := after.takeEach rest
      (outcome :: outcomes, last)

theorem takeEach_cons (reader : Reader) (region : Region) (rest : List Region) :
    reader.takeEach (region :: rest) =
      ((reader.take region).1 :: ((reader.take region).2.1.takeEach rest).1,
        ((reader.take region).2.1.takeEach rest).2) := rfl

end Reader

namespace ReadOutcome

def packets : ReadOutcome → Nat
  | record found => found.packets
  | _ => 0

def lost : ReadOutcome → Nat
  | record found => found.lost
  | _ => 0

/-- A count over all that was found. -/
def total (count : ReadOutcome → Nat) : List ReadOutcome → Nat
  | [] => 0
  | outcome :: rest => count outcome + total count rest

end ReadOutcome

namespace Reader

/-- A total grows by what each read found. -/
theorem toNat_take (reader : Reader) (region : Region) :
    (reader.packets.toNat + (reader.take region).1.packets < UInt64.size →
      (reader.take region).2.1.packets.toNat =
        reader.packets.toNat + (reader.take region).1.packets) ∧
    (reader.lost.toNat + (reader.take region).1.lost < UInt64.size →
      (reader.take region).2.1.lost.toNat = reader.lost.toNat + (reader.take region).1.lost) := by
  cases look : region.recordAtTail reader.capacity with
  | record record =>
      rw [take_of_record look]
      exact ⟨reader.toNat_packets_count record, reader.toNat_lost_count record⟩
  | _ =>
      rw [take_of_not_record (by rw [look]; nofun), look]
      exact ⟨fun _ => rfl, fun _ => rfl⟩

@[simp] theorem capacity_takeEach (reader : Reader) (regions : List Region) :
    (reader.takeEach regions).2.capacity = reader.capacity := by
  induction regions generalizing reader with
  | nil => rfl
  | cons region rest ih => exact (ih _).trans (reader.capacity_take region)

/-- A total that grows with every read by a count is the count over all that was found. -/
theorem toNat_takeEach {field : Reader → UInt64} {count : ReadOutcome → Nat}
    (grows : ∀ (reader : Reader) (region : Region),
      (field reader).toNat + count (reader.take region).1 < UInt64.size →
        (field (reader.take region).2.1).toNat =
          (field reader).toNat + count (reader.take region).1)
    (reader : Reader) (regions : List Region)
    (fits : (field reader).toNat + ReadOutcome.total count (reader.takeEach regions).1 <
      UInt64.size) :
    (field (reader.takeEach regions).2).toNat =
      (field reader).toNat + ReadOutcome.total count (reader.takeEach regions).1 := by
  induction regions generalizing reader with
  | nil => rfl
  | cons region rest ih =>
      rw [takeEach_cons] at fits ⊢
      rw [ReadOutcome.total] at fits ⊢
      have first := grows reader region (by omega)
      rw [ih _ (by omega), first, Nat.add_assoc]

/-- A reader that attached once reads safely ever after, whatever the mapping holds before each read;
and its totals are those of what it found, as long as these fit their words. -/
theorem reads_safely_after_attach {file : Buffer} {view : Option UInt64} {capacity : UInt64}
    (attached : (RingFile.ofBytes file).attach view = .ok capacity) (earlier : List Buffer)
    (contents : Buffer) (mapped : contents.size = file.size) :
    let opened : Reader := { capacity, inProcess := false }
    let run := opened.takeEach (earlier.map Region.ofBytes)
    run.2.capacity = capacity ∧ run.2.ReadsSafely (Region.ofBytes contents) ∧
      (ReadOutcome.total ReadOutcome.packets run.1 < UInt64.size →
        run.2.packets.toNat = ReadOutcome.total ReadOutcome.packets run.1) ∧
      (ReadOutcome.total ReadOutcome.lost run.1 < UInt64.size →
        run.2.lost.toNat = ReadOutcome.total ReadOutcome.lost run.1) := by
  intro opened run
  have known := RingFile.attached_of_attach attached
  have same : run.2.capacity = capacity := opened.capacity_takeEach _
  have room := known.room
  have held : capacity.toNat ≤ (Region.ofBytes contents).data.size := by
    simp only [Region.ofBytes, Buffer.extract]
    omega
  have packets := toNat_takeEach (fun reader region => (reader.toNat_take region).1) opened
    (earlier.map Region.ofBytes)
  have lost := toNat_takeEach (fun reader region => (reader.toNat_take region).2) opened
    (earlier.map Region.ofBytes)
  have none : opened.packets.toNat = 0 ∧ opened.lost.toNat = 0 := ⟨rfl, rfl⟩
  rw [none.1, Nat.zero_add] at packets
  rw [none.2, Nat.zero_add] at lost
  exact ⟨same, readsSafely_of_held _ _ (by rw [same]; exact known.power) (by rw [same]; exact held),
    packets, lost⟩

def smallRingFile : Buffer :=
  (Region.init (.zeros 4160) { capacity := 64 }).toBytes

/-- The same file once someone has put the tail past the head. -/
def tornRingFile : Buffer :=
  Buffer.write smallRingFile 8 (LittleEndian.ofUInt64 7)

theorem reads_safely_after_attach_small :
    (RingFile.ofBytes smallRingFile).attach none = .ok 64 ∧
      tornRingFile.size = smallRingFile.size ∧
      let opened : Reader := { capacity := 64, inProcess := false }
      (opened.takeEach [Region.ofBytes smallRingFile]).2.ReadsSafely
        (Region.ofBytes tornRingFile) := by
  have attached : (RingFile.ofBytes smallRingFile).attach none = .ok 64 := by decide +kernel
  have mapped : tornRingFile.size = smallRingFile.size := Buffer.size_write ..
  exact ⟨attached, mapped,
    (reads_safely_after_attach attached [smallRingFile] tornRingFile mapped).2.1⟩

end Reader

end RecordRing
