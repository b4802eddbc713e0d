import RecordRing.Proofs.Framing
import RecordRing.Proofs.StoredBytes
import RecordRing.Reader

set_option autoImplicit false

namespace RecordRing

theorem ControlPage.toNat_used {page : ControlPage} (ordered : page.tail ≤ page.head) :
    page.used.toNat = page.head.toNat - page.tail.toNat :=
  UInt64.toNat_sub_of_le _ _ ordered

namespace Region

/-- The bytes between the cursors, as a ring of a capacity holds them. -/
def backlog (region : Region) (capacity : UInt64) : Bytes :=
  ByteRing.stored capacity.toNat region.data region.page.tail.toNat
    (region.page.head.toNat - region.page.tail.toNat)

theorem length_backlog (region : Region) (capacity : UInt64) :
    (region.backlog capacity).length = region.page.head.toNat - region.page.tail.toNat :=
  ByteRing.length_stored ..

/-- The cursors are in order and no more than a lap apart. -/
def Spanned (region : Region) (capacity : UInt64) : Prop :=
  region.page.tail ≤ region.page.head ∧
    region.page.head.toNat - region.page.tail.toNat ≤ capacity.toNat

theorem available?_eq_some_iff (page : ControlPage) (capacity count : UInt64) :
    available? page capacity = some count ↔
      page.tail ≤ page.head ∧ page.used ≤ capacity ∧ 16 ≤ page.used ∧ count = page.used := by
  unfold available?
  simp only [Bool.and_eq_true, decide_eq_true_eq]
  split
  · rename_i room
    rw [Option.some.injEq]
    exact ⟨fun same => ⟨room.1.1, room.1.2, room.2, same.symm⟩, fun all => all.2.2.2.symm⟩
  · rename_i none
    simp only [reduceCtorEq, false_iff]
    rintro ⟨ordered, lap, least, -⟩
    exact none ⟨⟨ordered, lap⟩, least⟩

theorem recordAtTail_of_eq {region : Region} (capacity : UInt64)
    (empty : region.page.tail = region.page.head) : region.recordAtTail capacity = .nothing := by
  unfold recordAtTail
  exact if_pos empty

/-- The header of a backlog is read in the same sixteen bytes. -/
theorem take_backlog (region : Region) (capacity : UInt64) {count : Nat}
    (fits : count ≤ region.page.head.toNat - region.page.tail.toNat) :
    (region.backlog capacity).take count =
      ByteRing.stored capacity.toNat region.data region.page.tail.toNat count :=
  ByteRing.take_stored _ _ fits

variable {region : Region} {capacity : UInt64}

/-- Fewer bytes than a header are no record. -/
theorem front?_backlog_of_few (short : available? region.page capacity = none)
    (spanned : region.Spanned capacity) : Record.front? (region.backlog capacity) = none := by
  obtain ⟨ordered, lap⟩ := spanned
  have used := ControlPage.toNat_used ordered
  have length := region.length_backlog capacity
  have few : region.page.head.toNat - region.page.tail.toNat < RecordHeader.size := by
    apply Nat.lt_of_not_le
    intro enough
    have room := (available?_eq_some_iff region.page capacity region.page.used).mpr
      ⟨ordered, by rw [UInt64.le_iff_toNat_le, used]; exact lap,
        by rw [UInt64.le_iff_toNat_le, used]; exact enough, rfl⟩
    rw [short] at room
    cases room
  simp only [Record.front?]
  exact if_neg (by omega)

/-- The bytes of a record behind its header are read out of the ring as they lie in the backlog. -/
theorem drop_stored_header {length : Nat}
    (inside : RecordHeader.size + length ≤ region.page.head.toNat - region.page.tail.toNat) :
    (ByteRing.stored capacity.toNat region.data region.page.tail.toNat
        (RecordHeader.size + length)).drop RecordHeader.size =
      ((region.backlog capacity).drop RecordHeader.size).take length := by
  rw [← take_backlog region capacity inside, List.drop_take, Nat.add_sub_cancel_left]

/-- What one look at a backlog finds, in the words of its bytes. -/
theorem recordAtTail_of_spanned (power : isPowerOfTwo capacity = true)
    (held : capacity.toNat ≤ region.data.size) (spanned : region.Spanned capacity)
    (apart : region.page.tail ≠ region.page.head) :
    match Record.front? (region.backlog capacity) with
    | some record => region.recordAtTail capacity = .record record
    | none => ∃ length,
        region.recordAtTail capacity = .corrupted ⟨region.page.tail, region.page.head, length⟩ := by
  rw [recordAtTail, if_neg apart]
  cases room : available? region.page capacity with
  | none =>
      rw [front?_backlog_of_few room spanned]
      exact ⟨_, rfl⟩
  | some count =>
      obtain ⟨ordered, lap⟩ := spanned
      have used := ControlPage.toNat_used ordered
      have length := region.length_backlog capacity
      obtain ⟨-, -, least, rfl⟩ := (available?_eq_some_iff ..).mp room
      rw [UInt64.le_iff_toNat_le, used] at least
      change RecordHeader.size ≤ _ at least
      have raw := ByteRing.read?_eq_stored power region.data held region.page.tail
        (Nat.le_trans least lap)
      simp only [raw, ← take_backlog region capacity least]
      generalize decoded : RecordHeader.decode ((region.backlog capacity).take RecordHeader.size) =
        header
      have span := header.span_toNat
      simp only [Record.front?, decoded, length]
      by_cases fits : header.span > region.page.used
      · rw [if_pos fits, if_neg]
        · exact ⟨_, rfl⟩
        · rw [GT.gt, UInt64.lt_iff_toNat_lt, used] at fits
          omega
      · have inside : RecordHeader.size + header.length.toNat ≤
            region.page.head.toNat - region.page.tail.toNat := by
          rw [GT.gt, UInt64.lt_iff_toNat_lt, used] at fits
          omega
        have whole := ByteRing.read?_eq_stored power region.data held region.page.tail
          (Nat.le_trans inside lap)
        simp only [if_neg fits, if_pos inside, span, whole, drop_stored_header inside]
        cases header.recordKind? with
        | none => exact ⟨_, rfl⟩
        | some kind =>
            cases kind with
            | packet => rfl
            | drop =>
                cases DropSummary.decode? (((region.backlog capacity).drop RecordHeader.size).take
                    header.length.toNat) with
                | none => exact ⟨_, rfl⟩
                | some summary => rfl

/-- Cursors out of order, or more than a lap apart, stop every reader. -/
theorem recordAtTail_of_not_spanned (astray : ¬ region.Spanned capacity) :
    region.recordAtTail capacity =
      .corrupted ⟨region.page.tail, region.page.head, region.page.used⟩ := by
  have apart : region.page.tail ≠ region.page.head := by
    intro same
    apply astray
    rw [Spanned, same, Nat.sub_self]
    exact ⟨UInt64.le_refl _, Nat.zero_le _⟩
  have room : available? region.page capacity = none := by
    apply Option.eq_none_iff_forall_ne_some.mpr
    intro count found
    obtain ⟨ordered, lap, -, -⟩ := (available?_eq_some_iff ..).mp found
    rw [UInt64.le_iff_toNat_le, ControlPage.toNat_used ordered] at lap
    exact astray ⟨ordered, lap⟩
  rw [recordAtTail, if_neg apart, room]

theorem recordAtTail_eq_nothing_iff (power : isPowerOfTwo capacity = true)
    (held : capacity.toNat ≤ region.data.size) :
    region.recordAtTail capacity = .nothing ↔ region.page.tail = region.page.head := by
  refine ⟨fun found => ?_, recordAtTail_of_eq capacity⟩
  apply Decidable.byContradiction
  intro apart
  by_cases spanned : region.Spanned capacity
  · have look := recordAtTail_of_spanned power held spanned apart
    split at look
    · rw [found] at look
      cases look
    · obtain ⟨_, look⟩ := look
      rw [found] at look
      cases look
  · have look := recordAtTail_of_not_spanned spanned
    rw [found] at look
    cases look

/-- A record is found exactly where the bytes between the cursors begin with it. -/
theorem recordAtTail_eq_record_iff (power : isPowerOfTwo capacity = true)
    (held : capacity.toNat ≤ region.data.size) (record : Record) :
    region.recordAtTail capacity = .record record ↔
      region.Spanned capacity ∧ Record.front? (region.backlog capacity) = some record := by
  by_cases spanned : region.Spanned capacity
  · by_cases apart : region.page.tail = region.page.head
    · have empty : Record.front? (region.backlog capacity) = none := by
        have length := region.length_backlog capacity
        rw [apart, Nat.sub_self] at length
        rw [List.eq_nil_of_length_eq_zero length]
        rfl
      simp [recordAtTail_of_eq capacity apart, empty]
    · have look := recordAtTail_of_spanned power held spanned apart
      split at look
      · rename_i other found
        rw [look, found]
        simp [spanned]
      · rename_i none
        obtain ⟨_, look⟩ := look
        simp [look, none]
  · have look := recordAtTail_of_not_spanned spanned
    simp [look, spanned]

/-- Whatever else is found stops the reader at the cursors as they are. -/
theorem recordAtTail_cases (power : isPowerOfTwo capacity = true)
    (held : capacity.toNat ≤ region.data.size) :
    region.recordAtTail capacity = .nothing ∨
      (∃ record, region.recordAtTail capacity = .record record) ∨
        ∃ length, region.recordAtTail capacity =
          .corrupted ⟨region.page.tail, region.page.head, length⟩ := by
  by_cases apart : region.page.tail = region.page.head
  · exact Or.inl (recordAtTail_of_eq capacity apart)
  · by_cases spanned : region.Spanned capacity
    · have look := recordAtTail_of_spanned power held spanned apart
      split at look
      · exact Or.inr (Or.inl ⟨_, look⟩)
      · exact Or.inr (Or.inr look)
    · exact Or.inr (Or.inr ⟨_, recordAtTail_of_not_spanned spanned⟩)

/-- What stands at the tail is told by the cursors and by the bytes between them. -/
theorem recordAtTail_congr {other : Region} (power : isPowerOfTwo capacity = true)
    (held : capacity.toNat ≤ region.data.size) (heldOther : capacity.toNat ≤ other.data.size)
    (tail : other.page.tail = region.page.tail) (head : other.page.head = region.page.head)
    (same : other.backlog capacity = region.backlog capacity) :
    other.recordAtTail capacity = region.recordAtTail capacity := by
  have used : other.page.used = region.page.used := by
    rw [ControlPage.used, ControlPage.used, tail, head]
  have room : available? other.page capacity = available? region.page capacity := by
    rw [available?, available?, tail, head, used]
  -- As far as the cursors reach, the two rings hold the same bytes.
  have read {count : Nat} (fits : count ≤ region.page.head.toNat - region.page.tail.toNat)
      (lap : count ≤ capacity.toNat) :
      ByteRing.read? capacity other.data region.page.tail count =
        ByteRing.read? capacity region.data region.page.tail count := by
    have front := congrArg (List.take count) same
    rw [take_backlog region capacity fits, take_backlog other capacity (by rw [tail, head]; exact fits),
      tail] at front
    rw [ByteRing.read?_eq_stored power _ held _ lap, ByteRing.read?_eq_stored power _ heldOther _ lap,
      front]
  simp only [recordAtTail, tail, head, used, room]
  split
  · rfl
  · cases found : available? region.page capacity with
    | none => rfl
    | some count =>
        obtain ⟨ordered, lap, least, rfl⟩ := (available?_eq_some_iff ..).mp found
        rw [UInt64.le_iff_toNat_le, ControlPage.toNat_used ordered] at lap least
        change RecordHeader.size ≤ _ at least
        rw [read least (Nat.le_trans least lap)]
        cases ByteRing.read? capacity region.data region.page.tail RecordHeader.size with
        | none => rfl
        | some raw =>
            dsimp only
            generalize RecordHeader.decode raw = header
            by_cases fits : header.span > region.page.used
            · rw [if_pos fits, if_pos fits]
            · rw [GT.gt, UInt64.not_lt, UInt64.le_iff_toNat_le, ControlPage.toNat_used ordered] at fits
              rw [read fits (Nat.le_trans fits lap)]

end Region

namespace Reader

@[simp] theorem capacity_count (reader : Reader) (record : Record) :
    (reader.count record).capacity = reader.capacity := by
  cases record <;> rfl

@[simp] theorem capacity_take (reader : Reader) (region : Region) :
    (reader.take region).2.1.capacity = reader.capacity := by
  unfold take
  split
  · exact reader.capacity_count _
  · rfl

theorem take_fst (reader : Reader) (region : Region) :
    (reader.take region).1 = region.recordAtTail reader.capacity := by
  unfold take
  split
  · rename_i found
    exact found.symm
  · rfl

theorem take_of_record {reader : Reader} {region : Region} {record : Record}
    (found : region.recordAtTail reader.capacity = .record record) :
    reader.take region = (.record record, reader.count record, region.release record) := by
  unfold take
  rw [found]

theorem take_of_not_record {reader : Reader} {region : Region}
    (none : ∀ record, region.recordAtTail reader.capacity ≠ .record record) :
    reader.take region = (region.recordAtTail reader.capacity, reader, region) := by
  unfold take
  split
  · rename_i record found
    exact absurd found (none record)
  · rfl

end Reader

end RecordRing
