import Mathlib.Control.Monad.Basic
import RecordRing.Proofs.Crossings
import RecordRing.Proofs.FileViews

set_option autoImplicit false

namespace RecordRing

/-- The control page of a ring that was made here, of which so many bytes are mapped. -/
structure ControlPage.Proper (page : ControlPage) (length : UInt64) : Prop where
  power : isPowerOfTwo page.capacity = true
  least : minCapacity ≤ page.capacity
  room : controlPageSize.toNat + page.capacity.toNat ≤ length.toNat
  marks : page.lo ≤ page.hi
  percent : page.hi ≤ 100
  ordered : page.tail ≤ page.head
  lap : page.head.toNat - page.tail.toNat ≤ page.capacity.toNat

/-- Whatever has been done to a ring that was made here, its page is proper. -/
theorem Channel.proper_of_framed {plan : RingPlan} {made channel : Channel} {records : List Record}
    (fresh : Fresh plan made) (framed : Framed made channel) (holds : Holds channel records) :
    channel.page.Proper (bytesForRing channel.capacity) := by
  have filled := filled_of_framed fresh framed holds
  have marked := framed.marked fresh.marked
  obtain ⟨power, least, -⟩ := plan.validate_eq_ok_iff.mp fresh.valid
  have named : channel.page.capacity = plan.capacity :=
    filled.named.trans (framed.capacity.trans fresh.capacity)
  have same : channel.page.capacity = channel.capacity := filled.named
  constructor
  case power => rwa [named]
  case least => rwa [named]
  case room =>
    rw [same]
    exact Nat.le_of_eq (toNat_bytesForRing filled.power).symm
  case marks => exact marked.ordered
  case percent => exact marked.percent
  case ordered => exact filled.ordered
  case lap =>
    have lap := UInt64.le_iff_toNat_le.mp filled.lap
    rw [ControlPage.toNat_used filled.ordered] at lap
    rwa [same]

namespace Reader

variable {reader : Reader} {page : ControlPage}

/-- In front of a full ring a reader is ready, unless the high watermark is beyond all percentages. -/
theorem isReady_of_full (some : reader.capacity ≠ 0) (full : page.used = reader.capacity) :
    reader.isReady page = true ↔ page.hi ≤ 100 := by
  rw [isReady, full, utilization_self some, decide_eq_true_iff]

/-- Beyond them it is never ready. -/
theorem isReady_of_beyond (beyond : 100 < page.hi) (room : page.used ≤ reader.capacity) :
    reader.isReady page = false := by
  rw [isReady, decide_eq_false_iff_not, UInt32.not_le]
  exact UInt32.lt_of_le_of_lt (utilization_le room) beyond

end Reader

/-- A ring of fewer bytes than a header takes hands out no record. -/
theorem Region.recordAtTail_ne_record {capacity : UInt64} (tiny : capacity < 16) (region : Region)
    (record : Record) : region.recordAtTail capacity ≠ .record record := by
  intro found
  have none : available? region.page capacity = .none := by
    rw [Option.eq_none_iff_forall_not_mem]
    intro count member
    obtain ⟨-, within, least, -⟩ := (available?_eq_some_iff region.page capacity count).mp member
    rw [UInt64.le_iff_toNat_le] at within least
    rw [UInt64.lt_iff_toNat_lt] at tiny
    omega
  simp only [recordAtTail, none] at found
  split at found <;> cases found

/-- What is known of a page that was admitted through a view of so many bytes. -/
structure ControlPage.Admitted (page : ControlPage) (length : UInt64) : Prop where
  power : isPowerOfTwo page.capacity = true
  room : controlPageSize.toNat + page.capacity.toNat ≤ length.toNat
  marks : page.lo ≤ page.hi
  ordered : page.tail ≤ page.head
  lap : page.head.toNat - page.tail.toNat ≤ page.capacity.toNat
  /-- Two checks are wanting to make it that of a ring that was made. -/
  proper_iff : page.Proper length ↔ minCapacity ≤ page.capacity ∧ page.hi ≤ 100
  /-- A reader of it that is full. -/
  full_iff : ∀ reader : Reader, reader.capacity = page.capacity → page.used = page.capacity →
    (reader.isReady page = true ↔ page.hi ≤ 100)
  /-- A reader of it that never gets ready, wherever the cursors go. -/
  unready : 100 < page.hi → ∀ (reader : Reader) (later : ControlPage),
    reader.capacity = page.capacity → later.hi = page.hi → later.used ≤ page.capacity →
      reader.isReady later = false
  /-- A reader of it that never gets a record, wherever the cursors go and whatever is written. -/
  barren : page.capacity < 16 → ∀ (region : Region) (record : Record),
    region.recordAtTail page.capacity ≠ .record record

/-- The checks that are made of a page, and what they come to. -/
theorem ControlPage.admitted_iff (page : ControlPage) (length : UInt64) :
    page.Admitted length ↔ page.validate length = .ok () := by
  rw [validate_eq_ok_iff]
  constructor
  · intro admitted
    have ordered := admitted.ordered
    have lap := admitted.lap
    have room := admitted.room
    rw [← toNat_bytesForRing admitted.power, ← UInt64.le_iff_toNat_le] at room
    rw [← ControlPage.toNat_used ordered, ← UInt64.le_iff_toNat_le] at lap
    exact ⟨admitted.power, room, admitted.marks, ordered, lap⟩
  · rintro ⟨power, room, marks, ordered, lap⟩
    have some : page.capacity ≠ 0 := by
      intro zero
      rw [zero] at power
      cases power
    have reach := room
    have within := lap
    rw [UInt64.le_iff_toNat_le, toNat_bytesForRing power] at reach
    rw [UInt64.le_iff_toNat_le, ControlPage.toNat_used ordered] at within
    constructor
    case power => exact power
    case room => exact reach
    case marks => exact marks
    case ordered => exact ordered
    case lap => exact within
    case proper_iff =>
      constructor
      · intro proper
        exact ⟨proper.least, proper.percent⟩
      · rintro ⟨least, percent⟩
        exact ⟨power, least, reach, marks, percent, ordered, within⟩
    case full_iff =>
      intro reader same full
      apply Reader.isReady_of_full
      · rwa [same]
      · rw [full, same]
    case unready =>
      intro beyond reader later same hi room
      apply Reader.isReady_of_beyond
      · rwa [hi]
      · rwa [same]
    case barren =>
      intro tiny
      exact Region.recordAtTail_ne_record tiny

namespace RingFile

/-- A file is attached to exactly where a view of it is granted and the page in it admitted. -/
theorem attach_admits (file : Buffer) (view : Option UInt64) (capacity : UInt64) :
    (ofBytes file).attach view = .ok capacity ↔
      ∃ length page,
        MappedFile.viewLength (UInt64.ofNat file.size) view = .ok length ∧
        Region.pageOf? file = some page ∧ page.capacity = capacity ∧ page.Admitted length := by
  rw [attach_eq_ok_iff, size_ofBytes, page?_ofBytes]
  constructor
  · rintro ⟨length, page, granted, found, -, checked, named⟩
    exact ⟨length, page, granted, found, named, (page.admitted_iff length).mpr checked⟩
  · rintro ⟨length, page, granted, found, named, admitted⟩
    have least : controlPageSize ≤ length := by
      rw [UInt64.le_iff_toNat_le]
      exact Nat.le_trans (Nat.le_add_right ..) admitted.room
    exact ⟨length, page, granted, found, least, (page.admitted_iff length).mp admitted, named⟩

/-- The page of a ring of 64 bytes, all of them published, with a high watermark of 101 percent. -/
def beyondPage : ControlPage :=
  { ControlPage.fresh 64 101 0 with head := 64 }

def beyondFile : Buffer :=
  Buffer.write (.zeros 4160) 0 beyondPage.encode

/-- The file is attached to, and its ring, full as it is, is not ready. -/
theorem attach_admits_beyond :
    (ofBytes beyondFile).attach none = .ok 64 ∧ Region.pageOf? beyondFile = some beyondPage ∧
      ¬ beyondPage.Proper 4160 ∧ beyondPage.used = 64 ∧
      ({ capacity := 64, inProcess := false } : Reader).isReady beyondPage = false := by
  refine ⟨by decide +kernel, by decide +kernel, ?_, by decide, by decide⟩
  intro proper
  have percent := proper.percent
  revert percent
  decide

end RingFile

end RecordRing
