import RecordRing.Proofs.Creation

set_option autoImplicit false

namespace RecordRing

/-- A file that holds a ring, whole and sound, and nothing behind it. -/
structure Region.Filled (region : Region) (capacity : UInt64) : Prop where
  named : region.page.capacity = capacity
  power : isPowerOfTwo capacity = true
  size : (RingFile.whole region).size = controlPageSize.toNat + capacity.toNat
  marks : region.page.lo ≤ region.page.hi
  ordered : region.page.tail ≤ region.page.head
  lap : region.page.used ≤ capacity

namespace RingFile

variable {region : Region} {capacity : UInt64}

theorem ofNat_size (filled : region.Filled capacity) :
    UInt64.ofNat (whole region).size = bytesForRing capacity := by
  rw [filled.size, ← toNat_bytesForRing filled.power, UInt64.ofNat_toNat]

/-- The checks of a page, in their order, where only the length of the view can be wrong. -/
theorem validate_of_filled (filled : region.Filled capacity) (length : UInt64) :
    region.page.validate length =
      if length < bytesForRing capacity then .error (.viewTooSmall length (bytesForRing capacity))
      else .ok () := by
  by_cases short : length < bytesForRing capacity
  · rw [if_pos short, ControlPage.validate, filled.named, filled.power, if_neg (by simp),
      if_pos short]
  · rw [if_neg short, ControlPage.validate_eq_ok_iff, filled.named]
    exact ⟨filled.power, UInt64.not_lt.mp short, filled.marks, filled.ordered, filled.lap⟩

/-- A view that the file grants is answered by its length alone. -/
theorem attach_of_granted (filled : region.Filled capacity) {view : Option UInt64} {length : UInt64}
    (granted : MappedFile.viewLength (bytesForRing capacity) view = .ok length) :
    (whole region).attach view =
      if length < controlPageSize then .error (.viewTooSmall length controlPageSize)
      else if length < bytesForRing capacity then
        .error (.viewTooSmall length (bytesForRing capacity))
      else .ok capacity := by
  have checked := validate_of_filled filled length
  rw [attach, capacityIn, ofNat_size filled, granted]
  change (if length < controlPageSize then Except.error (RingError.viewTooSmall length controlPageSize)
    else region.page.validate length >>= fun _ => pure region.page.capacity) = _
  rw [checked, filled.named]
  by_cases page : length < controlPageSize
  · rw [if_pos page, if_pos page]
  · rw [if_neg page, if_neg page]
    by_cases short : length < bytesForRing capacity
    · rw [if_pos short, if_pos short]
      rfl
    · rw [if_neg short, if_neg short]
      rfl

theorem controlPageSize_le (power : isPowerOfTwo capacity = true) :
    controlPageSize ≤ bytesForRing capacity := by
  rw [UInt64.le_iff_toNat_le, toNat_bytesForRing power]
  omega

/-- All of the file can be mapped. -/
theorem attach_whole (filled : region.Filled capacity) : (whole region).attach none = .ok capacity := by
  have page := UInt64.not_lt.mpr (controlPageSize_le filled.power)
  rw [attach_of_granted filled rfl, if_neg page, if_neg (UInt64.lt_irrefl _)]

/-- A view is granted where it is as long as the file; a longer one is refused by the file, a shorter
one by the page, or for want of a page. -/
theorem attach_view (filled : region.Filled capacity) (length : UInt64) :
    (length = bytesForRing capacity → (whole region).attach (some length) = .ok capacity) ∧
      (bytesForRing capacity < length → (whole region).attach (some length) =
        .error (.viewTooLarge length (bytesForRing capacity))) ∧
      (length < bytesForRing capacity → (whole region).attach (some length) =
        .error (.viewTooSmall length
          (if length < controlPageSize then controlPageSize else bytesForRing capacity))) := by
  have page := UInt64.not_lt.mpr (controlPageSize_le filled.power)
  refine ⟨?_, ?_, ?_⟩
  · rintro rfl
    have granted : MappedFile.viewLength (bytesForRing capacity) (some (bytesForRing capacity)) =
        .ok (bytesForRing capacity) := if_neg (UInt64.lt_irrefl _)
    rw [attach_of_granted filled granted, if_neg page, if_neg (UInt64.lt_irrefl _)]
  · intro long
    have refused : MappedFile.viewLength (bytesForRing capacity) (some length) =
        .error ⟨length, bytesForRing capacity⟩ := if_pos long
    rw [attach, capacityIn, ofNat_size filled, refused]
    rfl
  · intro short
    have granted : MappedFile.viewLength (bytesForRing capacity) (some length) = .ok length :=
      if_neg (UInt64.not_lt.mpr (UInt64.le_of_lt short))
    rw [attach_of_granted filled granted, if_pos short]
    by_cases least : length < controlPageSize
    · rw [if_pos least, if_pos least]
    · rw [if_neg least, if_neg least]

end RingFile

/-- The file of a ring that was made here is filled by it, whatever has been done to it since. -/
theorem Channel.filled_of_framed {plan : RingPlan} {made channel : Channel} {records : List Record}
    (fresh : Fresh plan made) (framed : Framed made channel) (holds : Holds channel records) :
    channel.region.Filled channel.capacity := by
  have marks := (framed.marked fresh.marked).ordered
  have padding := fresh.padding
  have data := framed.size.trans fresh.size
  rw [← framed.padding] at padding
  refine ⟨?_, holds.power, ?_, marks, holds.ordered, ?_⟩
  · change channel.page.capacity = channel.capacity
    rw [framed.named, framed.capacity, fresh.page, fresh.capacity]
    rfl
  · rw [RingFile.size, data, framed.capacity, fresh.capacity, padding]
  · rw [UInt64.le_iff_toNat_le]
    change channel.page.used.toNat ≤ _
    rw [holds.toNat_used]
    exact holds.lap

end RecordRing
