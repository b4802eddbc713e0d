import RecordRing.Proofs.StoredBytes
import RecordRing.Region

set_option autoImplicit false

namespace RecordRing

/-- The largest power of two in a word leaves room for a control page beside it. -/
theorem toNat_bytesForRing {capacity : UInt64} (power : isPowerOfTwo capacity = true) :
    (bytesForRing capacity).toNat = controlPageSize.toNat + capacity.toNat := by
  obtain ⟨laps, exact⟩ := ByteRing.capacity_dvd_size power
  have below : capacity.toNat < UInt64.size := capacity.toNat_lt
  have twice : 2 ≤ laps := by
    rcases Nat.lt_or_ge laps 2 with few | many
    · have product := Nat.mul_le_mul_left capacity.toNat (by omega : laps ≤ 1)
      omega
    · exact many
  have half := Nat.mul_le_mul_left capacity.toNat twice
  rw [bytesForRing, UInt64.toNat_add]
  have page : controlPageSize.toNat = 4096 := rfl
  have size : UInt64.size = 18446744073709551616 := rfl
  exact Nat.mod_eq_of_lt (by omega)

theorem ControlPage.validate_eq_ok_iff (page : ControlPage) (view : UInt64) :
    page.validate view = .ok () ↔
      isPowerOfTwo page.capacity = true ∧ bytesForRing page.capacity ≤ view ∧ page.lo ≤ page.hi ∧
        page.tail ≤ page.head ∧ page.used ≤ page.capacity := by
  unfold validate
  split
  · rename_i odd
    simp only [reduceCtorEq, false_iff]
    rintro ⟨power, -⟩
    simp [power] at odd
  · rename_i power
    split
    · rename_i short
      simp only [reduceCtorEq, false_iff]
      rintro ⟨-, long, -⟩
      exact UInt64.not_lt.mpr long short
    · rename_i long
      split
      · rename_i crossed
        simp only [reduceCtorEq, false_iff]
        rintro ⟨-, -, ordered, -⟩
        exact UInt32.not_lt.mpr ordered crossed
      · rename_i ordered
        split
        · rename_i apart
          simp only [Bool.or_eq_true, decide_eq_true_eq] at apart
          simp only [reduceCtorEq, false_iff]
          rintro ⟨-, -, -, before, lap⟩
          rcases apart with behind | beyond
          · exact UInt64.not_lt.mpr before behind
          · exact UInt64.not_lt.mpr lap beyond
        · rename_i together
          simp only [Bool.or_eq_true, decide_eq_true_eq, not_or] at together
          simp only [true_iff]
          exact ⟨by simpa using power, UInt64.not_lt.mp long, UInt32.not_lt.mp ordered,
            UInt64.not_lt.mp together.1, UInt64.not_lt.mp together.2⟩

theorem MappedFile.le_of_viewLength {available length : UInt64} {view : Option UInt64}
    (granted : viewLength available view = .ok length) : length ≤ available := by
  unfold viewLength at granted
  split at granted
  · cases granted
    exact UInt64.le_refl _
  · split at granted
    · cases granted
    · rename_i within
      cases granted
      exact UInt64.not_lt.mp within

namespace RingFile

/-- Attaching succeeds exactly when the view is granted, reaches over a control page, and the page
passes its checks for that length. -/
theorem attach_eq_ok_iff (file : RingFile) (view : Option UInt64) (capacity : UInt64) :
    file.attach view = .ok capacity ↔
      ∃ length page, MappedFile.viewLength (UInt64.ofNat file.size) view = .ok length ∧
        file.page? = some page ∧ controlPageSize ≤ length ∧ page.validate length = .ok () ∧
          page.capacity = capacity := by
  unfold attach capacityIn
  cases granted : MappedFile.viewLength (UInt64.ofNat file.size) view with
  | error fault =>
      change Except.error (RingError.viewTooLarge fault.requested fault.available) = .ok capacity ↔ _
      simp
  | ok length =>
      have passed : ∀ change : MappedFile.ViewFault → RingError,
          (Except.ok length : Except _ UInt64).mapError change = .ok length := fun _ => rfl
      simp only [passed, bind, Except.bind]
      cases found : file.page? with
      | none => simp
      | some page =>
          simp only [UInt64.lt_iff_toNat_lt, UInt64.le_iff_toNat_le]
          split
          · rename_i short
            simp only [reduceCtorEq, false_iff]
            rintro ⟨_, _, same, _, long, -⟩
            cases same
            omega
          · rename_i long
            cases checked : page.validate length with
            | error fault => simp [checked]
            | ok done => simp [checked, pure, Except.pure, Nat.not_lt.mp long]

/-- Nothing of a file is lost when its page is told from its data. -/
theorem size_ofBytes (file : Buffer) : (ofBytes file).size = file.size := by
  unfold ofBytes
  split
  · rfl
  · rename_i long
    have page : controlPageSize.toNat = 4096 := rfl
    simp only [RingFile.size, Region.ofBytes, Buffer.extract, ControlPage.size]
    omega

/-- A file that was attached to holds a whole ring of the capacity that its page names. -/
structure Attached (file : Buffer) (capacity : UInt64) : Prop where
  named : (Region.ofBytes file).page.capacity = capacity
  power : isPowerOfTwo capacity = true
  room : controlPageSize.toNat + capacity.toNat ≤ file.size
  marks : (Region.ofBytes file).page.lo ≤ (Region.ofBytes file).page.hi
  ordered : (Region.ofBytes file).page.tail ≤ (Region.ofBytes file).page.head
  lap : (Region.ofBytes file).page.used ≤ capacity

theorem attached_of_attach {file : Buffer} {view : Option UInt64} {capacity : UInt64}
    (attached : (ofBytes file).attach view = .ok capacity) : Attached file capacity := by
  obtain ⟨length, page, granted, found, -, checked, rfl⟩ := (attach_eq_ok_iff ..).mp attached
  obtain ⟨power, long, marks, ordered, lap⟩ := (page.validate_eq_ok_iff length).mp checked
  have within := UInt64.le_iff_toNat_le.mp (MappedFile.le_of_viewLength granted)
  have cut : (UInt64.ofNat (ofBytes file).size).toNat ≤ (ofBytes file).size := by
    rw [UInt64.toNat_ofNat']
    exact Nat.mod_le ..
  have size := size_ofBytes file
  have same : (Region.ofBytes file).page = page := by
    rw [page?_ofBytes, Region.pageOf?] at found
    split at found
    · cases found
    · exact Option.some.inj found
  rw [UInt64.le_iff_toNat_le, toNat_bytesForRing power] at long
  rw [← same] at power long marks ordered lap ⊢
  exact ⟨rfl, power, by omega, marks, ordered, lap⟩

end RingFile

end RecordRing
