import Mathlib.Order.Bounds.Basic
import RecordRing.Measure.Summary

set_option autoImplicit false

namespace RecordRing

namespace Summary

section Rank

variable {count permille : UInt64}

/-- A quotient rounded up is the least number that makes the dividend up. -/
theorem ceilDiv_le_iff (dividend : UInt64) (place : Nat) :
    (ceilDiv dividend 1000).toNat ≤ place ↔ dividend.toNat ≤ 1000 * place := by
  have bound := dividend.toNat_lt
  have thousand : (1000 : UInt64).toNat = 1000 := rfl
  have exact : dividend % 1000 = 0 ↔ dividend.toNat % 1000 = 0 := by
    rw [← UInt64.toNat_inj, UInt64.toNat_mod, thousand]
    rfl
  unfold ceilDiv
  dsimp only
  split
  · rename_i whole
    rw [exact] at whole
    rw [UInt64.toNat_div, thousand]
    omega
  · rename_i part
    rw [exact] at part
    have next : (dividend / 1000 + 1).toNat = dividend.toNat / 1000 + 1 := by
      rw [UInt64.toNat_add, UInt64.toNat_div, thousand]
      exact Nat.mod_eq_of_lt (by change _ + 1 < _; omega)
    rw [next]
    omega

/-- The rank of a share is the least number of samples that makes it up. Neither clamp is ever at work,
since a share of some samples is neither nothing nor more than all of them. -/
theorem rank_le_iff (some : 0 < count.toNat) (fits : 1000 * count.toNat < UInt64.size)
    (positive : 0 < permille.toNat) (whole : permille.toNat ≤ 1000) (place : Nat) :
    (rank count permille).toNat ≤ place ↔ permille.toNat * count.toNat ≤ 1000 * place := by
  have share : permille.toNat * count.toNat ≤ 1000 * count.toNat := Nat.mul_le_mul_right _ whole
  have least : 0 < permille.toNat * count.toNat := Nat.mul_pos positive some
  have product : (count * permille).toNat = permille.toNat * count.toNat := by
    rw [UInt64.toNat_mul, Nat.mul_comm]
    exact Nat.mod_eq_of_lt (Nat.lt_of_le_of_lt share fits)
  have place_iff := ceilDiv_le_iff (count * permille) place
  have zero_iff := ceilDiv_le_iff (count * permille) 0
  have count_iff := ceilDiv_le_iff (count * permille) count.toNat
  rw [product] at place_iff zero_iff count_iff
  have one : (1 : UInt64).toNat = 1 := rfl
  have clamped : (rank count permille).toNat = (ceilDiv (count * permille) 1000).toNat := by
    rw [rank, UInt64.toNat_min, UInt64.toNat_max, one]
    omega
  rw [clamped]
  exact place_iff

/-- The index of a share lies within the samples, and is one less than its rank. -/
theorem rankIndex_lt_iff {size : Nat} (some : 0 < size) (fits : 1000 * size < UInt64.size)
    (positive : 0 < permille.toNat) (whole : permille.toNat ≤ 1000) (place : Nat) :
    rankIndex size permille < place ↔ permille.toNat * size ≤ 1000 * place := by
  have word : (UInt64.ofNat size).toNat = size := by
    rw [UInt64.toNat_ofNat']
    exact Nat.mod_eq_of_lt (by change size < UInt64.size; omega)
  have rank_iff := @rank_le_iff (.ofNat size) permille (by rwa [word]) (by rwa [word]) positive whole
  rw [word] at rank_iff
  have least : 0 < permille.toNat * size := Nat.mul_pos positive some
  have one : 1 ≤ (rank (.ofNat size) permille).toNat := by
    have none := rank_iff 0
    omega
  have index : rankIndex size permille = (rank (.ofNat size) permille).toNat - 1 :=
    UInt64.toNat_sub_of_le _ _ (UInt64.le_iff_toNat_le.mpr one)
  rw [index, ← rank_iff place]
  omega

end Rank

theorem pairwise_sort (samples : List UInt64) : (sort samples).Pairwise (· ≤ ·) := by
  have sorted : (sort samples).Pairwise fun left right => decide (left ≤ right) = true := by
    apply List.pairwise_mergeSort
    · intro left middle right first second
      exact decide_eq_true (UInt64.le_trans (of_decide_eq_true first) (of_decide_eq_true second))
    · intro left right
      simpa only [Bool.or_eq_true, decide_eq_true_eq] using UInt64.le_total left right
  simpa only [decide_eq_true_eq] using sorted

theorem perm_sort (samples : List UInt64) : (sort samples).Perm samples :=
  List.mergeSort_perm ..

/-- There is one way to sort samples. -/
theorem sort_eq {samples sorted : List UInt64} (ascending : sorted.Pairwise (· ≤ ·))
    (same : sorted.Perm samples) : sort samples = sorted :=
  ((perm_sort samples).trans same.symm).eq_of_pairwise
    (fun _ _ _ _ le ge => UInt64.le_antisymm le ge) (pairwise_sort samples) ascending

/-- The sample at an index is at most a bound if and only if more samples than that are. -/
theorem lt_countP_iff {sorted : List UInt64} (ascending : sorted.Pairwise (· ≤ ·)) {index : Nat}
    (inside : index < sorted.length) (bound : UInt64) :
    index < sorted.countP (· ≤ bound) ↔ sorted[index] ≤ bound := by
  induction sorted generalizing index with
  | nil => exact absurd inside (Nat.not_lt_zero _)
  | cons first rest ih =>
      obtain ⟨least, ascending⟩ := List.pairwise_cons.mp ascending
      by_cases within : first ≤ bound
      · have counted : (first :: rest).countP (· ≤ bound) = rest.countP (· ≤ bound) + 1 :=
          List.countP_cons_of_pos (decide_eq_true within)
        rw [counted]
        cases index with
        | zero => exact iff_of_true (Nat.succ_pos _) within
        | succ index =>
            rw [Nat.succ_lt_succ_iff, List.getElem_cons_succ]
            exact ih ascending (Nat.lt_of_succ_lt_succ inside)
      · -- Nothing is at most a bound that the least sample exceeds.
        have above : ∀ sample ∈ first :: rest, ¬ sample ≤ bound := by
          intro sample member small
          rcases List.mem_cons.mp member with rfl | later
          · exact within small
          · exact within (UInt64.le_trans (least sample later) small)
        have none : (first :: rest).countP (· ≤ bound) = 0 :=
          List.countP_eq_zero.mpr fun sample member small =>
            above sample member (of_decide_eq_true small)
        rw [none]
        exact iff_of_false (Nat.not_lt_zero _) (above _ (List.getElem_mem inside))

section NearestRank

variable {samples : List UInt64} {permille : UInt64}

theorem nearestRank_eq {sorted : List UInt64}
    (inside : rankIndex sorted.length permille < sorted.length) :
    nearestRank sorted.toArray permille = sorted[rankIndex sorted.length permille] := by
  rw [nearestRank, List.size_toArray, List.getElem?_toArray, List.getElem?_eq_getElem inside,
    Option.getD_some]

/-- The index of a share lies within the samples. -/
theorem rankIndex_inside (some : samples ≠ []) (fits : 1000 * samples.length < UInt64.size)
    (positive : 0 < permille.toNat) (whole : permille.toNat ≤ 1000) :
    rankIndex samples.length permille < samples.length :=
  (rankIndex_lt_iff (List.length_pos_iff.mpr some) fits positive whole _).mpr
    (Nat.mul_le_mul_right _ whole)

/-- The share of all samples does not exceed a bound if and only if the sample of nearest rank does
not. -/
theorem nearestRank_le_iff (some : samples ≠ []) (fits : 1000 * samples.length < UInt64.size)
    (positive : 0 < permille.toNat) (whole : permille.toNat ≤ 1000) (bound : UInt64) :
    nearestRank (sort samples).toArray permille ≤ bound ↔
      permille.toNat * samples.length ≤ 1000 * samples.countP (· ≤ bound) := by
  have size : (sort samples).length = samples.length := (perm_sort samples).length_eq
  have inside := size ▸ rankIndex_inside some fits positive whole
  rw [nearestRank_eq inside, ← lt_countP_iff (pairwise_sort samples), size,
    (perm_sort samples).countP_eq]
  exact rankIndex_lt_iff (List.length_pos_iff.mpr some) fits positive whole _

/-- A sample that the share of all samples does not exceed, and the least such. -/
def IsNearestRank (samples : List UInt64) (permille : Nat) (value : UInt64) : Prop :=
  IsLeast {sample | sample ∈ samples ∧
    permille * samples.length ≤ 1000 * samples.countP (· ≤ sample)} value

theorem isNearestRank_nearestRank (some : samples ≠ [])
    (fits : 1000 * samples.length < UInt64.size) (positive : 0 < permille.toNat)
    (whole : permille.toNat ≤ 1000) :
    IsNearestRank samples permille.toNat (nearestRank (sort samples).toArray permille) := by
  have bounds := nearestRank_le_iff some fits positive whole
  have size : (sort samples).length = samples.length := (perm_sort samples).length_eq
  have inside := size ▸ rankIndex_inside some fits positive whole
  refine ⟨⟨?_, (bounds _).mp (UInt64.le_refl _)⟩, fun sample enough => (bounds sample).mpr enough.2⟩
  rw [nearestRank_eq inside]
  exact (perm_sort samples).mem_iff.mp (List.getElem_mem _)

/-- A larger share has a larger sample of nearest rank. -/
theorem IsNearestRank.mono {smaller larger : Nat} {first second : UInt64}
    (less : IsNearestRank samples smaller first) (more : IsNearestRank samples larger second)
    (le : smaller ≤ larger) : first ≤ second :=
  less.2 ⟨more.1.1, Nat.le_trans (Nat.mul_le_mul_right _ le) more.1.2⟩

end NearestRank

/-- A summary says of samples how many there are, the least and the greatest, and four nearest ranks. -/
structure Describes (summary : Summary) (samples : List UInt64) : Prop where
  count : summary.samples = samples.length
  least : IsLeast {sample | sample ∈ samples} summary.min
  p50 : IsNearestRank samples 500 summary.p50
  p90 : IsNearestRank samples 900 summary.p90
  p99 : IsNearestRank samples 990 summary.p99
  p999 : IsNearestRank samples 999 summary.p999
  greatest : IsGreatest {sample | sample ∈ samples} summary.max

variable {samples : List UInt64} {summary : Summary}

/-- The figures of a summary ascend. -/
theorem Describes.ascending (describes : summary.Describes samples) :
    summary.min ≤ summary.p50 ∧ summary.p50 ≤ summary.p90 ∧ summary.p90 ≤ summary.p99 ∧
      summary.p99 ≤ summary.p999 ∧ summary.p999 ≤ summary.max := by
  have first := describes.least.2 describes.p50.1.1
  have second := describes.p50.mono describes.p90 (by decide)
  have third := describes.p90.mono describes.p99 (by decide)
  have fourth := describes.p99.mono describes.p999 (by decide)
  have last := describes.greatest.2 describes.p999.1.1
  exact ⟨first, second, third, fourth, last⟩

theorem isLeast_sort {first : UInt64} {rest : List UInt64} (sorted : sort samples = first :: rest) :
    IsLeast {sample | sample ∈ samples} first := by
  have ascending := sorted ▸ pairwise_sort samples
  have members (sample : UInt64) : sample ∈ samples ↔ sample ∈ first :: rest := by
    rw [← sorted, (perm_sort samples).mem_iff]
  refine ⟨(members first).mpr List.mem_cons_self, fun sample member => ?_⟩
  rcases List.mem_cons.mp ((members sample).mp member) with rfl | later
  · exact UInt64.le_refl _
  · exact (List.pairwise_cons.mp ascending).1 sample later

theorem isGreatest_sort {last : UInt64} {front : List UInt64} (sorted : sort samples = front ++ [last]) :
    IsGreatest {sample | sample ∈ samples} last := by
  have ascending := sorted ▸ pairwise_sort samples
  have members (sample : UInt64) : sample ∈ samples ↔ sample ∈ front ++ [last] := by
    rw [← sorted, (perm_sort samples).mem_iff]
  refine ⟨(members last).mpr (List.mem_append_right _ List.mem_cons_self), fun sample member => ?_⟩
  rcases List.mem_append.mp ((members sample).mp member) with earlier | final
  · exact (List.pairwise_append.mp ascending).2.2 sample earlier last List.mem_cons_self
  · exact List.mem_singleton.mp final ▸ UInt64.le_refl _

theorem ofSamples?_nil : ofSamples? [] = none := by
  simp [ofSamples?, sort]

/-- Some samples have a summary, which describes them. -/
theorem exists_describes (some : samples ≠ []) (fits : 1000 * samples.length < UInt64.size) :
    ∃ summary, ofSamples? samples = .some summary ∧ summary.Describes samples := by
  have size : (sort samples).length = samples.length := (perm_sort samples).length_eq
  have filled : sort samples ≠ [] := by
    rw [← List.length_pos_iff, size]
    exact List.length_pos_iff.mpr some
  obtain ⟨first, rest, front⟩ := List.exists_cons_of_ne_nil filled
  have back := (List.dropLast_concat_getLast filled).symm
  generalize (sort samples).dropLast = earlier, (sort samples).getLast filled = last at back
  have least : (sort samples).toArray[0]? = .some first := by
    rw [front]
    rfl
  have greatest : (sort samples).toArray.back? = .some last := by
    rw [back, ← List.push_toArray, Array.back?_push]
  have nearest (permille : UInt64) (positive : 0 < permille.toNat) (whole : permille.toNat ≤ 1000) :=
    isNearestRank_nearestRank some fits positive whole
  refine ⟨_, by rw [ofSamples?, least, greatest], ?_⟩
  constructor
  case count => exact size
  case least => exact isLeast_sort front
  case p50 => exact nearest 500 (by decide) (by decide)
  case p90 => exact nearest 900 (by decide) (by decide)
  case p99 => exact nearest 990 (by decide) (by decide)
  case p999 => exact nearest 999 (by decide) (by decide)
  case greatest => exact isGreatest_sort back

/-- What becomes of samples: they are sorted, and their summary, which there is unless there are none,
gives the least and the greatest of them and, for each share, the least one that the share of all
samples does not exceed; these figures ascend. Every index that is looked at lies within them. -/
theorem summarises (samples : List UInt64) (fits : 1000 * samples.length < UInt64.size) :
    ((sort samples).Pairwise (· ≤ ·) ∧ (sort samples).Perm samples) ∧
      (samples = [] → ofSamples? samples = none) ∧
      (samples ≠ [] →
        (∀ permille ∈ [500, 900, 990, 999],
          rankIndex samples.length permille < (sort samples).length) ∧
        ∃ summary, ofSamples? samples = some summary ∧ summary.Describes samples ∧
          summary.min ≤ summary.p50 ∧ summary.p50 ≤ summary.p90 ∧ summary.p90 ≤ summary.p99 ∧
          summary.p99 ≤ summary.p999 ∧ summary.p999 ≤ summary.max) := by
  refine ⟨⟨pairwise_sort samples, perm_sort samples⟩, ?_, ?_⟩
  · rintro rfl
    exact ofSamples?_nil
  · intro some
    obtain ⟨summary, found, describes⟩ := exists_describes some fits
    refine ⟨?_, summary, found, describes, describes.ascending⟩
    intro permille share
    rw [(perm_sort samples).length_eq]
    have bounds : 0 < permille.toNat ∧ permille.toNat ≤ 1000 := by
      simp only [List.mem_cons, List.not_mem_nil, or_false] at share
      rcases share with rfl | rfl | rfl | rfl <;> decide
    exact rankIndex_inside some fits bounds.1 bounds.2

/-- Seven samples with ties: half of them are at most five, and nine tenths only with the last. -/
theorem summarises_ties :
    let samples : List UInt64 := [7, 3, 7, 5, 3, 9, 3]
    1000 * samples.length < UInt64.size ∧ samples ≠ [] ∧
      ∃ summary, ofSamples? samples = some summary ∧ summary.Describes samples ∧
        [summary.min, summary.p50, summary.p90, summary.max] = [3, 5, 9, 9] := by
  intro samples
  have fits : 1000 * samples.length < UInt64.size := by decide
  have some : samples ≠ [] := by decide
  obtain ⟨-, summary, found, describes, -⟩ := (summarises samples fits).2.2 some
  refine ⟨fits, some, summary, found, describes, ?_⟩
  have sorted : sort samples = [3, 3, 3, 5, 7, 7, 9] := sort_eq (by decide) (by decide)
  rw [ofSamples?, sorted] at found
  obtain rfl := Option.some.inj found
  decide +kernel

end Summary

end RecordRing
