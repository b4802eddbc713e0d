import RecordRing.Watermark

set_option autoImplicit false

namespace RecordRing

theorem Edge.ofFill_eq_rising_iff (latched : Bool) (percent hi lo : UInt32) :
    ofFill latched percent hi lo = some rising ↔ latched = false ∧ hi ≤ percent := by
  unfold ofFill
  cases latched with
  | true => by_cases low : percent ≤ lo <;> simp [low]
  | false => by_cases high : hi ≤ percent <;> simp [high]

/-- A latch, and when it was last set and cleared. -/
structure Gauge where
  latched : Bool := false
  highCrossed : UInt64 := 0
  lowCrossed : UInt64 := 0
  deriving DecidableEq

namespace Gauge

def note (gauge : Gauge) (hi lo : UInt32) (time : UInt64) (percent : UInt32) : Gauge :=
  match Edge.ofFill gauge.latched percent hi lo with
  | none => gauge
  | some .rising => { gauge with latched := true, highCrossed := time }
  | some .falling => { gauge with latched := false, lowCrossed := time }

/-- A look at this fill makes no edge. -/
structure Fits (gauge : Gauge) (hi lo percent : UInt32) : Prop where
  above : gauge.latched = true → lo < percent
  below : gauge.latched = false → percent < hi

variable {gauge : Gauge} {hi lo percent next : UInt32}

theorem note_of_latched (latched : gauge.latched = true) (time : UInt64) :
    gauge.note hi lo time percent =
      if percent ≤ lo then { gauge with latched := false, lowCrossed := time } else gauge := by
  unfold note Edge.ofFill
  by_cases low : percent ≤ lo <;> simp [latched, low]

theorem note_of_clear (clear : gauge.latched = false) (time : UInt64) :
    gauge.note hi lo time percent =
      if hi ≤ percent then { gauge with latched := true, highCrossed := time } else gauge := by
  unfold note Edge.ofFill
  by_cases high : hi ≤ percent <;> simp [clear, high]

theorem note_of_fits (fits : gauge.Fits hi lo percent) (time : UInt64) :
    gauge.note hi lo time percent = gauge := by
  cases set : gauge.latched with
  | true => rw [note_of_latched set, if_neg (UInt32.not_le.mpr (fits.above set))]
  | false => rw [note_of_clear set, if_neg (UInt32.not_le.mpr (fits.below set))]

/-- Where the marks are apart, one look settles the gauge. -/
theorem fits_note (apart : lo < hi) (time : UInt64) :
    (gauge.note hi lo time percent).Fits hi lo percent := by
  cases set : gauge.latched with
  | true =>
      rw [note_of_latched set]
      by_cases low : percent ≤ lo
      · rw [if_pos low]
        exact ⟨nofun, fun _ => UInt32.lt_of_le_of_lt low apart⟩
      · rw [if_neg low]
        exact ⟨fun _ => UInt32.not_le.mp low, fun clear => by rw [set] at clear; cases clear⟩
  | false =>
      rw [note_of_clear set]
      by_cases high : hi ≤ percent
      · rw [if_pos high]
        exact ⟨fun _ => UInt32.lt_of_lt_of_le apart high, nofun⟩
      · rw [if_neg high]
        exact ⟨fun latched => (by rw [set] at latched; cases latched), fun _ => UInt32.not_le.mp high⟩

/-- Of two looks at one time at a fill that only falls, the second says all, unless the first one could
have found a rise. -/
theorem note_note (apart : lo < hi) (lower : next ≤ percent)
    (below : gauge.latched = false → percent < hi) (time : UInt64) :
    (gauge.note hi lo time percent).note hi lo time next = gauge.note hi lo time next := by
  cases set : gauge.latched with
  | true =>
      by_cases low : percent ≤ lo
      · -- The latch falls at the first look, and the second finds it clear.
        have lowest : next ≤ lo := UInt32.le_trans lower low
        have under : ¬ hi ≤ next := UInt32.not_le.mpr (UInt32.lt_of_le_of_lt lowest apart)
        rw [note_of_latched set, note_of_latched set, if_pos low, if_pos lowest, note_of_clear rfl,
          if_neg under]
      · have same : gauge.note hi lo time percent = gauge := by rw [note_of_latched set, if_neg low]
        rw [same]
  | false =>
      have same : gauge.note hi lo time percent = gauge := by
        rw [note_of_clear set, if_neg (UInt32.not_le.mpr (below set))]
      rw [same]

end Gauge

structure Mark where
  time : UInt64
  percent : UInt32
  deriving DecidableEq

namespace Mark

/-- The last fill of a history, which is told newest first; an empty ring is the first. -/
def level : List Mark → UInt32
  | [] => 0
  | mark :: _ => mark.percent

/-- The fill has been at the high mark, and has not fallen to the low one since. -/
def risen (hi lo : UInt32) : List Mark → Bool
  | [] => false
  | mark :: older => hi ≤ mark.percent || (lo < mark.percent && risen hi lo older)

/-- When the fill last came to the high mark for the first time since it was at the low one. -/
def lastRise (hi lo : UInt32) : List Mark → UInt64
  | [] => 0
  | mark :: older =>
      if hi ≤ mark.percent ∧ risen hi lo older = false then mark.time else lastRise hi lo older

/-- When the fill last came to the low mark for the first time since it was at the high one. -/
def lastFall (hi lo : UInt32) : List Mark → UInt64
  | [] => 0
  | mark :: older =>
      if mark.percent ≤ lo ∧ risen hi lo older = true then mark.time else lastFall hi lo older

/-- What a gauge shows that was noted at every mark. -/
def gauge (hi lo : UInt32) : List Mark → Gauge
  | [] => {}
  | mark :: older => (gauge hi lo older).note hi lo mark.time mark.percent

variable {hi lo : UInt32}

/-- Told by moments: one at the high mark or over it, and none at the low one or under it since. -/
theorem risen_iff (history : List Mark) :
    risen hi lo history = true ↔ ∃ since mark before, history = since ++ mark :: before ∧
      hi ≤ mark.percent ∧ ∀ later ∈ since, lo < later.percent := by
  induction history with
  | nil =>
      constructor
      · nofun
      · rintro ⟨since, mark, before, split, -⟩
        cases since <;> cases split
  | cons last older ih =>
      simp only [risen, Bool.or_eq_true, Bool.and_eq_true, decide_eq_true_eq]
      constructor
      · rintro (high | ⟨above, old⟩)
        · exact ⟨[], last, older, rfl, high, nofun⟩
        · obtain ⟨since, mark, before, split, high, after⟩ := ih.mp old
          refine ⟨last :: since, mark, before, by rw [split]; rfl, high, ?_⟩
          intro later member
          rcases List.mem_cons.mp member with rfl | member
          · exact above
          · exact after later member
      · rintro ⟨since, mark, before, split, high, after⟩
        cases since with
        | nil =>
            cases split
            exact Or.inl high
        | cons newest since =>
            cases split
            refine Or.inr ⟨after _ List.mem_cons_self, ih.mpr ⟨since, mark, before, rfl, high, ?_⟩⟩
            exact fun later member => after later (List.mem_cons_of_mem _ member)

/-- A gauge that was noted at every mark shows what the history tells. -/
theorem gauge_eq (apart : lo < hi) (history : List Mark) :
    gauge hi lo history =
      ⟨risen hi lo history, lastRise hi lo history, lastFall hi lo history⟩ := by
  induction history with
  | nil => rfl
  | cons mark older ih =>
      rw [gauge, ih]
      cases old : risen hi lo older with
      | true =>
          rw [Gauge.note_of_latched rfl]
          by_cases low : mark.percent ≤ lo
          · have under : ¬ hi ≤ mark.percent :=
              UInt32.not_le.mpr (UInt32.lt_of_le_of_lt low apart)
            simp [risen, lastRise, lastFall, old, low, under, UInt32.not_lt.mpr low]
          · simp [risen, lastRise, lastFall, old, low, UInt32.not_le.mp low]
      | false =>
          rw [Gauge.note_of_clear rfl]
          by_cases high : hi ≤ mark.percent
          · simp [risen, lastRise, lastFall, old, high]
          · simp [risen, lastRise, lastFall, old, high]

theorem fits_gauge (apart : lo < hi) (history : List Mark) :
    (gauge hi lo history).Fits hi lo (level history) := by
  cases history with
  | nil => exact ⟨nofun, fun _ => UInt32.lt_of_le_of_lt UInt32.zero_le apart⟩
  | cons mark older => exact Gauge.fits_note apart mark.time

end Mark

end RecordRing
