import RecordRing.Proofs.FillHistory
import RecordRing.Proofs.Story

set_option autoImplicit false

namespace RecordRing

@[simp] theorem utilization_zero (capacity : UInt64) : utilization 0 capacity = 0 := by
  unfold utilization
  by_cases none : capacity = 0
  · rw [if_pos none]
  · rw [if_neg none]
    simp

/-- In a ring with room for all of it, a smaller fill is no larger share. -/
theorem utilization_mono {used more capacity : UInt64} (less : used ≤ more)
    (room : more ≤ capacity) : utilization used capacity ≤ utilization more capacity := by
  unfold utilization
  by_cases none : capacity = 0
  · rw [if_pos none, if_pos none]
    exact UInt32.le_refl _
  · have positive : 0 < capacity.toNat := by
      apply Nat.pos_of_ne_zero
      intro zero
      exact none (UInt64.toNat_inj.mp zero)
    rw [UInt64.le_iff_toNat_le] at less room
    have most : more.toNat * 100 / capacity.toNat ≤ 100 := by
      apply Nat.div_le_of_le_mul
      exact Nat.mul_le_mul_right 100 room
    have lower : used.toNat * 100 / capacity.toNat ≤ more.toNat * 100 / capacity.toNat :=
      Nat.div_le_div_right (Nat.mul_le_mul_right 100 less)
    have words : 2 ^ 32 = 4294967296 := rfl
    rw [if_neg none, if_neg none, UInt32.le_iff_toNat_le, UInt32.toNat_ofNat', UInt32.toNat_ofNat',
      Nat.mod_eq_of_lt (by omega), Nat.mod_eq_of_lt (by omega)]
    exact lower

/-- A ring that is full is full to a hundred percent. -/
theorem utilization_self {capacity : UInt64} (some : capacity ≠ 0) :
    utilization capacity capacity = 100 := by
  have positive : 0 < capacity.toNat := by
    apply Nat.pos_of_ne_zero
    intro zero
    exact some (UInt64.toNat_inj.mp zero)
  rw [utilization, if_neg some, Nat.mul_div_cancel_left 100 positive]
  rfl

/-- More than that no fill comes to. -/
theorem utilization_le {used capacity : UInt64} (room : used ≤ capacity) :
    utilization used capacity ≤ 100 := by
  have grows := utilization_mono room (UInt64.le_refl capacity)
  by_cases none : capacity = 0
  · rw [utilization, if_pos none]
    decide
  · rwa [utilization_self none] at grows

namespace Effect

def asked? : Effect → Option Notifier
  | signalled notifier => some notifier
  | _ => none

end Effect

namespace Channel

/-- The notifiers that were asked to signal, in the order of the requests. -/
def signals (channel : Channel) : List Notifier :=
  channel.trace.toList.filterMap Effect.asked?

def gauge (channel : Channel) : Gauge :=
  ⟨channel.latched, channel.tallies.highCrossed, channel.tallies.lowCrossed⟩

theorem signals_push (channel : Channel) (effect : Effect) :
    signals { channel with trace := channel.trace.push effect } =
      channel.signals ++ effect.asked?.toList := by
  simp only [signals, Array.toList_push, List.filterMap_append]
  cases effect <;> rfl

theorem resets_push (channel : Channel) {effect : Effect} (other : effect ≠ .logged .ringReset) :
    resets { channel with trace := channel.trace.push effect } = channel.resets := by
  rw [resets, resets, chronicle_push]
  by_cases notable : effect.isNotable = true
  · rw [if_pos notable, List.count_append, List.count_singleton, if_neg (by simpa using other),
      Nat.add_zero]
  · rw [if_neg notable]

/-- The marks and the notifier are as before, and the fill has not grown. -/
structure Ebbs (before after : Channel) : Prop where
  capacity : after.capacity = before.capacity
  hi : after.page.hi = before.page.hi
  lo : after.page.lo = before.page.lo
  slot : after.slot = before.slot
  used : after.page.used ≤ before.page.used

/-- Besides, no notifier was asked, and the ring was not reset. -/
structure Hushed (before after : Channel) : Prop extends Ebbs before after where
  signals : after.signals = before.signals
  resets : after.resets = before.resets

theorem Ebbs.refl (channel : Channel) : Ebbs channel channel :=
  ⟨rfl, rfl, rfl, rfl, UInt64.le_refl _⟩

theorem Ebbs.trans {first middle last : Channel} (left : Ebbs first middle)
    (right : Ebbs middle last) : Ebbs first last where
  capacity := right.capacity.trans left.capacity
  hi := right.hi.trans left.hi
  lo := right.lo.trans left.lo
  slot := right.slot.trans left.slot
  used := UInt64.le_trans right.used left.used

theorem Hushed.refl (channel : Channel) : Hushed channel channel :=
  ⟨Ebbs.refl channel, rfl, rfl⟩

theorem Hushed.trans {first middle last : Channel} (left : Hushed first middle)
    (right : Hushed middle last) : Hushed first last where
  toEbbs := left.toEbbs.trans right.toEbbs
  signals := right.signals.trans left.signals
  resets := right.resets.trans left.resets

theorem hushed_push (channel : Channel) {effect : Effect} (other : effect ≠ .logged .ringReset)
    (silent : effect.asked? = none) :
    Hushed channel { channel with trace := channel.trace.push effect } := by
  refine ⟨⟨rfl, rfl, rfl, rfl, UInt64.le_refl _⟩, ?_, channel.resets_push other⟩
  rw [signals_push, silent]
  exact List.append_nil _

theorem Ebbs.utilization_le {before after : Channel} (ebbs : Ebbs before after)
    (room : before.page.used ≤ before.capacity) : after.utilization ≤ before.utilization := by
  rw [utilization, utilization, ebbs.capacity]
  exact utilization_mono ebbs.used room

theorem crossWatermarks_fst (channel : Channel) (now : UInt64) :
    (channel.crossWatermarks now).1 =
      Edge.ofFill channel.latched channel.utilization channel.page.hi channel.page.lo := by
  unfold crossWatermarks
  dsimp only
  cases Edge.ofFill channel.latched channel.utilization channel.page.hi channel.page.lo with
  | none => rfl
  | some edge => cases edge <;> rfl

theorem gauge_crossWatermarks (channel : Channel) (now : UInt64) :
    (channel.crossWatermarks now).2.gauge =
      channel.gauge.note channel.page.hi channel.page.lo now channel.utilization := by
  unfold crossWatermarks Gauge.note
  dsimp only [gauge]
  cases Edge.ofFill channel.latched channel.utilization channel.page.hi channel.page.lo with
  | none => rfl
  | some edge => cases edge <;> rfl

theorem hushed_crossWatermarks (channel : Channel) (now : UInt64) :
    Hushed channel (channel.crossWatermarks now).2 := by
  have still := channel.still_crossWatermarks now
  have page : (channel.crossWatermarks now).2.page = channel.page :=
    congrArg Region.page still.region
  refine ⟨⟨still.capacity, by rw [page], by rw [page], ?_, by rw [page]; exact UInt64.le_refl _⟩, ?_,
    resets_eq still.chronicle⟩
  · unfold crossWatermarks
    dsimp only
    split <;> rfl
  · unfold crossWatermarks
    dsimp only
    split
    · rfl
    · exact (signals_push _ _).trans (List.append_nil _)
    · exact (signals_push _ _).trans (List.append_nil _)

/-- A tail that is moved is moved between the cursors, and then the latch is looked at. -/
theorem moveTail_cases (channel : Channel) (now position : UInt64) :
    (∃ error, channel.moveTail now position = (.error error, channel)) ∨
      ∃ moved, Hushed channel moved ∧ moved.gauge = channel.gauge ∧
        channel.moveTail now position =
          (.ok (moved.crossWatermarks now).1, (moved.crossWatermarks now).2) := by
  rcases channel.between_or_outside position with ⟨ordered, within⟩ | outside
  · refine Or.inr ⟨channel.withTail position, ⟨⟨rfl, rfl, rfl, rfl, ?_⟩, rfl, rfl⟩, rfl,
      moveTail_of_between now ordered within⟩
    change channel.page.head - position ≤ channel.page.head - channel.page.tail
    have both := UInt64.le_trans ordered within
    rw [UInt64.le_iff_toNat_le, UInt64.toNat_sub_of_le _ _ within, UInt64.toNat_sub_of_le _ _ both]
    rw [UInt64.le_iff_toNat_le] at ordered
    omega
  · exact Or.inl ⟨_, moveTail_of_outside now outside⟩

theorem used_reset (channel : Channel) : channel.reset.page.used = 0 :=
  UInt64.sub_self 0

/-- What a notifier that was asked can have made of the gauge. -/
inductive Answers (now : UInt64) (before after : Channel) : Prop
  | noted (resets : after.resets = before.resets)
      (gauge : after.gauge =
        before.gauge.note before.page.hi before.page.lo now after.utilization)
  | cleared (resets : before.resets < after.resets) (gauge : after.gauge = {})
      (empty : after.page.used = 0)

theorem answers_of_same {now : UInt64} {before after : Channel}
    (fits : before.gauge.Fits before.page.hi before.page.lo before.utilization)
    (capacity : after.capacity = before.capacity) (page : after.page = before.page)
    (gauge : after.gauge = before.gauge) (resets : after.resets = before.resets) :
    Answers now before after := by
  have same : after.utilization = before.utilization := by
    rw [utilization, utilization, page, capacity]
  exact .noted resets (by rw [gauge, same, Gauge.note_of_fits fits])

theorem answers_moveTail {channel : Channel} (now position : UInt64)
    (fits : channel.gauge.Fits channel.page.hi channel.page.lo channel.utilization) :
    Hushed channel (channel.moveTail now position).2 ∧
      Answers now channel (channel.moveTail now position).2 := by
  rcases channel.moveTail_cases now position with ⟨error, refused⟩ | ⟨moved, hushed, gauge, looked⟩
  · rw [refused]
    exact ⟨Hushed.refl channel, answers_of_same fits rfl rfl rfl rfl⟩
  · have crossed := moved.hushed_crossWatermarks now
    have region := (moved.still_crossWatermarks now).region
    rw [looked]
    refine ⟨hushed.trans crossed, .noted (crossed.resets.trans hushed.resets) ?_⟩
    have level : (moved.crossWatermarks now).2.utilization = moved.utilization := by
      rw [utilization, utilization, crossed.capacity]
      exact congrArg (fun region : Region => RecordRing.utilization region.page.used _) region
    rw [gauge_crossWatermarks, gauge, hushed.hi, hushed.lo]
    exact congrArg _ level.symm

theorem Answers.of_same {now : UInt64} {start before after : Channel} (answers : Answers now before after)
    (page : before.page = start.page) (gauge : before.gauge = start.gauge)
    (resets : before.resets = start.resets) : Answers now start after := by
  cases answers with
  | noted same noted => exact .noted (same.trans resets) (by rw [noted, gauge, page])
  | cleared more fresh empty => exact .cleared (resets ▸ more) fresh empty

/-- One signal asks the notifier once, whatever it does then. -/
theorem answers_signal {channel : Channel} (now : UInt64) (notifier : Notifier)
    (fits : channel.gauge.Fits channel.page.hi channel.page.lo channel.utilization) :
    Ebbs channel (channel.signal now notifier).2 ∧
      (channel.signal now notifier).2.signals = channel.signals ++ [notifier] ∧
      Answers now channel (channel.signal now notifier).2 := by
  have asked := channel.signals_push (.signalled notifier)
  have resets : resets { channel with trace := channel.trace.push (.signalled notifier) } =
      channel.resets := channel.resets_push nofun
  cases notifier with
  | counting number reaction =>
      cases reaction with
      | nothing => exact ⟨⟨rfl, rfl, rfl, rfl, UInt64.le_refl _⟩, asked,
          answers_of_same fits rfl rfl rfl resets⟩
      | fail => exact ⟨⟨rfl, rfl, rfl, rfl, UInt64.le_refl _⟩, asked,
          answers_of_same fits rfl rfl rfl resets⟩
      | drain =>
          obtain ⟨hushed, answers⟩ := @answers_moveTail { channel with
            trace := channel.trace.push (.signalled (.counting number .drain))
            counts := channel.counts.modify number (· + 1) } now channel.page.head fits
          exact ⟨⟨hushed.capacity, hushed.hi, hushed.lo, hushed.slot, hushed.used⟩,
            hushed.signals.trans asked, answers.of_same rfl rfl resets⟩
      | reset =>
          refine ⟨⟨rfl, rfl, rfl, rfl, ?_⟩, ?_, .cleared ?_ rfl (used_reset _)⟩
          · change (reset _).page.used ≤ _
            rw [used_reset]
            exact UInt64.zero_le
          · exact (signals_push _ (.logged .ringReset)).trans
              ((List.append_nil _).trans asked)
          · have more := (cleared_reset { channel with
              trace := channel.trace.push (.signalled (.counting number .reset))
              counts := channel.counts.modify number (· + 1) }).resets_lt
            exact resets ▸ more
  | descriptor bell =>
      unfold signal
      dsimp only
      split
      · exact ⟨⟨rfl, rfl, rfl, rfl, UInt64.le_refl _⟩, asked,
          answers_of_same fits rfl rfl rfl resets⟩
      · split
        · exact ⟨⟨rfl, rfl, rfl, rfl, UInt64.le_refl _⟩, asked,
            answers_of_same fits rfl rfl rfl resets⟩
        · exact ⟨⟨rfl, rfl, rfl, rfl, UInt64.le_refl _⟩, asked,
            answers_of_same fits rfl rfl rfl resets⟩

theorem answers_fire {channel : Channel} (now : UInt64) (notifier : Notifier)
    (fits : channel.gauge.Fits channel.page.hi channel.page.lo channel.utilization) :
    Ebbs channel (channel.fire now notifier 1) ∧
      (channel.fire now notifier 1).signals = channel.signals ++ [notifier] ∧
      Answers now channel (channel.fire now notifier 1) := by
  have once := answers_signal now notifier fits
  unfold fire
  split
  · rename_i after rings
    rw [rings] at once
    exact once
  · rename_i cause after fails
    rw [fails] at once
    obtain ⟨ebbs, signals, answers⟩ := once
    have logged : Hushed after (after.log (.signalFailed cause)) := after.hushed_push nofun rfl
    refine ⟨ebbs.trans logged.toEbbs, logged.signals.trans signals, ?_⟩
    cases answers with
    | noted resets gauge => exact .noted (logged.resets.trans resets) gauge
    | cleared more fresh empty =>
        refine .cleared ?_ fresh empty
        exact Nat.lt_of_lt_of_eq more logged.resets.symm

/-- Where no signal was pending, one is delivered, to the notifier that is bound or to none. -/
theorem notifyConsumer_eq {channel : Channel} (now : UInt64) (pending : channel.slot.pending = 0) :
    channel.notifyConsumer now =
      match channel.slot.bound with
      | none => { channel with trace := channel.trace.push .woken }
      | some notifier => fire { channel with trace := channel.trace.push .woken } now notifier 1 := by
  obtain ⟨region, capacity, rate, tallies, latched, ⟨bound, _⟩, counts, bells, trace⟩ := channel
  cases pending
  cases bound <;> rfl

theorem answers_notifyConsumer {channel : Channel} (now : UInt64)
    (pending : channel.slot.pending = 0)
    (fits : channel.gauge.Fits channel.page.hi channel.page.lo channel.utilization) :
    Ebbs channel (channel.notifyConsumer now) ∧
      (channel.notifyConsumer now).signals = channel.signals ++ channel.slot.bound.toList ∧
      Answers now channel (channel.notifyConsumer now) := by
  have woken : Hushed channel { channel with trace := channel.trace.push .woken } :=
    channel.hushed_push nofun rfl
  rw [notifyConsumer_eq now pending]
  cases channel.slot.bound with
  | none =>
      refine ⟨woken.toEbbs, ?_, answers_of_same fits rfl rfl rfl woken.resets⟩
      exact woken.signals.trans (List.append_nil _).symm
  | some notifier =>
      obtain ⟨ebbs, signals, answers⟩ := @answers_fire { channel with
        trace := channel.trace.push .woken } now notifier fits
      refine ⟨woken.toEbbs.trans ebbs, ?_, answers.of_same rfl rfl woken.resets⟩
      rw [signals, woken.signals]
      rfl

/-- The notifiers that a fill is to be told to: the one that is bound, where the latch is clear and the
fill is at the high mark. -/
def due (channel : Channel) (percent : UInt32) : List Notifier :=
  if channel.latched = false ∧ channel.page.hi ≤ percent then channel.slot.bound.toList else []

theorem evaluateWatermarks_of_rising {channel : Channel} {now : UInt64}
    (rises : (channel.crossWatermarks now).1 = some .rising) :
    channel.evaluateWatermarks now = (channel.crossWatermarks now).2.notifyConsumer now := by
  unfold evaluateWatermarks
  split
  · rename_i found
    rw [found]
  · rename_i other found
    rw [found] at rises
    exact (other rises).elim

theorem evaluateWatermarks_of_not_rising {channel : Channel} {now : UInt64}
    (rests : (channel.crossWatermarks now).1 ≠ some .rising) :
    channel.evaluateWatermarks now = (channel.crossWatermarks now).2 := by
  unfold evaluateWatermarks
  split
  · rename_i found
    rw [found] at rests
    exact absurd rfl rests
  · rename_i found
    rw [found]

/-- A look at the fill as it is: the gauge is noted, whoever is due is asked, and the fill that is left
then is noted too, unless the ring was reset. -/
theorem evaluated {channel : Channel} (now : UInt64) (pending : channel.slot.pending = 0)
    (apart : channel.page.lo < channel.page.hi) :
    Ebbs channel (channel.evaluateWatermarks now) ∧
      (channel.evaluateWatermarks now).signals =
        channel.signals ++ channel.due channel.utilization ∧
      ∃ noted : Channel, noted.page = channel.page ∧ noted.resets = channel.resets ∧
        noted.gauge = channel.gauge.note channel.page.hi channel.page.lo now channel.utilization ∧
        Answers now noted (channel.evaluateWatermarks now) := by
  have hushed := channel.hushed_crossWatermarks now
  have gauge := channel.gauge_crossWatermarks now
  have page : (channel.crossWatermarks now).2.page = channel.page :=
    congrArg Region.page (channel.still_crossWatermarks now).region
  have level : (channel.crossWatermarks now).2.utilization = channel.utilization := by
    rw [utilization, utilization, page, hushed.capacity]
  have fits : (channel.crossWatermarks now).2.gauge.Fits (channel.crossWatermarks now).2.page.hi
      (channel.crossWatermarks now).2.page.lo (channel.crossWatermarks now).2.utilization := by
    rw [gauge, page, level]
    exact Gauge.fits_note apart now
  have risen := Edge.ofFill_eq_rising_iff channel.latched channel.utilization channel.page.hi
    channel.page.lo
  rw [← channel.crossWatermarks_fst now] at risen
  by_cases rises : (channel.crossWatermarks now).1 = some .rising
  · have empty : (channel.crossWatermarks now).2.slot.pending = 0 := by rw [hushed.slot, pending]
    obtain ⟨ebbs, signals, answers⟩ := answers_notifyConsumer now empty fits
    rw [evaluateWatermarks_of_rising rises, due, if_pos (risen.mp rises)]
    refine ⟨hushed.toEbbs.trans ebbs, ?_, _, page, hushed.resets, gauge, answers⟩
    rw [signals, hushed.signals, hushed.slot]
  · rw [evaluateWatermarks_of_not_rising rises, due, if_neg (fun high => rises (risen.mpr high))]
    exact ⟨hushed.toEbbs, hushed.signals.trans (List.append_nil _).symm, _, page, hushed.resets,
      gauge, answers_of_same fits rfl rfl rfl rfl⟩

end Channel

end RecordRing
