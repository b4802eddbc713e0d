import RecordRing.Channel.Control
import RecordRing.Proofs.TailRecord

set_option autoImplicit false

namespace RecordRing

namespace Effect

/-- The log tells of a drop episode or of a reset. -/
def isNotable : Effect → Bool
  | logged (.ringFull ..) | logged (.episodeEnded ..) | logged .ringReset => true
  | _ => false

end Effect

/-- The notifier leaves the ring alone when it is signalled. -/
def Notifier.IsPassive : Notifier → Prop
  | counting _ .drain | counting _ .reset => False
  | _ => True

namespace Channel

def Passive (channel : Channel) : Prop :=
  ∀ notifier, channel.slot.bound = some notifier → notifier.IsPassive

/-- What was told of drop episodes and resets, oldest first. -/
def chronicle (channel : Channel) : List Effect :=
  channel.trace.toList.filter Effect.isNotable

def resets (channel : Channel) : Nat :=
  channel.chronicle.count (.logged .ringReset)

structure Marked (channel : Channel) : Prop where
  ordered : channel.page.lo ≤ channel.page.hi
  percent : channel.page.hi ≤ 100
  least : 1 ≤ channel.rate
  most : channel.rate ≤ 100000

/-- Nothing changed but the latch, its stamps, the signals and asides in the log. -/
structure Still (before after : Channel) : Prop where
  capacity : after.capacity = before.capacity
  region : after.region = before.region
  rate : after.rate = before.rate
  drops : after.tallies.drops = before.tallies.drops
  records : after.tallies.records = before.tallies.records
  bytes : after.tallies.bytes = before.tallies.bytes
  bound : after.slot.bound = before.slot.bound
  chronicle : after.chronicle = before.chronicle

structure Framed (before after : Channel) : Prop where
  capacity : after.capacity = before.capacity
  size : after.region.data.size = before.region.data.size
  padding : after.region.padding = before.region.padding
  named : after.page.capacity = before.page.capacity
  reserved : after.page.reserved = before.page.reserved
  marked : before.Marked → after.Marked

/-- Nothing was published, and at most the tail moved, forwards and not past the head. -/
structure Steady (before after : Channel) : Prop extends Framed before after where
  data : after.region.data = before.region.data
  head : after.page.head = before.page.head
  tail_le : before.page.tail ≤ after.page.tail
  tail_le_head : before.page.tail ≤ before.page.head → after.page.tail ≤ after.page.head
  records : after.tallies.records = before.tallies.records
  bytes : after.tallies.bytes = before.tallies.bytes
  bound : after.slot.bound = before.slot.bound

structure Kept (before after : Channel) : Prop extends Steady before after where
  flags : after.page.flags = before.page.flags
  episodeStart : after.page.episodeStart = before.page.episodeStart
  episodeCount : after.page.episodeCount = before.page.episodeCount
  drops : after.tallies.drops = before.tallies.drops
  chronicle : after.chronicle = before.chronicle

structure Cleared (before after : Channel) : Prop extends Framed before after where
  data : after.region.data = before.region.data
  head : after.page.head = 0
  tail : after.page.tail = 0
  flags : after.page.flags = 0
  drops : after.tallies.drops = 0
  records : after.tallies.records = 0
  bytes : after.tallies.bytes = 0
  bound : after.slot.bound = before.slot.bound
  chronicle : ∃ times, after.chronicle =
    before.chronicle ++ List.replicate (times + 1) (.logged .ringReset)

/-- What an operation comes to that neither publishes nor is a reset: only a notifier that is bound
can have reset the ring in it. -/
inductive Settles (before after : Channel) : Prop
  | kept (same : Kept before after)
  | cleared (answered : before.slot.bound ≠ none) (fresh : Cleared before after)

theorem Still.refl (channel : Channel) : Still channel channel :=
  ⟨rfl, rfl, rfl, rfl, rfl, rfl, rfl, rfl⟩

theorem Still.trans {first middle last : Channel} (left : Still first middle)
    (right : Still middle last) : Still first last where
  capacity := right.capacity.trans left.capacity
  region := right.region.trans left.region
  rate := right.rate.trans left.rate
  drops := right.drops.trans left.drops
  records := right.records.trans left.records
  bytes := right.bytes.trans left.bytes
  bound := right.bound.trans left.bound
  chronicle := right.chronicle.trans left.chronicle

theorem Framed.trans {first middle last : Channel} (left : Framed first middle)
    (right : Framed middle last) : Framed first last where
  capacity := right.capacity.trans left.capacity
  size := right.size.trans left.size
  padding := right.padding.trans left.padding
  named := right.named.trans left.named
  reserved := right.reserved.trans left.reserved
  marked := right.marked ∘ left.marked

theorem Steady.trans {first middle last : Channel} (left : Steady first middle)
    (right : Steady middle last) : Steady first last where
  toFramed := left.toFramed.trans right.toFramed
  data := right.data.trans left.data
  head := right.head.trans left.head
  tail_le := UInt64.le_trans left.tail_le right.tail_le
  tail_le_head := right.tail_le_head ∘ left.tail_le_head
  records := right.records.trans left.records
  bytes := right.bytes.trans left.bytes
  bound := right.bound.trans left.bound

theorem Kept.trans {first middle last : Channel} (left : Kept first middle)
    (right : Kept middle last) : Kept first last where
  toSteady := left.toSteady.trans right.toSteady
  flags := right.flags.trans left.flags
  episodeStart := right.episodeStart.trans left.episodeStart
  episodeCount := right.episodeCount.trans left.episodeCount
  drops := right.drops.trans left.drops
  chronicle := right.chronicle.trans left.chronicle

theorem Still.framed {before after : Channel} (still : Still before after) :
    Framed before after := by
  have page : after.page = before.page := congrArg Region.page still.region
  refine ⟨still.capacity, ?_, ?_, ?_, ?_, ?_⟩
  · rw [still.region]
  · rw [still.region]
  · rw [page]
  · rw [page]
  · intro marked
    exact ⟨page ▸ marked.ordered, page ▸ marked.percent, still.rate ▸ marked.least,
      still.rate ▸ marked.most⟩

theorem Still.kept {before after : Channel} (still : Still before after) : Kept before after := by
  have page : after.page = before.page := congrArg Region.page still.region
  refine ⟨⟨still.framed, ?_, ?_, ?_, ?_, still.records, still.bytes, still.bound⟩, ?_, ?_, ?_,
    still.drops, still.chronicle⟩
  · rw [still.region]
  · rw [page]
  · rw [page]
    exact UInt64.le_refl _
  · rw [page]
    exact id
  · rw [page]
  · rw [page]
  · rw [page]

theorem Kept.cleared {first middle last : Channel} (left : Kept first middle)
    (right : Cleared middle last) : Cleared first last where
  toFramed := left.toFramed.trans right.toFramed
  data := right.data.trans left.data
  head := right.head
  tail := right.tail
  flags := right.flags
  drops := right.drops
  records := right.records
  bytes := right.bytes
  bound := right.bound.trans left.bound
  chronicle := by
    obtain ⟨times, told⟩ := right.chronicle
    exact ⟨times, by rw [told, left.chronicle]⟩

/-- Between cursors at zero no tail can move. -/
theorem Cleared.kept {first middle last : Channel} (left : Cleared first middle)
    (right : Kept middle last) : Cleared first last where
  toFramed := left.toFramed.trans right.toFramed
  data := right.data.trans left.data
  head := right.head.trans left.head
  tail := by
    have below := right.tail_le_head (by rw [left.head, left.tail]; exact UInt64.le_refl _)
    rw [right.head, left.head] at below
    exact UInt64.le_zero_iff.mp below
  flags := right.flags.trans left.flags
  drops := right.drops.trans left.drops
  records := right.records.trans left.records
  bytes := right.bytes.trans left.bytes
  bound := right.bound.trans left.bound
  chronicle := by
    obtain ⟨times, told⟩ := left.chronicle
    exact ⟨times, by rw [right.chronicle, told]⟩

theorem Cleared.trans {first middle last : Channel} (left : Cleared first middle)
    (right : Cleared middle last) : Cleared first last where
  toFramed := left.toFramed.trans right.toFramed
  data := right.data.trans left.data
  head := right.head
  tail := right.tail
  flags := right.flags
  drops := right.drops
  records := right.records
  bytes := right.bytes
  bound := right.bound.trans left.bound
  chronicle := by
    obtain ⟨times, told⟩ := left.chronicle
    obtain ⟨more, toldMore⟩ := right.chronicle
    refine ⟨times + 1 + more, ?_⟩
    rw [toldMore, told, List.append_assoc, List.replicate_append_replicate]
    rfl

theorem Settles.trans {first middle last : Channel} (left : Settles first middle)
    (right : Settles middle last) : Settles first last := by
  cases left with
  | kept same =>
      cases right with
      | kept sameToo => exact .kept (same.trans sameToo)
      | cleared answered fresh =>
          exact .cleared (fun unbound => answered (same.bound.trans unbound)) (same.cleared fresh)
  | cleared answered fresh =>
      cases right with
      | kept same => exact .cleared answered (fresh.kept same)
      | cleared _ freshToo => exact .cleared answered (fresh.trans freshToo)

theorem Settles.framed {before after : Channel} (settles : Settles before after) :
    Framed before after := by
  cases settles with
  | kept same => exact same.toFramed
  | cleared _ fresh => exact fresh.toFramed

theorem Settles.bound {before after : Channel} (settles : Settles before after) :
    after.slot.bound = before.slot.bound := by
  cases settles with
  | kept same => exact same.bound
  | cleared _ fresh => exact fresh.bound

/-- Where no notifier is bound, nothing but the tail can have moved. -/
theorem Settles.of_unbound {before after : Channel} (settles : Settles before after)
    (unbound : before.slot.bound = none) : Kept before after := by
  cases settles with
  | kept same => exact same
  | cleared answered _ => exact absurd unbound answered

theorem Still.settles {before after : Channel} (still : Still before after) :
    Settles before after :=
  .kept still.kept

theorem chronicle_push (channel : Channel) (effect : Effect) :
    chronicle { channel with trace := channel.trace.push effect } =
      if effect.isNotable then channel.chronicle ++ [effect] else channel.chronicle := by
  simp only [chronicle, Array.toList_push, List.filter_append, List.filter_cons, List.filter_nil]
  split <;> simp

/-- An aside changes nothing else. -/
theorem still_push (channel : Channel) (effect : Effect) (aside : effect.isNotable = false) :
    Still channel { channel with trace := channel.trace.push effect } :=
  ⟨rfl, rfl, rfl, rfl, rfl, rfl, rfl, by rw [chronicle_push, aside]; rfl⟩

theorem Still.log {before after : Channel} (still : Still before after) {event : Event}
    (aside : (Effect.logged event).isNotable = false) : Still before (after.log event) :=
  still.trans (after.still_push _ aside)

theorem still_crossWatermarks (channel : Channel) (now : UInt64) :
    Still channel (channel.crossWatermarks now).2 := by
  simp only [crossWatermarks]
  cases Edge.ofFill channel.latched channel.utilization channel.page.hi channel.page.lo with
  | none => exact Still.refl channel
  | some edge =>
      cases edge with
      | rising =>
          refine Still.log ?_ ?_
          · exact ⟨rfl, rfl, rfl, rfl, rfl, rfl, rfl, rfl⟩
          · rfl
      | falling =>
          refine Still.log ?_ ?_
          · exact ⟨rfl, rfl, rfl, rfl, rfl, rfl, rfl, rfl⟩
          · rfl

/-- The channel with its tail at a position, before anyone looks at the latch. -/
def withTail (channel : Channel) (position : UInt64) : Channel :=
  channel.modifyPage fun page => { page with tail := position }

theorem moveTail_of_between {channel : Channel} (now : UInt64) {position : UInt64}
    (ordered : channel.page.tail ≤ position) (within : position ≤ channel.page.head) :
    channel.moveTail now position =
      (.ok ((channel.withTail position).crossWatermarks now).1,
        ((channel.withTail position).crossWatermarks now).2) := by
  have between : ¬ (position > channel.page.head || position < channel.page.tail) = true := by
    simp only [Bool.or_eq_true, decide_eq_true_eq, not_or, GT.gt, UInt64.not_lt]
    exact ⟨within, ordered⟩
  exact if_neg between

theorem moveTail_of_outside {channel : Channel} (now : UInt64) {position : UInt64}
    (outside : channel.page.head < position ∨ position < channel.page.tail) :
    channel.moveTail now position =
      (.error (.outOfRange position channel.page.tail channel.page.head), channel) := by
  have beyond : (position > channel.page.head || position < channel.page.tail) = true := by
    simp only [Bool.or_eq_true, decide_eq_true_eq]
    exact outside
  exact if_pos beyond

/-- A tail is moved between the cursors, or not at all. -/
theorem between_or_outside (channel : Channel) (position : UInt64) :
    (channel.page.tail ≤ position ∧ position ≤ channel.page.head) ∨
      (channel.page.head < position ∨ position < channel.page.tail) := by
  rw [← UInt64.not_lt, ← UInt64.not_lt]
  by_cases beyond : channel.page.head < position <;> by_cases behind : position < channel.page.tail <;>
    simp [beyond, behind]

/-- The tail moves between the cursors, or nothing happens. -/
theorem kept_moveTail (channel : Channel) (now position : UInt64) :
    Kept channel (channel.moveTail now position).2 := by
  rcases channel.between_or_outside position with ⟨ordered, within⟩ | outside
  · have moved : Kept channel (channel.withTail position) :=
      ⟨⟨⟨rfl, rfl, rfl, rfl, rfl, fun marked => ⟨marked.1, marked.2, marked.3, marked.4⟩⟩, rfl, rfl,
        ordered, fun _ => within, rfl, rfl, rfl⟩, rfl, rfl, rfl, rfl, rfl⟩
    rw [moveTail_of_between now ordered within]
    exact moved.trans (still_crossWatermarks _ now).kept
  · rw [moveTail_of_outside now outside]
    exact (Still.refl channel).kept

theorem cleared_reset (channel : Channel) : Cleared channel channel.reset := by
  refine ⟨⟨rfl, rfl, rfl, rfl, rfl, fun marked => ⟨marked.1, marked.2, marked.3, marked.4⟩⟩, rfl,
    rfl, rfl, rfl, rfl, rfl, rfl, rfl, 0, ?_⟩
  exact chronicle_push _ (.logged .ringReset)

theorem Passive.of_unbound {channel : Channel} (unbound : channel.slot.bound = none) :
    channel.Passive := by
  intro notifier found
  rw [unbound] at found
  cases found

theorem Passive.of_bound {before after : Channel} (passive : before.Passive)
    (same : after.slot.bound = before.slot.bound) : after.Passive := by
  intro notifier found
  rw [same] at found
  exact passive notifier found

/-- The notifier has been asked, and has counted it. -/
theorem still_counted (channel : Channel) (number : Nat) (reaction : Reaction) :
    Still channel { channel with
      trace := channel.trace.push (.signalled (.counting number reaction))
      counts := channel.counts.modify number (· + 1) } :=
  (channel.still_push (.signalled (.counting number reaction)) rfl).trans
    ⟨rfl, rfl, rfl, rfl, rfl, rfl, rfl, rfl⟩

/-- What a passive notifier does when it is signalled happens outside the ring. -/
theorem still_signal (channel : Channel) (now : UInt64) {notifier : Notifier}
    (passive : notifier.IsPassive) : Still channel (channel.signal now notifier).2 := by
  cases notifier with
  | counting number reaction =>
      have counted := channel.still_counted number reaction
      cases reaction with
      | nothing => exact counted
      | fail => exact counted
      | drain => exact passive.elim
      | reset => exact passive.elim
  | descriptor bell =>
      have asked := channel.still_push (.signalled (.descriptor bell)) rfl
      unfold signal
      dsimp only
      split
      · exact asked
      · split
        · exact asked.trans ⟨rfl, rfl, rfl, rfl, rfl, rfl, rfl, rfl⟩
        · exact asked

/-- A notifier that is signalled may move the tail up to the head, or reset the ring. -/
theorem settles_signal {channel : Channel} (now : UInt64) (notifier : Notifier)
    (answered : channel.slot.bound ≠ none) :
    Settles channel (channel.signal now notifier).2 := by
  cases notifier with
  | counting number reaction =>
      have counted := channel.still_counted number reaction
      cases reaction with
      | nothing => exact counted.settles
      | fail => exact counted.settles
      | drain => exact .kept (counted.kept.trans (kept_moveTail _ now _))
      | reset => exact .cleared answered (counted.kept.cleared (cleared_reset _))
  | descriptor bell => exact (@still_signal channel now (.descriptor bell) trivial).settles

theorem settles_fire {channel : Channel} (now : UInt64) (notifier : Notifier) (times : Nat)
    (answered : channel.slot.bound ≠ none) :
    Settles channel (channel.fire now notifier times) := by
  induction times generalizing channel with
  | zero => exact (Still.refl channel).settles
  | succ times ih =>
      have first := settles_signal now notifier answered
      unfold fire
      split
      · rename_i after rings
        rw [rings] at first
        exact first.trans (ih (by rw [first.bound]; exact answered))
      · rename_i cause after fails
        rw [fails] at first
        exact first.trans ((Still.refl after).log rfl).settles

theorem still_fire (channel : Channel) (now : UInt64) {notifier : Notifier}
    (passive : notifier.IsPassive) (times : Nat) : Still channel (channel.fire now notifier times) := by
  induction times generalizing channel with
  | zero => exact Still.refl channel
  | succ times ih =>
      have first := channel.still_signal now passive
      unfold fire
      split
      · rename_i after rings
        rw [rings] at first
        exact first.trans (ih after)
      · rename_i cause after fails
        rw [fails] at first
        exact first.log rfl

/-- A passive notifier is told what is pending; where none is bound, it is forgotten. -/
theorem still_deliver {channel : Channel} (now : UInt64) (passive : channel.Passive) :
    Still channel (channel.deliver now) := by
  have taken : Still channel { channel with slot := { channel.slot with pending := 0 } } :=
    ⟨rfl, rfl, rfl, rfl, rfl, rfl, rfl, rfl⟩
  unfold deliver
  dsimp only
  split
  · exact taken
  · rename_i notifier found
    exact taken.trans (still_fire _ now (passive notifier found) _)

theorem settles_deliver (channel : Channel) (now : UInt64) :
    Settles channel (channel.deliver now) := by
  have taken : Still channel { channel with slot := { channel.slot with pending := 0 } } :=
    ⟨rfl, rfl, rfl, rfl, rfl, rfl, rfl, rfl⟩
  unfold deliver
  dsimp only
  split
  · exact taken.settles
  · rename_i notifier found
    exact taken.settles.trans (settles_fire now notifier _ (by rw [found]; nofun))

/-- The signal that a rising edge owes, before it is delivered. -/
theorem still_owed (channel : Channel) :
    Still channel { channel with
      trace := channel.trace.push .woken
      slot := { channel.slot with pending := channel.slot.pending + 1 } } :=
  (channel.still_push .woken rfl).trans ⟨rfl, rfl, rfl, rfl, rfl, rfl, rfl, rfl⟩

theorem still_notifyConsumer {channel : Channel} (now : UInt64) (passive : channel.Passive) :
    Still channel (channel.notifyConsumer now) :=
  channel.still_owed.trans (still_deliver now (passive.of_bound channel.still_owed.bound))

theorem settles_notifyConsumer (channel : Channel) (now : UInt64) :
    Settles channel (channel.notifyConsumer now) :=
  channel.still_owed.settles.trans (settles_deliver _ now)

theorem still_evaluateWatermarks {channel : Channel} (now : UInt64) (passive : channel.Passive) :
    Still channel (channel.evaluateWatermarks now) := by
  have crossed := channel.still_crossWatermarks now
  unfold evaluateWatermarks
  split
  · rename_i after rises
    rw [rises] at crossed
    exact crossed.trans (still_notifyConsumer now (passive.of_bound crossed.bound))
  · rename_i after _ rests
    rw [rests] at crossed
    exact crossed

theorem settles_evaluateWatermarks (channel : Channel) (now : UInt64) :
    Settles channel (channel.evaluateWatermarks now) := by
  have crossed := channel.still_crossWatermarks now
  unfold evaluateWatermarks
  split
  · rename_i after rises
    rw [rises] at crossed
    exact crossed.settles.trans (settles_notifyConsumer after now)
  · rename_i after _ rests
    rw [rests] at crossed
    exact crossed.settles

theorem settles_advanceTail (channel : Channel) (now position : UInt64) :
    Settles channel (channel.advanceTail now position).2 := by
  have moved := channel.kept_moveTail now position
  unfold advanceTail
  split
  · rename_i same refused
    rw [refused] at moved
    exact .kept moved
  · rename_i after rises
    rw [rises] at moved
    exact (Settles.kept moved).trans (settles_notifyConsumer after now)
  · rename_i after _ rests
    rw [rests] at moved
    exact .kept moved

theorem kept_setWatermarks (channel : Channel) (hi lo : UInt32) :
    Kept channel (channel.setWatermarks hi lo).2 := by
  unfold setWatermarks
  split
  · exact (Still.refl channel).kept
  · rename_i checked
    obtain ⟨ordered, percent⟩ := (checkWatermarks_eq_ok_iff hi lo).mp checked
    have changed : Kept channel (channel.modifyPage fun page => { page with hi, lo }) :=
      ⟨⟨⟨rfl, rfl, rfl, rfl, rfl, fun marked => ⟨ordered, percent, marked.3, marked.4⟩⟩, rfl, rfl,
        UInt64.le_refl _, id, rfl, rfl, rfl⟩, rfl, rfl, rfl, rfl, rfl⟩
    exact changed.trans ((Still.refl _).log rfl).kept

theorem kept_setRate (channel : Channel) (rate : UInt32) :
    Kept channel (channel.setRate rate).2 := by
  unfold setRate
  split
  · exact (Still.refl channel).kept
  · rename_i checked
    obtain ⟨least, most⟩ := (checkRate_eq_ok_iff rate).mp checked
    have changed : Kept channel { channel with rate } :=
      ⟨⟨⟨rfl, rfl, rfl, rfl, rfl, fun marked => ⟨marked.1, marked.2, least, most⟩⟩, rfl, rfl,
        UInt64.le_refl _, id, rfl, rfl, rfl⟩, rfl, rfl, rfl, rfl, rfl⟩
    exact changed.trans ((Still.refl _).log rfl).kept

/-- The channel with another notifier, before pending signals are delivered to it. -/
def rebound (channel : Channel) (notifier : Option Notifier) : Channel :=
  { channel with slot := { channel.slot with bound := notifier } }

theorem framed_rebound (channel : Channel) (notifier : Option Notifier) :
    Framed channel (channel.rebound notifier) :=
  ⟨rfl, rfl, rfl, rfl, rfl, fun marked => ⟨marked.1, marked.2, marked.3, marked.4⟩⟩

theorem settles_bindNotifier (channel : Channel) (now : UInt64) (notifier : Option Notifier) :
    Settles (channel.rebound notifier) (channel.bindNotifier now notifier).2 := by
  have logged : Still (channel.rebound notifier)
      ((channel.rebound notifier).log (.notifierRebound notifier.isSome)) :=
    (Still.refl _).log rfl
  exact logged.settles.trans (settles_deliver _ now)

end Channel

/-- Whatever the capacity, a record that is found ends at the head or before it. -/
theorem Region.span_le_of_recordAtTail {region : Region} {capacity : UInt64} {record : Record}
    (found : region.recordAtTail capacity = .record record) :
    region.page.tail ≤ region.page.head ∧ record.header.span ≤ region.page.used := by
  simp only [recordAtTail] at found
  split at found
  · cases found
  · split at found
    · cases found
    · rename_i count room
      obtain ⟨ordered, -, -, rfl⟩ := (available?_eq_some_iff ..).mp room
      refine ⟨ordered, ?_⟩
      split at found
      · cases found
      · rename_i raw _
        split at found
        · cases found
        · rename_i within
          rw [GT.gt, UInt64.not_lt] at within
          split at found
          · cases found
          · split at found
            · cases found
            · split at found
              · cases found
                exact within
              · split at found
                · cases found
                  exact within
                · cases found

namespace Channel

theorem kept_release {channel : Channel} {capacity : UInt64} {record : Record}
    (found : channel.region.recordAtTail capacity = .record record) :
    Kept channel { channel with region := channel.region.release record } := by
  obtain ⟨ordered, within⟩ := Region.span_le_of_recordAtTail found
  have used := ControlPage.toNat_used ordered
  have top := channel.region.page.head.toNat_lt
  rw [UInt64.le_iff_toNat_le] at ordered within
  rw [used] at within
  have next : (channel.region.page.tail + record.header.span).toNat =
      channel.region.page.tail.toNat + record.header.span.toNat := by
    rw [UInt64.toNat_add]
    exact Nat.mod_eq_of_lt (by omega)
  refine ⟨⟨⟨rfl, rfl, rfl, rfl, rfl, fun marked => ⟨marked.1, marked.2, marked.3, marked.4⟩⟩, rfl, rfl,
    ?_, fun _ => ?_, rfl, rfl, rfl⟩, rfl, rfl, rfl, rfl, rfl⟩
  · change channel.region.page.tail ≤ channel.region.page.tail + record.header.span
    rw [UInt64.le_iff_toNat_le, next]
    exact Nat.le_add_right ..
  · change channel.region.page.tail + record.header.span ≤ channel.region.page.head
    rw [UInt64.le_iff_toNat_le, next]
    omega

theorem settles_read (channel : Channel) (now : UInt64) (reader : Reader) :
    Settles channel (channel.read now reader).2.2 := by
  cases look : channel.region.recordAtTail reader.capacity with
  | record record =>
      have freed := kept_release look
      simp only [read, Reader.take_of_record look]
      split
      · exact (Settles.kept freed).trans (settles_evaluateWatermarks _ now)
      · exact .kept freed
  | corrupted place =>
      simp only [read, Reader.take, look]
      exact ((Still.refl channel).log rfl).settles
  | nothing =>
      simp only [read, Reader.take, look]
      exact (Still.refl channel).settles
  | overrun =>
      simp only [read, Reader.take, look]
      exact (Still.refl channel).settles

theorem settles_pollFor (channel : Channel) (now : UInt64) (reader : Reader) (fuel : Nat) :
    Settles channel (channel.pollFor now reader fuel).2.2.2 := by
  induction fuel generalizing channel reader with
  | zero => exact (Still.refl channel).settles
  | succ fuel ih =>
      have first := channel.settles_read now reader
      unfold pollFor
      split
      · rename_i record counted after found
        rw [found] at first
        exact first.trans (ih after counted)
      · rename_i same after found
        rw [found] at first
        exact first
      · rename_i place same after found
        rw [found] at first
        exact first
      · rename_i same after found
        rw [found] at first
        exact first

theorem settles_poll (channel : Channel) (now : UInt64) (reader : Reader) :
    Settles channel (channel.poll now reader).2.2.2 :=
  settles_pollFor ..

end Channel

end RecordRing
