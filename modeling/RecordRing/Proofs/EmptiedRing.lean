import RecordRing.Proofs.Fifo
import RecordRing.Proofs.PageInvariant

set_option autoImplicit false

namespace RecordRing

/-- The largest payload leaves room for its header and for a summary, and its length fits 32 bits. -/
theorem maxPayload_room {capacity : UInt64} (least : minCapacity ≤ capacity) :
    (maxPayload capacity).toNat + 52 ≤ capacity.toNat ∧
      (maxPayload capacity).toNat < UInt32.size := by
  have size : UInt32.size = 4294967296 := rfl
  have last : (0xFFFFFFFF : UInt64).toNat = 4294967295 := rfl
  have reserve : (52 : UInt64).toNat = 52 := rfl
  have enough : 52 ≤ capacity.toNat := by
    rw [UInt64.le_iff_toNat_le] at least
    have fewest : minCapacity.toNat = 64 := rfl
    omega
  have room : (capacity - 52).toNat = capacity.toNat - 52 :=
    UInt64.toNat_sub_of_le _ _ (by rw [UInt64.le_iff_toNat_le, reserve]; exact enough)
  rw [maxPayload, if_neg (by rw [UInt64.lt_iff_toNat_lt, reserve]; omega)]
  change (if capacity - 52 ≤ 0xFFFFFFFF then capacity - 52 else 0xFFFFFFFF).toNat + 52 ≤ _ ∧
    (if capacity - 52 ≤ 0xFFFFFFFF then capacity - 52 else 0xFFFFFFFF).toNat < _
  simp only [UInt64.le_iff_toNat_le, room, last]
  split
  · omega
  · omega

namespace Channel

def Emptied (channel : Channel) : Prop :=
  channel.page.tail = channel.page.head

variable {before after : Channel}

/-- An emptied ring stays empty as long as nothing is published. -/
theorem Emptied.of_settles (empty : before.Emptied) (settles : Settles before after) :
    after.Emptied := by
  cases settles with
  | kept kept =>
      have forward := kept.tail_le
      have within := kept.tail_le_head (by rw [empty]; exact UInt64.le_refl _)
      rw [kept.head] at within
      rw [empty] at forward
      rw [Emptied, kept.head]
      exact UInt64.le_antisymm within forward
  | cleared answered cleared => rw [Emptied, cleared.head, cleared.tail]

/-- Where nothing is published, what is to be read does not grow. -/
theorem used_le_of_settles (settles : Settles before after)
    (ordered : before.page.tail ≤ before.page.head) : after.page.used ≤ before.page.used := by
  cases settles with
  | kept kept =>
      have forward := UInt64.le_iff_toNat_le.mp kept.tail_le
      rw [UInt64.le_iff_toNat_le, ControlPage.toNat_used (kept.tail_le_head ordered),
        ControlPage.toNat_used ordered, kept.head]
      omega
  | cleared answered cleared =>
      rw [ControlPage.used, cleared.head, cleared.tail, UInt64.sub_self]
      exact UInt64.zero_le

end Channel

/-- Only where the cursors meet is there nothing to be read. -/
theorem Region.eq_of_recordAtTail_nothing {region : Region} {capacity : UInt64}
    (found : region.recordAtTail capacity = .nothing) : region.page.tail = region.page.head := by
  simp only [recordAtTail] at found
  split at found
  · assumption
  · split at found
    · cases found
    · split at found
      · cases found
      · split at found
        · cases found
        · split at found
          · cases found
          · split at found
            · cases found
            · split at found
              · cases found
              · split at found
                · cases found
                · cases found

namespace Channel

/-- A record that was taken out no longer counts as published and unread. -/
theorem used_release {channel : Channel} {capacity : UInt64} {record : Record}
    (found : channel.region.recordAtTail capacity = .record record) :
    (channel.region.release record).page.used.toNat + 16 ≤ channel.page.used.toNat := by
  obtain ⟨ordered, within⟩ := Region.span_le_of_recordAtTail found
  have span := record.header.span_toNat
  have header : RecordHeader.size = 16 := rfl
  have rest : (channel.region.release record).page.used =
      channel.region.page.used - record.header.span := by
    change channel.region.page.head - (channel.region.page.tail + record.header.span) = _
    rw [ControlPage.used]
    grind
  rw [rest, UInt64.toNat_sub_of_le _ _ within]
  rw [UInt64.le_iff_toNat_le] at within
  change _ ≤ channel.region.page.used.toNat
  omega

/-- A read that finds a record frees sixteen bytes at least; one that finds nothing finds the ring
empty, and leaves it so. -/
theorem read_frees (channel : Channel) (now : UInt64) (reader : Reader) :
    (∃ record counted after, channel.read now reader = (.record record, counted, after) ∧
        after.page.used.toNat + 16 ≤ channel.page.used.toNat) ∨
      (channel.read now reader = (.nothing, reader, channel) ∧ channel.Emptied) ∨
      (∃ place after, channel.read now reader = (.corrupted place, reader, after)) ∨
      channel.read now reader = (.overrun, reader, channel) := by
  cases look : channel.region.recordAtTail reader.capacity with
  | record record =>
      have less := used_release look
      have kept := kept_release look
      have ordered := kept.tail_le_head (Region.span_le_of_recordAtTail look).1
      generalize taken : { channel with region := channel.region.release record } = freed at kept ordered
      have page : (channel.region.release record).page = freed.page := by
        rw [← taken]
        rfl
      rw [page] at less
      have fewer := used_le_of_settles (settles_evaluateWatermarks freed now) ordered
      rw [UInt64.le_iff_toNat_le] at fewer
      left
      refine ⟨record, reader.count record, if reader.inProcess then freed.evaluateWatermarks now
        else freed, ?_, ?_⟩
      · rw [read, Reader.take_of_record look, ← taken]
      · split
        · omega
        · exact less
  | nothing =>
      right; left
      refine ⟨?_, Region.eq_of_recordAtTail_nothing look⟩
      simp only [read, Reader.take, look]
  | corrupted place =>
      right; right; left
      exact ⟨place, channel.log (.desynchronised place), by simp only [read, Reader.take, look]⟩
  | overrun =>
      right; right; right
      simp only [read, Reader.take, look]

/-- A poll that ends drained has emptied the ring, as long as its fuel was enough for what was there. -/
theorem emptied_of_pollFor {channel : Channel} {now : UInt64} {reader : Reader} {fuel : Nat}
    (enough : channel.page.used.toNat < 16 * fuel)
    (drained : (channel.pollFor now reader fuel).1 = .drained) :
    (channel.pollFor now reader fuel).2.2.2.Emptied := by
  -- On the fuel: a read frees sixteen bytes at least, or it ends the poll.
  induction fuel generalizing channel reader with
  | zero => omega
  | succ fuel ih =>
      unfold pollFor at drained ⊢
      rcases channel.read_frees now reader with ⟨record, counted, after, answer, freed⟩ |
        ⟨answer, empty⟩ | ⟨place, after, answer⟩ | answer
      · rw [answer] at drained ⊢
        exact ih (by omega) drained
      · rw [answer]
        exact empty
      · rw [answer] at drained
        cases drained
      · rw [answer] at drained
        cases drained

theorem emptied_of_poll {channel : Channel} {now : UInt64} {reader : Reader}
    (drained : (channel.poll now reader).1 = .drained) :
    (channel.poll now reader).2.2.2.Emptied :=
  emptied_of_pollFor (by rw [Reader.pollFuel]; omega) drained

/-- From anywhere behind it the tail can be moved to the head. -/
theorem emptied_advanceTail {channel : Channel} (now : UInt64)
    (ordered : channel.page.tail ≤ channel.page.head) :
    (channel.advanceTail now channel.page.head).1 = .ok () ∧
      (channel.advanceTail now channel.page.head).2.Emptied := by
  have empty : (channel.withTail channel.page.head).Emptied := rfl
  have crossed := empty.of_settles (still_crossWatermarks _ now).settles
  rw [advanceTail, moveTail_of_between now ordered (UInt64.le_refl _)]
  generalize (channel.withTail channel.page.head).crossWatermarks now = answer at crossed ⊢
  obtain ⟨edge, after⟩ := answer
  cases edge with
  | none => exact ⟨rfl, crossed⟩
  | some edge =>
      cases edge with
      | rising => exact ⟨rfl, crossed.of_settles (after.settles_notifyConsumer now)⟩
      | falling => exact ⟨rfl, crossed⟩

/-- A push that was written where `missed` pushes had been dropped before it: the ring drops no more, and
the summary of these stands in it from the old head on, in front of the packet. What the watermarks make
of it comes after. -/
structure Resumed (before : Channel) (missed : Nat) (since now : UInt64) (payload : Bytes)
    (after : Channel) : Prop where
  closed : after.page.isDropping = false
  stored : ByteRing.stored before.capacity.toNat after.region.data before.page.head.toNat
      (Record.stream (Record.ofPush missed since now payload)).length =
    Record.stream (Record.ofPush missed since now payload)
  published : ∃ written, before.Wrote (Record.ofPush missed since now payload) written ∧
    after = written.evaluateWatermarks now

theorem resumed_of_wrote {before written : Channel} {missed : Nat} {since now : UInt64}
    {payload : Bytes} (wrote : before.Wrote (Record.ofPush missed since now payload) written)
    (closed : written.page.isDropping = false)
    (fits : (Record.stream (Record.ofPush missed since now payload)).length ≤ before.capacity.toNat)
    (held : before.capacity.toNat ≤ before.region.data.size) :
    before.Resumed missed since now payload (written.evaluateWatermarks now) := by
  have settles := settles_evaluateWatermarks written now
  obtain ⟨data, calm⟩ : (written.evaluateWatermarks now).region.data = written.region.data ∧
      (written.evaluateWatermarks now).page.isDropping = false := by
    cases settles with
    | kept kept => exact ⟨kept.data, by rw [ControlPage.isDropping, kept.flags]; exact closed⟩
    | cleared answered cleared =>
        exact ⟨cleared.data, by rw [ControlPage.isDropping, cleared.flags]; decide⟩
  refine ⟨calm, ?_, written, wrote, rfl⟩
  rw [data, wrote.data]
  exact ByteRing.stored_fill_self _ _ _ fits held

/-- Every payload that the ring admits finds an emptied ring with room for it, and for the summary of
the episode that is open. -/
theorem resumed_of_emptied {channel : Channel} {story : Story} (tells : Tells channel story)
    (empty : channel.Emptied) (least : minCapacity ≤ channel.capacity) (now : UInt64) {payload : Bytes}
    (admitted : payload.length ≤ channel.maxPayload.toNat) :
    (channel.push now payload).1 = .written ∧
      channel.Resumed story.missed story.since now payload (channel.push now payload).2 := by
  have used : channel.page.used.toNat = 0 := by
    rw [ControlPage.used, ← show channel.page.tail = channel.page.head from empty, UInt64.sub_self]
    rfl
  have room := (maxPayload_room least).1
  change channel.maxPayload.toNat + 52 ≤ channel.capacity.toNat at room
  have total := Record.length_stream_ofPush story.missed story.since now payload
  have pushed := pushed_push tells.holds.power tells.misses now payload
  generalize channel.push now payload = answer at pushed ⊢
  obtain ⟨outcome, after⟩ := answer
  cases pushed with
  | tooLarge long => omega
  | dropped short full =>
      rw [total, used] at full
      split at full <;> omega
  | written written short fits wrote closed chronicle =>
      exact ⟨rfl, resumed_of_wrote wrote closed (by omega) tells.holds.held⟩

end Channel

namespace Told

variable {told : Told} {channel : Channel}

/-- The command leaves nothing to be read: a poll that ends drained, or moving the tail to the head. -/
inductive Empties (told : Told) (time : UInt64) : Command → Prop
  | poll (number : Nat) (records : List Record)
      (drained : (told.step time (.poll number)).1 = .polled .drained records) :
      Empties told time (.poll number)
  | advanceTail (channel : Channel) (there : told.session.channel? = some channel) :
      Empties told time (.advanceTail channel.page.head)

theorem Empties.isQuiet {time : UInt64} {command : Command} (empties : told.Empties time command) :
    command.isQuiet = true := by
  cases empties <;> rfl

/-- What a quiet command does publishes nothing, so the story is no longer than it was. -/
theorem size_step_of_quiet (sound : Sound told channel) (time : UInt64) {command : Command}
    (still : command.isQuiet = true) : (told.step time command).2.story.size < UInt64.size := by
  have before : told.story.size < UInt64.size := by
    rw [Story.size, ← sound.tells.holds.head]
    exact channel.page.head.toNat_lt
  have story : (told.step time command).2.story =
      if (told.step time command).2.session.resets = told.session.resets then
        told.story.tell time command (told.step time command).1
      else {} := rfl
  have same : told.story.tell time command (told.step time command).1 = told.story := by
    cases command <;> first | rfl | cases still
  rw [story, same]
  split
  · exact before
  · decide

/-- An emptied ring of a session, with the story that is true of it. -/
theorem emptied_step (sound : Sound told channel) {time : UInt64} {command : Command}
    (empties : told.Empties time command) :
    ∃ after, Sound (told.step time command).2 after ∧ channel.Framed after ∧ after.Emptied ∧
      ∀ position, command = .advanceTail position → (told.step time command).1 = .done := by
  obtain ⟨named, store⟩ := sound.store
  obtain ⟨after, next, -, -, framed, -⟩ := sound_step sound time (.quiet empties.isQuiet)
    (size_step_of_quiet sound time empties.isQuiet)
  refine ⟨after, next, framed, ?_⟩
  cases empties with
  | poll number records drained =>
      change (told.session.step (some time) (.poll number)).1 = _ at drained
      cases found : told.session.readers[number]? with
      | none =>
          rw [Session.step_of_missing store found time (.inr rfl)] at drained
          cases drained
      | some reader =>
          have answer := Session.step_poll store found time
          have reached : after = (channel.poll time reader).2.2.2 :=
            next.channel_eq (congrArg (Session.store ∘ Prod.snd) answer)
          rw [answer, Reply.polled.injEq] at drained
          rw [reached]
          exact ⟨Channel.emptied_of_poll drained.1, nofun⟩
  | advanceTail other there =>
      rw [sound.channel?_eq] at there
      cases there
      have answer := Session.step_advanceTail store time channel.page.head
      have reached : after = (channel.advanceTail time channel.page.head).2 :=
        next.channel_eq (congrArg (Session.store ∘ Prod.snd) answer)
      obtain ⟨done, empty⟩ := Channel.emptied_advanceTail time sound.tells.holds.ordered
      rw [reached]
      refine ⟨empty, fun position same => ?_⟩
      change (told.session.step (some time) (.advanceTail channel.page.head)).1 = .done
      rw [answer, done]
      rfl

variable {origin : Origin} {plan : RingPlan} {path : String} {now : UInt64} {view : CreationView}
  {session : Session}

/-- Whatever a session has lived through, once its ring is emptied every payload that the ring admits is
written, and with it the summary of the episode that was open; for the largest payload of a capacity that
can be asked for fits it together with two headers and a summary. -/
theorem resumes_once_emptied
    (started : Session.start origin plan path now = (.created view, some session))
    {turns : List Turn} {told : Told}
    (run : Run (fun _ _ command => command.Ordinary) session turns told)
    {time : UInt64} {command : Command} (empties : told.Empties time command) :
    (∀ capacity, checkCapacity capacity = .ok () →
      (maxPayload capacity).toNat + 52 ≤ capacity.toNat ∧
        (maxPayload capacity).toNat < UInt32.size) ∧
    (∀ position, command = .advanceTail position → (told.step time command).1 = .done) ∧
    ∃ channel, (told.step time command).2.session.channel? = some channel ∧ channel.Emptied ∧
      (channel.page.isDropping = true ↔ 0 < (told.step time command).2.story.missed) ∧
      ∀ later payload, payload.length ≤ (maxPayload plan.capacity).toNat →
        ((told.step time command).2.step later (.push payload 1)).1 = .outcomes [.written] ∧
        ∃ after, ((told.step time command).2.step later (.push payload 1)).2.session.channel? =
            some after ∧
          channel.Resumed (told.step time command).2.story.missed
            (told.step time command).2.story.since later payload after := by
  obtain ⟨made, fresh, first⟩ := sound_of_start started
  obtain ⟨before, sound, framed⟩ := framed_of_run (fun _ _ _ => id) first run
  obtain ⟨channel, emptied, step, empty, done⟩ := emptied_step sound empties
  have capacity : channel.capacity = plan.capacity :=
    (framed.trans step).capacity.trans fresh.capacity
  obtain ⟨-, least, -⟩ := plan.validate_eq_ok_iff.mp fresh.valid
  refine ⟨fun capacity accepted => maxPayload_room ((checkCapacity_eq_ok_iff capacity).mp accepted).2,
    done, channel, emptied.channel?_eq, empty, emptied.tells.misses.dropping, ?_⟩
  intro later payload admitted
  obtain ⟨written, resumed⟩ := Channel.resumed_of_emptied emptied.tells empty
    (by rw [capacity]; exact least) later (by rw [Channel.maxPayload, capacity]; exact admitted)
  obtain ⟨named, store⟩ := emptied.store
  have answer := Session.step_push store emptied.seat later payload
  rw [written] at answer
  exact ⟨congrArg Prod.fst answer, _, congrArg (Session.channel? ∘ Prod.snd) answer, resumed⟩

/-- A ring of 64 bytes that two packets fill, so that three more are dropped. -/
def smallFull : Told :=
  let push (told : Told) (time : UInt64) := (told.step time (.push (List.replicate 12 7) 1)).2
  push (push (push (push (push ⟨Session.small, {}⟩ 1) 2) 3) 4) 5

/-- Once it is polled, the largest payload comes behind a summary of the three. -/
theorem resumes_once_small_polled :
    ∃ channel after, (smallFull.step 6 (.poll 0)).2.session.channel? = some channel ∧
      channel.page.isDropping = true ∧
      ((smallFull.step 6 (.poll 0)).2.step 7 (.push (List.replicate 12 9) 1)).2.session.channel? =
        some after ∧
      channel.Resumed 3 3 7 (List.replicate 12 9) after := by
  obtain ⟨view, started⟩ := Session.start_small
  have run : Run (fun _ _ command => command.Ordinary) Session.small _ smallFull :=
    .step (.step (.step (.step (.step .start
      1 _ (.push _) (by decide +kernel)) 2 _ (.push _) (by decide +kernel))
      3 _ (.push _) (by decide +kernel)) 4 _ (.push _) (by decide +kernel))
      5 _ (.push _) (by decide +kernel)
  obtain ⟨records, drained⟩ :
      ∃ records, (smallFull.step 6 (.poll 0)).1 = .polled .drained records := by
    have ended : (match (smallFull.step 6 (.poll 0)).1 with
      | .polled .drained _ => true
      | _ => false) = true := by decide +kernel
    split at ended
    · rename_i records drained
      exact ⟨records, drained⟩
    · cases ended
  obtain ⟨-, -, channel, there, -, dropping, next⟩ :=
    resumes_once_emptied started run (.poll 0 records drained)
  have missed : (smallFull.step 6 (.poll 0)).2.story.missed = 3 := by decide +kernel
  have since : (smallFull.step 6 (.poll 0)).2.story.since = 3 := by decide +kernel
  obtain ⟨-, after, thereAfter, resumed⟩ := next 7 (List.replicate 12 9) (by decide)
  rw [missed, since] at resumed
  exact ⟨channel, after, there, dropping.mpr (by rw [missed]; decide), thereAfter, resumed⟩

end Told

end RecordRing
