import RecordRing.Proofs.Unattended

set_option autoImplicit false

namespace RecordRing

/-- Where the stream goes on after a command: at its end, or at zero after a reset. -/
def Command.onwards (command : Command) (head : Nat) : Nat :=
  match command with
  | .reset => 0
  | _ => head

namespace Story

def published (story : Story) (now : UInt64) (command : Command) (reply : Reply) : List Record :=
  match command, reply with
  | .push payload _, .outcomes [.written] => Record.ofPush story.missed story.since now payload
  | _, _ => []

/-- An episode is dated when it opens. -/
theorem dated_next (story : Story) {now : UInt64} {command : Command} {reply : Reply}
    (dated : 0 < story.missed → story.since ≤ now) :
    0 < (story.next now command reply).missed → (story.next now command reply).since ≤ now := by
  intro some
  cases command with
  | reset => cases some
  | push payload times =>
      simp only [next, tell] at some ⊢
      split at some
      · rename_i payload _ outcome same
        cases same
        cases outcome with
        | written => cases some
        | dropped =>
            simp only [push]
            split
            · exact UInt64.le_refl _
            · rename_i opened
              exact dated (Nat.pos_of_ne_zero opened)
        | tooLarge => exact dated some
      · exact dated some
  | _ => exact dated some

end Story

namespace Channel

/-- One command and the account of it: what it publishes, what the page and the log say of the episode, and
how it answers. -/
structure Accounts (before : Channel) (story : Story) (now : UInt64) (command : Command)
    (reply : Reply) (after : Channel) : Prop where
  /-- The flag on the page is set from the first push that is dropped to the next one written. -/
  dropping : after.page.isDropping = true ↔ 0 < (story.next now command reply).missed
  /-- What is published stands behind what was, and nothing else does. -/
  head : after.page.head.toNat =
    command.onwards before.page.head.toNat +
      (Record.stream (story.published now command reply)).length
  stored : ByteRing.stored before.capacity.toNat after.region.data before.page.head.toNat
      (Record.stream (story.published now command reply)).length =
    Record.stream (story.published now command reply)
  /-- A summary counts the pushes that were dropped, as far as 32 bits go, and dates the first of them
  and the end of the episode. The page itself counts in 64 bits. -/
  summary : ∀ header summary, .drop header summary ∈ story.published now command reply →
    0 < story.missed ∧ summary.lost.toNat = min (story.missed % UInt64.size) 0xFFFFFFFF ∧
      (story.missed < UInt64.size → summary.lost.toNat = min story.missed 0xFFFFFFFF) ∧
      summary.start = story.since ∧ summary.finish = now ∧ header.timestamp = now ∧
      summary.start ≤ summary.finish
  announced : after.chronicle =
    before.chronicle ++ story.announced before.page.used now command reply

variable {before after : Channel} {story : Story} {now : UInt64}

theorem summary_of_published {command : Command} {reply : Reply}
    (dated : 0 < story.missed → story.since ≤ now) {header : RecordHeader} {summary : DropSummary}
    (member : .drop header summary ∈ story.published now command reply) :
    0 < story.missed ∧ summary.lost.toNat = min (story.missed % UInt64.size) 0xFFFFFFFF ∧
      (story.missed < UInt64.size → summary.lost.toNat = min story.missed 0xFFFFFFFF) ∧
      summary.start = story.since ∧ summary.finish = now ∧ header.timestamp = now ∧
      summary.start ≤ summary.finish := by
  unfold Story.published at member
  split at member
  · rename_i payload times
    rw [Record.ofPush, List.mem_append, List.mem_singleton, Record.owed] at member
    rcases member with owed | packet
    · split at owed
      · cases owed
      · rename_i some
        rw [List.mem_singleton] at owed
        cases owed
        have positive := Nat.pos_of_ne_zero some
        have lost : (UInt32.ofNat (min (story.missed % UInt64.size) 0xFFFFFFFF)).toNat =
            min (story.missed % UInt64.size) 0xFFFFFFFF := by
          rw [UInt32.toNat_ofNat']
          omega
        refine ⟨positive, lost, fun few => ?_, rfl, rfl, rfl, dated positive⟩
        rw [lost, Nat.mod_eq_of_lt few]
    · cases packet
  · cases member

theorem accounts_of_pushed {payload : Bytes} {outcome : PushOutcome} (tells : Tells before story)
    (unbound : before.slot.bound = none) (dated : 0 < story.missed → story.since ≤ now)
    (pushed : Pushed before story.missed story.since now payload outcome after)
    (bound : (story.push now payload outcome).size < UInt64.size) :
    Accounts before story now (.push payload 1) (.outcomes [outcome]) after := by
  have announced := announced_of_pushed tells.misses unbound pushed
  cases pushed with
  | tooLarge long =>
      exact ⟨tells.misses.dropping, rfl, rfl, fun _ _ => summary_of_published dated, announced⟩
  | dropped short full =>
      have steady := before.steady_noteDrop now (16 + UInt64.ofNat payload.length)
      have misses := misses_noteDrop tells.misses now (16 + UInt64.ofNat payload.length)
      refine ⟨misses.dropping, ?_, rfl, fun _ _ => summary_of_published dated, announced⟩
      rw [steady.head]
      rfl
  | written written short room wrote closed chronicle =>
      have still := still_evaluateWatermarks now (.of_unbound (wrote.bound.trans unbound))
      have page : (written.evaluateWatermarks now).page = written.page :=
        congrArg Region.page still.region
      have framed := Record.wellFormed_ofPush story.missed story.since now
        (Nat.lt_of_le_of_lt short before.toNat_maxPayload_lt)
      have holds := tells.holds.of_wrote wrote framed room bound
      refine ⟨?_, ?_, ?_, fun _ _ => summary_of_published dated, announced⟩
      · rw [page, closed]
        exact ⟨nofun, nofun⟩
      · rw [page, holds.head, tells.holds.head, Record.stream_append, List.length_append]
        rfl
      · rw [still.region, wrote.data]
        exact ByteRing.stored_fill_self _ _ _ (by omega) tells.holds.held

theorem accounts_of_acts {command : Command} {reply : Reply} (tells : Tells before story)
    (unbound : before.slot.bound = none) (dated : 0 < story.missed → story.since ≤ now)
    (acts : Acts now before command reply after) (same : ∀ binding, command ≠ .bind binding)
    (bound : (story.next now command reply).size < UInt64.size) :
    Accounts before story now command reply after := by
  have announced := announced_of_acts tells unbound acts same
  cases acts with
  | push payload =>
      exact accounts_of_pushed tells unbound dated
        (pushed_push tells.holds.power tells.misses now payload) bound
  | reset =>
      have cleared := before.cleared_reset
      refine ⟨(Misses.of_cleared cleared).dropping, ?_, rfl, fun _ _ => summary_of_published dated,
        announced⟩
      rw [cleared.head]
      rfl
  | bind binding => exact absurd rfl (same binding)
  | quiet reply still settles =>
      have kept := settles.of_unbound unbound
      obtain ⟨published, next, onwards⟩ : story.published now command reply = [] ∧
          story.next now command reply = story ∧
          command.onwards before.page.head.toNat = before.page.head.toNat := by
        cases command <;> first | exact ⟨rfl, rfl, rfl⟩ | cases still
      refine ⟨?_, ?_, ?_, fun _ _ => summary_of_published dated, announced⟩
      · rw [next]
        exact (tells.misses.of_kept kept).dropping
      · rw [published, onwards, kept.head]
        rfl
      · rw [published]
        rfl

end Channel

namespace Told

/-- Ordinary commands but for the binding of notifiers, at a clock that does not go backwards. -/
def Clocked (told : Told) (time : UInt64) (command : Command) : Prop :=
  command.Ordinary ∧ (∀ binding, command ≠ .bind binding) ∧ told.session.now ≤ time

/-- An open episode was not opened later than now. -/
structure Timely (told : Told) (channel : Channel) : Prop extends Unattended told channel where
  dated : 0 < told.story.missed → told.story.since ≤ told.session.now

theorem timely_step {told : Told} {channel : Channel} (timely : Timely told channel) {time : UInt64}
    {command : Command} (clocked : Clocked told time command)
    (bound : (told.step time command).2.story.size < UInt64.size) :
    ∃ after, Timely (told.step time command).2 after ∧
      channel.Accounts told.story time command (told.step time command).1 after ∧
      (told.step time command).2.story =
        told.story.next time command (told.step time command).1 := by
  obtain ⟨ordinary, same, forward⟩ := clocked
  obtain ⟨after, unattended, now, story, acts, -⟩ :=
    unattended_step timely.toUnattended time ordinary same bound
  have dated : 0 < told.story.missed → told.story.since ≤ time := fun some =>
    UInt64.le_trans (timely.dated some) forward
  refine ⟨after, ⟨unattended, ?_⟩, ?_, story⟩
  · rw [now, story]
    exact told.story.dated_next dated
  · exact Channel.accounts_of_acts timely.tells timely.unbound dated acts same (by rwa [← story])

variable {origin : Origin} {plan : RingPlan} {path : String} {now : UInt64} {view : CreationView}
  {session : Session}

theorem timely_of_run (started : Session.start origin plan path now = (.created view, some session))
    {turns : List Turn} {told : Told} (run : Run Clocked session turns told) :
    ∃ channel, Timely told channel := by
  induction run with
  | start =>
      obtain ⟨channel, fresh, sound⟩ := sound_of_start started
      exact ⟨channel, ⟨sound, fresh.bound⟩, nofun⟩
  | step run time command permitted bound ih =>
      obtain ⟨channel, timely⟩ := ih
      obtain ⟨after, next, -⟩ := timely_step timely permitted bound
      exact ⟨after, next⟩

/-- In every state that is reached without notifiers, at a clock that does not go backwards, the flag
tells of the open episode, and the next command publishes and announces what the story says of it. -/
theorem episodes_accounted_of_run
    (started : Session.start origin plan path now = (.created view, some session))
    {turns : List Turn} {told : Told} (run : Run Clocked session turns told) :
    ∃ channel, told.session.channel? = some channel ∧
      (channel.page.isDropping = true ↔ 0 < told.story.missed) ∧
      ∀ time command, Clocked told time command →
        (told.step time command).2.story.size < UInt64.size →
          ∃ after, (told.step time command).2.session.channel? = some after ∧
            channel.Accounts told.story time command (told.step time command).1 after ∧
            (told.step time command).2.story =
              told.story.next time command (told.step time command).1 := by
  obtain ⟨channel, timely⟩ := timely_of_run started run
  refine ⟨channel, timely.channel?_eq, timely.tells.misses.dropping, ?_⟩
  intro time command clocked bound
  obtain ⟨after, next, accounts, story⟩ := timely_step timely clocked bound
  exact ⟨after, next.channel?_eq, accounts, story⟩

/-- A ring of 64 bytes after two pushes that fit it and two that do not, all read again. -/
def smallDrained : Told :=
  let push (told : Told) (time : UInt64) := (told.step time (.push (List.replicate 12 7) 1)).2
  let full := push (push (push (push ⟨Session.small, {}⟩ 1) 2) 3) 4
  (full.step 5 (.poll 0)).2

/-- The next push publishes a summary of the two and its packet. -/
theorem episodes_accounted_after_two_drops :
    let resumed := smallDrained.step 6 (.push [9] 1)
    resumed.2.story.records.drop 2 = [
        .drop (.dropSummary 6) { lost := 2, start := 3, finish := 6 },
        .packet (.packet 1 6) [9]] ∧
      ∃ channel after, smallDrained.session.channel? = some channel ∧
        resumed.2.session.channel? = some after ∧
        channel.Accounts smallDrained.story 6 (.push [9] 1) resumed.1 after := by
  obtain ⟨view, started⟩ := Session.start_small
  have clocked : ∀ (told : Told) (time : UInt64) (payload : Bytes), told.session.now ≤ time →
      Clocked told time (.push payload 1) :=
    fun _ _ payload forward => ⟨.push payload, nofun, forward⟩
  have run : Run Clocked Session.small _ smallDrained :=
    .step (.step (.step (.step (.step .start
      1 _ (clocked _ _ _ (by decide +kernel)) (by decide +kernel))
      2 _ (clocked _ _ _ (by decide +kernel)) (by decide +kernel))
      3 _ (clocked _ _ _ (by decide +kernel)) (by decide +kernel))
      4 _ (clocked _ _ _ (by decide +kernel)) (by decide +kernel))
      5 (.poll 0) ⟨.quiet rfl, nofun, by decide +kernel⟩ (by decide +kernel)
  obtain ⟨channel, found, -, step⟩ := episodes_accounted_of_run started run
  obtain ⟨after, foundAfter, accounts, -⟩ :=
    step 6 (.push [9] 1) (clocked _ _ _ (by decide +kernel)) (by decide +kernel)
  exact ⟨by decide +kernel, channel, after, found, foundAfter, accounts⟩

end Told

end RecordRing
