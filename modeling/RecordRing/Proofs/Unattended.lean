import RecordRing.Proofs.Story

set_option autoImplicit false

namespace RecordRing

namespace Story

/-- What the log tells of episodes and resets in a command that finds `used` bytes in the ring. -/
def announced (story : Story) (used now : UInt64) (command : Command) (reply : Reply) :
    List Effect :=
  match command, reply with
  | .push _ _, .outcomes [.written] => Channel.farewell story.missed story.since now
  | .push payload _, .outcomes [.dropped] =>
      if story.missed = 0 then [.logged (.ringFull (16 + UInt64.ofNat payload.length) used)] else []
  | .reset, _ => [.logged .ringReset]
  | _, _ => []

/-- The story after a command, where only a command resets the ring. -/
def next (story : Story) (now : UInt64) (command : Command) (reply : Reply) : Story :=
  match command with
  | .reset => {}
  | _ => story.tell now command reply

theorem next_of_quiet (story : Story) (now : UInt64) {command : Command} (reply : Reply)
    (still : command.isQuiet = true) : story.next now command reply = story := by
  cases command <;> first | rfl | cases still

end Story

namespace Channel

variable {before after : Channel} {story : Story} {now : UInt64}

/-- A push leaves the notifier in its place. -/
theorem bound_of_pushed {payload : Bytes} {outcome : PushOutcome}
    (pushed : Pushed before story.missed story.since now payload outcome after) :
    after.slot.bound = before.slot.bound := by
  cases pushed with
  | tooLarge long => rfl
  | dropped short full => exact (before.steady_noteDrop now _).bound
  | written written short room wrote closed chronicle =>
      exact (settles_evaluateWatermarks written now).bound.trans wrote.bound

/-- No other command than the one for it replaces the notifier. -/
theorem bound_of_acts {command : Command} {reply : Reply} (tells : Tells before story)
    (acts : Acts now before command reply after) (same : ∀ binding, command ≠ .bind binding) :
    after.slot.bound = before.slot.bound := by
  cases acts with
  | push payload => exact bound_of_pushed (pushed_push tells.holds.power tells.misses now payload)
  | reset => exact before.cleared_reset.bound
  | bind binding => exact absurd rfl (same binding)
  | quiet reply still settles => exact settles.bound

theorem announced_of_pushed {payload : Bytes} {outcome : PushOutcome}
    (misses : Misses before story.missed story.since) (unbound : before.slot.bound = none)
    (pushed : Pushed before story.missed story.since now payload outcome after) :
    after.chronicle = before.chronicle ++
      story.announced before.page.used now (.push payload 1) (.outcomes [outcome]) := by
  cases pushed with
  | tooLarge long => exact (List.append_nil _).symm
  | dropped short full => exact chronicle_noteDrop misses now _
  | written written short room wrote closed chronicle =>
      have still := still_evaluateWatermarks now (.of_unbound (wrote.bound.trans unbound))
      rw [still.chronicle, chronicle]
      rfl

/-- Without a notifier the log tells of nothing else. -/
theorem announced_of_acts {command : Command} {reply : Reply} (tells : Tells before story)
    (unbound : before.slot.bound = none)
    (acts : Acts now before command reply after) (same : ∀ binding, command ≠ .bind binding) :
    after.chronicle =
      before.chronicle ++ story.announced before.page.used now command reply := by
  cases acts with
  | push payload =>
      exact announced_of_pushed tells.misses unbound
        (pushed_push tells.holds.power tells.misses now payload)
  | reset => exact chronicle_push _ (.logged .ringReset)
  | bind binding => exact absurd rfl (same binding)
  | quiet reply still settles =>
      have nothing : story.announced before.page.used now command reply = [] := by
        cases command <;> first | rfl | cases still
      rw [nothing, List.append_nil]
      exact (settles.of_unbound unbound).chronicle

/-- So it is the command alone that tells whether the ring was reset. -/
theorem next_of_announced {command : Command} {reply : Reply} {used : UInt64}
    (announced : after.chronicle = before.chronicle ++ story.announced used now command reply) :
    (if after.resets = before.resets then story.tell now command reply else {}) =
      story.next now command reply := by
  cases command with
  | reset =>
      have more : after.resets = before.resets + 1 := by
        rw [resets, resets, announced, List.count_append]
        rfl
      exact if_neg (by omega)
  | push payload times =>
      have none : .logged .ringReset ∉ story.announced used now (.push payload times) reply := by
        unfold Story.announced
        split
        · unfold farewell
          split <;> simp [episodeEnd]
        · split <;> simp
        · rename_i impossible
          cases impossible
        · exact List.not_mem_nil
      exact if_pos (resets_append announced none)
  | _ => exact if_pos (resets_append announced List.not_mem_nil)

end Channel

namespace Told

structure Unattended (told : Told) (channel : Channel) : Prop extends Sound told channel where
  unbound : channel.slot.bound = none

theorem unattended_step {told : Told} {channel : Channel} (unattended : Unattended told channel)
    (time : UInt64) {command : Command} (ordinary : command.Ordinary)
    (same : ∀ binding, command ≠ .bind binding)
    (bound : (told.step time command).2.story.size < UInt64.size) :
    ∃ after, Unattended (told.step time command).2 after ∧
      (told.step time command).2.session.now = time ∧
      (told.step time command).2.story =
        told.story.next time command (told.step time command).1 ∧
      channel.Acts time command (told.step time command).1 after ∧ channel.Framed after := by
  obtain ⟨after, sound, now, acts, framed, -, story⟩ :=
    sound_step unattended.toSound time ordinary bound
  have tells := unattended.tells
  have announced := Channel.announced_of_acts tells unattended.unbound acts same
  rw [Channel.next_of_announced announced] at story
  have unbound := (Channel.bound_of_acts tells acts same).trans unattended.unbound
  exact ⟨after, ⟨sound, unbound⟩, now, story, acts, framed⟩

/-- Quiet commands leave the story as it is. -/
theorem unattended_step_of_quiet {told : Told} {channel : Channel}
    (unattended : Unattended told channel) (time : UInt64) (command : Command)
    (still : command.isQuiet = true)
    (bound : (told.step time command).2.story.size < UInt64.size) :
    ∃ after, Unattended (told.step time command).2 after ∧
      (told.step time command).2.story = told.story := by
  have same : ∀ binding, command ≠ .bind binding := by
    rintro binding rfl
    cases still
  obtain ⟨after, next, -, story, -, -⟩ := unattended_step unattended time (.quiet still) same bound
  rw [told.story.next_of_quiet time _ still] at story
  exact ⟨after, next, story⟩

end Told

end RecordRing
