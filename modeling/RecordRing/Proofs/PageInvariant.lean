import RecordRing.Proofs.Story

set_option autoImplicit false

namespace RecordRing

namespace Channel

/-- What always holds of a ring made after a plan: its page, its counters and its rate. -/
structure Kempt (channel : Channel) (plan : RingPlan) (made : Channel) (story : Story) : Prop where
  ordered : channel.page.tail ≤ channel.page.head
  lap : channel.page.head.toNat - channel.page.tail.toNat ≤ plan.capacity.toNat
  bytes : channel.tallies.bytes = channel.page.head
  head : channel.page.head.toNat = story.size
  records : channel.tallies.records.toNat = story.records.length
  marks : channel.page.lo ≤ channel.page.hi ∧ channel.page.hi ≤ 100
  rate : 1 ≤ channel.rate ∧ channel.rate ≤ 100000
  capacity : channel.page.capacity = plan.capacity
  reserved : channel.page.reserved = 0
  /-- All of the control page behind its fields. -/
  padding : channel.region.padding = made.region.padding

/-- What the frame of every operation keeps of a fresh ring, in a state the story is true of. -/
theorem kempt_of_framed {plan : RingPlan} {made channel : Channel} {story : Story}
    (fresh : Fresh plan made) (framed : Framed made channel) (tells : Tells channel story) :
    Kempt channel plan made story := by
  have marked := framed.marked fresh.marked
  have capacity := framed.capacity.trans fresh.capacity
  refine ⟨tells.holds.ordered, ?_, tells.holds.bytes, tells.holds.head, tells.holds.count,
    ⟨marked.ordered, marked.percent⟩, ⟨marked.least, marked.most⟩, ?_, ?_, framed.padding⟩
  · rw [← capacity]
    exact tells.holds.lap
  · rw [framed.named, fresh.page]
    rfl
  · rw [framed.reserved, fresh.page]
    rfl

end Channel

namespace Told

variable {origin : Origin} {plan : RingPlan} {path : String} {now : UInt64} {view : CreationView}
  {session : Session}

/-- Along a run the story stays true, within the frame of the ring as it was made. -/
theorem framed_of_run {allowed : Told → UInt64 → Command → Prop}
    (ordinary : ∀ told time command, allowed told time command → command.Ordinary)
    {made : Channel} (sound : Sound ⟨session, {}⟩ made) {turns : List Turn} {told : Told}
    (run : Run allowed session turns told) :
    ∃ channel, Sound told channel ∧ made.Framed channel := by
  induction run with
  | start => exact ⟨made, sound, (Channel.Still.refl made).framed⟩
  | step run time command permitted bound ih =>
      obtain ⟨channel, reached, framed⟩ := ih
      obtain ⟨after, next, -, -, step, -⟩ :=
        sound_step reached time (ordinary _ _ _ permitted) bound
      exact ⟨after, next, framed.trans step⟩

/-- The invariant of the control page, and that no cursor goes back unless a reset was made. -/
theorem page_kempt_of_run
    (started : Session.start origin plan path now = (.created view, some session))
    {turns : List Turn} {told : Told}
    (run : Run (fun _ _ command => command.Ordinary) session turns told) :
    ∃ made channel, session.channel? = some made ∧ told.session.channel? = some channel ∧
      channel.Kempt plan made told.story ∧
      ∀ time command, command.Ordinary → (told.step time command).2.story.size < UInt64.size →
        ∃ after, (told.step time command).2.session.channel? = some after ∧
          ((told.step time command).2.session.resets = told.session.resets →
            channel.page.head ≤ after.page.head ∧ channel.page.tail ≤ after.page.tail) := by
  obtain ⟨made, fresh, first⟩ := sound_of_start started
  obtain ⟨channel, sound, framed⟩ := framed_of_run (fun _ _ _ => id) first run
  refine ⟨made, channel, first.channel?_eq, sound.channel?_eq,
    Channel.kempt_of_framed fresh framed sound.tells, ?_⟩
  intro time command ordinary bound
  obtain ⟨after, next, -, -, -, goes, -⟩ := sound_step sound time ordinary bound
  refine ⟨after, next.channel?_eq, ?_⟩
  intro same
  obtain ⟨_, store⟩ := sound.store
  obtain ⟨_, storeAfter⟩ := next.store
  rw [Session.resets_eq storeAfter, Session.resets_eq store] at same
  cases goes with
  | on _ _ head tail => exact ⟨head, tail⟩
  | anew more => omega

/-- A notifier that resets the ring is bound, and the second push makes it do so. -/
theorem page_kempt_after_reaction :
    let bound := ((⟨Session.small, {}⟩ : Told).step 5 (.bind (.counting .reset))).2
    let first := (bound.step 6 (.push (List.replicate 12 7) 1)).2
    let second := (first.step 7 (.push (List.replicate 12 8) 1)).2
    second.story.records = [] ∧ ∃ made channel, Session.small.channel? = some made ∧
      second.session.channel? = some channel ∧
      channel.Kempt { capacity := 64 } made second.story := by
  intro bound first second
  obtain ⟨view, started⟩ := Session.start_small
  have run : Run (fun _ _ command => command.Ordinary) Session.small _ second :=
    .step (.step (.step .start 5 _ (.bind (.counting .reset)) (by decide +kernel)) 6 _
      (.push (List.replicate 12 7)) (by decide +kernel)) 7 _ (.push (List.replicate 12 8))
      (by decide +kernel)
  obtain ⟨made, channel, before, after, kempt, -⟩ := page_kempt_of_run started run
  exact ⟨by decide +kernel, made, channel, before, after, kempt⟩

end Told

end RecordRing
