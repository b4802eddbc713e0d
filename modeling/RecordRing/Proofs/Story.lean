import RecordRing.Proofs.Creation
import RecordRing.Session.Perform
/-!
The story of a session. Beside the session goes what an observer writes down of it: the records
published since the ring was made or last reset, and how many pushes were dropped since one was
written. The observer sees the clock, the commands, their replies, and which resets the log tells of.
Every story that a session can live through is true of its ring.
-/

set_option autoImplicit false

namespace RecordRing

namespace Command

/-- Commands that neither push, nor reset, nor replace the notifier. -/
def isQuiet : Command → Bool
  | read _ | poll _ | openReader .. | advanceTail _ | setWatermarks .. | setRate _ => true
  | _ => false

/-- What the handles of a ring are for: pushing, reading, control. A run of pushes is pushes one after
another. -/
inductive Ordinary : Command → Prop
  | push (payload : Bytes) : Ordinary (.push payload 1)
  | reset : Ordinary .reset
  | bind (binding : Binding) : Ordinary (.bind binding)
  | quiet {command : Command} (still : command.isQuiet = true) : Ordinary command

end Command

namespace Channel

inductive Acts (now : UInt64) (before : Channel) : Command → Reply → Channel → Prop
  | push (payload : Bytes) : Acts now before (.push payload 1)
      (.outcomes [(before.push now payload).1]) (before.push now payload).2
  | reset : Acts now before .reset .done before.reset
  | bind (binding : Binding) (notifier : Option Notifier) (previous : Bool) {ready : Channel}
      (same : Still before ready) :
      Acts now before (.bind binding) (.bound previous) (ready.bindNotifier now notifier).2
  | quiet {command : Command} {after : Channel} (reply : Reply) (still : command.isQuiet = true)
      (settles : Settles before after) : Acts now before command reply after

end Channel

theorem Channel.Acts.of_push {now : UInt64} {before after : Channel} {payload : Bytes} {reply : Reply}
    (acts : Acts now before (.push payload 1) reply after) :
    reply = .outcomes [(before.push now payload).1] ∧ after = (before.push now payload).2 := by
  cases acts with
  | push => exact ⟨rfl, rfl⟩
  | quiet reply still => cases still

theorem Channel.Acts.of_reset {now : UInt64} {before after : Channel} {reply : Reply}
    (acts : Acts now before .reset reply after) : reply = .done ∧ after = before.reset := by
  cases acts with
  | reset => exact ⟨rfl, rfl⟩
  | quiet reply still => cases still

/-- An ordinary command finds the producer in its seat, and leaves it there. -/
theorem Session.acts_perform {session : Session} {channel : Channel} {named : Bool}
    (store : session.store = .ring channel named) (seat : session.seat = .producer)
    {command : Command} (ordinary : command.Ordinary) :
    ∃ after, (session.perform command).2.store = .ring after named ∧
      (session.perform command).2.seat = .producer ∧
        (session.perform command).2.now = session.now ∧
          channel.Acts session.now command (session.perform command).1 after := by
  obtain ⟨path, now, _, readers, _⟩ := session
  cases store
  cases seat
  cases ordinary with
  | push payload => exact ⟨_, rfl, rfl, rfl, .push payload⟩
  | reset => exact ⟨_, rfl, rfl, rfl, .reset⟩
  | bind binding =>
      cases binding with
      | nothing => exact ⟨_, rfl, rfl, rfl, .bind _ none _ (.refl channel)⟩
      | counting reaction =>
          refine ⟨_, rfl, rfl, rfl, .bind _ (some (.counting channel.counts.size reaction)) _ ?_⟩
          exact ⟨rfl, rfl, rfl, rfl, rfl, rfl, rfl, rfl⟩
      | target target =>
          refine ⟨_, rfl, rfl, rfl, .bind _ (some (.descriptor channel.bells.size)) _ ?_⟩
          exact ⟨rfl, rfl, rfl, rfl, rfl, rfl, rfl, rfl⟩
  | quiet still =>
      have rests := (Channel.Still.refl channel).settles
      cases command with
      | read number =>
          simp only [perform, readOnce]
          cases readers[number]? with
          | none => exact ⟨channel, rfl, rfl, rfl, .quiet _ rfl rests⟩
          | some reader => exact ⟨_, rfl, rfl, rfl, .quiet _ rfl (channel.settles_read now reader)⟩
      | poll number =>
          simp only [perform, readAll]
          cases readers[number]? with
          | none => exact ⟨channel, rfl, rfl, rfl, .quiet _ rfl rests⟩
          | some reader => exact ⟨_, rfl, rfl, rfl, .quiet _ rfl (channel.settles_poll now reader)⟩
      | openReader view missing =>
          simp only [perform, openReader]
          split
          · exact ⟨channel, rfl, rfl, rfl, .quiet _ rfl rests⟩
          · split
            · exact ⟨channel, rfl, rfl, rfl, .quiet _ rfl rests⟩
            · split
              · exact ⟨channel, rfl, rfl, rfl, .quiet _ rfl rests⟩
              · exact ⟨_, rfl, rfl, rfl, .quiet _ rfl ((Channel.Still.refl channel).log rfl).settles⟩
      | advanceTail position =>
          exact ⟨_, rfl, rfl, rfl, .quiet _ rfl (channel.settles_advanceTail now position)⟩
      | setWatermarks hi lo =>
          exact ⟨_, rfl, rfl, rfl, .quiet _ rfl (.kept (channel.kept_setWatermarks hi lo))⟩
      | setRate rate => exact ⟨_, rfl, rfl, rfl, .quiet _ rfl (.kept (channel.kept_setRate rate))⟩
      | _ => cases still

/-- What an observer has written down since the ring was made or last reset. -/
structure Story where
  records : List Record := []
  /-- Pushes dropped since one was written. -/
  missed : Nat := 0
  since : UInt64 := 0

namespace Story

def size (story : Story) : Nat :=
  (Record.stream story.records).length

def push (story : Story) (now : UInt64) (payload : Bytes) : PushOutcome → Story
  | .written => { records := story.records ++ Record.ofPush story.missed story.since now payload }
  | .dropped =>
      { story with
        missed := story.missed + 1
        since := if story.missed = 0 then now else story.since }
  | .tooLarge => story

/-- The story goes on with a command in which no reset was made. -/
def tell (story : Story) (now : UInt64) (command : Command) (reply : Reply) : Story :=
  match command, reply with
  | .push payload _, .outcomes [outcome] => story.push now payload outcome
  | _, _ => story

end Story

def Session.resets (session : Session) : Nat :=
  session.trace.toList.count (.logged .ringReset)

/-- A session with its story. -/
structure Told where
  session : Session
  story : Story

structure Turn where
  time : UInt64
  command : Command
  reply : Reply

namespace Told

/-- Carry out a command and write it down; a reset ends the story, and another one begins. -/
def step (told : Told) (time : UInt64) (command : Command) : Reply × Told :=
  let (reply, session) := told.session.step (some time) command
  let story :=
    if session.resets = told.session.resets then told.story.tell time command reply else {}
  (reply, ⟨session, story⟩)

/-- The runs of a session in which every command is an allowed one, and fewer than 2^64 bytes are
published between two resets; their turns, oldest first, and what they come to. -/
inductive Run (allowed : Told → UInt64 → Command → Prop) (start : Session) : List Turn → Told → Prop
  | start : Run allowed start [] ⟨start, {}⟩
  | step {turns : List Turn} {told : Told} (run : Run allowed start turns told) (time : UInt64)
      (command : Command) (permitted : allowed told time command)
      (bound : (told.step time command).2.story.size < UInt64.size) :
      Run allowed start (turns ++ [⟨time, command, (told.step time command).1⟩])
        (told.step time command).2

end Told

namespace Channel

theorem resets_eq {before after : Channel} (same : after.chronicle = before.chronicle) :
    after.resets = before.resets := by
  rw [resets, resets, same]

/-- What is not a reset does not count as one. -/
theorem resets_append {before after : Channel} {told : List Effect}
    (chronicle : after.chronicle = before.chronicle ++ told)
    (none : .logged .ringReset ∉ told) : after.resets = before.resets := by
  rw [resets, resets, chronicle, List.count_append, List.count_eq_zero.mpr none, Nat.add_zero]

theorem Cleared.resets_lt {before after : Channel} (cleared : Cleared before after) :
    before.resets < after.resets := by
  obtain ⟨times, chronicle⟩ := cleared.chronicle
  rw [resets, resets, chronicle, List.count_append, List.count_replicate_self]
  omega

theorem Misses.of_cleared {before after : Channel} (cleared : Cleared before after) :
    Misses after 0 0 := by
  refine ⟨?_, nofun, nofun⟩
  rw [ControlPage.isDropping, cleared.flags]
  decide

structure Tells (channel : Channel) (story : Story) : Prop where
  holds : Holds channel story.records
  misses : Misses channel story.missed story.since

theorem Tells.of_kept {story : Story} {before after : Channel} (kept : Kept before after)
    (tells : Tells before story) : Tells after story :=
  ⟨tells.holds.of_steady kept.toSteady, tells.misses.of_kept kept⟩

theorem Tells.of_cleared {story : Story} {before after : Channel} (cleared : Cleared before after)
    (tells : Tells before story) : Tells after {} :=
  ⟨.of_cleared cleared tells.holds.power tells.holds.held, .of_cleared cleared⟩

/-- The story goes on and the cursors go forward, or a reset was made and it begins anew. -/
inductive Goes (before : Channel) (next : Story) (after : Channel) : Prop
  | on (resets : after.resets = before.resets) (tells : Tells after next)
      (head : before.page.head ≤ after.page.head) (tail : before.page.tail ≤ after.page.tail)
  | anew (resets : before.resets < after.resets) (tells : Tells after {})

theorem goes_of_kept {story : Story} {before after : Channel} (tells : Tells before story)
    (kept : Kept before after) : Goes before story after := by
  refine .on (resets_eq kept.chronicle) (tells.of_kept kept) ?_ kept.tail_le
  rw [kept.head]
  exact UInt64.le_refl _

theorem goes_of_settles {story : Story} {before after : Channel} (tells : Tells before story)
    (settles : Settles before after) : Goes before story after := by
  cases settles with
  | kept kept => exact goes_of_kept tells kept
  | cleared _ cleared => exact .anew cleared.resets_lt (tells.of_cleared cleared)

theorem Tells.rebound {story : Story} {channel : Channel} (tells : Tells channel story)
    (notifier : Option Notifier) : Tells (channel.rebound notifier) story :=
  ⟨{ tells.holds with }, { tells.misses with }⟩

theorem Goes.of_same {next : Story} {before after : Channel} (ready : Channel)
    (page : ready.page = before.page) (resets : ready.resets = before.resets)
    (goes : Goes ready next after) : Goes before next after := by
  cases goes with
  | on same tells head tail => exact .on (same.trans resets) tells (page ▸ head) (page ▸ tail)
  | anew more tells => exact .anew (resets ▸ more) tells

/-- The records of a push were written, and then the watermarks may have had their say. -/
theorem goes_of_written {story : Story} {before written after : Channel} {now : UInt64}
    {payload : Bytes} (tells : Tells before story)
    (short : payload.length ≤ before.maxPayload.toNat)
    (room : before.page.used.toNat + (Record.stream
      (Record.ofPush story.missed story.since now payload)).length ≤ before.capacity.toNat)
    (wrote : Wrote before (Record.ofPush story.missed story.since now payload) written)
    (closed : written.page.isDropping = false) (resets : written.resets = before.resets)
    (settles : Settles written after)
    (bound : after.resets = before.resets → (story.push now payload .written).size < UInt64.size) :
    Goes before (story.push now payload .written) after := by
  cases settles with
  | kept kept =>
      have same : after.resets = before.resets := (resets_eq kept.chronicle).trans resets
      have framed := Record.wellFormed_ofPush story.missed story.since now
        (Nat.lt_of_le_of_lt short before.toNat_maxPayload_lt)
      have holds := tells.holds.of_wrote wrote framed room (bound same)
      have misses : Misses written 0 0 := ⟨by simp [closed], nofun, nofun⟩
      refine .on same ⟨holds.of_steady kept.toSteady, misses.of_kept kept⟩ ?_ ?_
      · rw [kept.head, UInt64.le_iff_toNat_le, tells.holds.head, holds.head, Record.stream_append,
          List.length_append]
        exact Nat.le_add_right ..
      · exact wrote.tail ▸ kept.tail_le
  | cleared _ cleared =>
      refine .anew (resets ▸ cleared.resets_lt) ⟨.of_cleared cleared ?_ ?_, .of_cleared cleared⟩
      · rw [wrote.capacity]
        exact tells.holds.power
      · rw [wrote.capacity, wrote.size]
        exact tells.holds.held

theorem goes_of_pushed {story : Story} {before after : Channel} {now : UInt64} {payload : Bytes}
    {outcome : PushOutcome} (tells : Tells before story)
    (pushed : Pushed before story.missed story.since now payload outcome after)
    (bound : after.resets = before.resets → (story.push now payload outcome).size < UInt64.size) :
    Framed before after ∧ Goes before (story.push now payload outcome) after := by
  cases pushed with
  | tooLarge long =>
      have same := Still.refl before
      exact ⟨same.framed, goes_of_kept tells same.kept⟩
  | dropped short full =>
      have steady := before.steady_noteDrop now (16 + UInt64.ofNat payload.length)
      have resets : (before.noteDrop now (16 + UInt64.ofNat payload.length)).resets =
          before.resets :=
        resets_append (chronicle_noteDrop tells.misses now _) (by split <;> simp)
      refine ⟨steady.toFramed, .on resets ⟨tells.holds.of_steady steady, ?_⟩ ?_ steady.tail_le⟩
      · exact misses_noteDrop tells.misses now _
      · rw [steady.head]
        exact UInt64.le_refl _
  | written written short room wrote closed chronicle =>
      have settles := settles_evaluateWatermarks written now
      have resets := resets_append chronicle (by unfold farewell; split <;> simp [episodeEnd])
      exact ⟨wrote.toFramed.trans settles.framed,
        goes_of_written tells short room wrote closed resets settles bound⟩

theorem goes_of_acts {story : Story} {before after : Channel} {now : UInt64} {command : Command}
    {reply : Reply} (tells : Tells before story) (acts : Acts now before command reply after)
    (bound : after.resets = before.resets → (story.tell now command reply).size < UInt64.size) :
    Framed before after ∧ Goes before (story.tell now command reply) after := by
  cases acts with
  | push payload =>
      exact goes_of_pushed tells (pushed_push tells.holds.power tells.misses now payload) bound
  | reset =>
      have cleared := before.cleared_reset
      exact ⟨cleared.toFramed, .anew cleared.resets_lt (tells.of_cleared cleared)⟩
  | bind binding notifier previous same =>
      rename_i ready
      have rebound := (tells.of_kept same.kept).rebound notifier
      have settles := ready.settles_bindNotifier now notifier
      have goes := goes_of_settles rebound settles
      exact ⟨(same.framed.trans (ready.framed_rebound notifier)).trans settles.framed,
        Goes.of_same (ready.rebound notifier) (congrArg Region.page same.region)
          (resets_eq same.chronicle) goes⟩
  | quiet reply still settles =>
      have same : story.tell now command reply = story := by
        cases command with
        | push => cases still
        | _ => rfl
      rw [same]
      exact ⟨settles.framed, goes_of_settles tells settles⟩

end Channel

theorem Session.resets_eq {session : Session} {channel : Channel} {named : Bool}
    (store : session.store = .ring channel named) : session.resets = channel.resets := by
  rw [resets, trace, store, Channel.resets, Channel.chronicle, List.count_filter rfl]

namespace Told

/-- The session has a ring with its producer, and the story is true of it. -/
structure Sound (told : Told) (channel : Channel) : Prop where
  store : ∃ named, told.session.store = .ring channel named
  seat : told.session.seat = .producer
  tells : channel.Tells told.story

theorem Sound.channel?_eq {told : Told} {channel : Channel} (sound : Sound told channel) :
    told.session.channel? = some channel := by
  obtain ⟨named, store⟩ := sound.store
  rw [Session.channel?, store]

theorem sound_of_start {origin : Origin} {plan : RingPlan} {path : String} {now : UInt64}
    {view : CreationView} {session : Session}
    (made : Session.start origin plan path now = (.created view, some session)) :
    ∃ channel, Channel.Fresh plan channel ∧ Sound ⟨session, {}⟩ channel := by
  obtain ⟨channel, named, fresh, rfl⟩ := Session.fresh_of_start made
  exact ⟨channel, fresh, ⟨named, rfl⟩, rfl, fresh.holds, fresh.misses⟩

/-- One step: what the command makes of the channel, and that the story stays true. -/
theorem sound_step {told : Told} {channel : Channel} (sound : Sound told channel) (time : UInt64)
    {command : Command} (ordinary : command.Ordinary)
    (bound : (told.step time command).2.story.size < UInt64.size) :
    ∃ after, Sound (told.step time command).2 after ∧ (told.step time command).2.session.now = time ∧
      channel.Acts time command (told.step time command).1 after ∧ channel.Framed after ∧
      channel.Goes (told.story.tell time command (told.step time command).1) after ∧
      (told.step time command).2.story =
        if after.resets = channel.resets then
          told.story.tell time command (told.step time command).1
        else {} := by
  obtain ⟨named, store⟩ := sound.store
  have reseated : ({ told.session with now := time } : Session).store = .ring channel named := store
  obtain ⟨after, storeAfter, seatAfter, nowAfter, acts⟩ :=
    Session.acts_perform reseated sound.seat ordinary
  change channel.Acts time command (told.step time command).1 after at acts
  have story : (told.step time command).2.story =
      if after.resets = channel.resets then
        told.story.tell time command (told.step time command).1
      else {} := by
    change (if (told.session.step (some time) command).2.resets = told.session.resets then _ else _) = _
    have resets : (told.session.step (some time) command).2.resets = after.resets :=
      Session.resets_eq storeAfter
    rw [Session.resets_eq store, resets]
    rfl
  obtain ⟨framed, goes⟩ := Channel.goes_of_acts sound.tells acts (fun same => by
    rw [story, if_pos same] at bound
    exact bound)
  refine ⟨after, ⟨⟨named, storeAfter⟩, seatAfter, ?_⟩, nowAfter, acts, framed, goes, story⟩
  cases goes with
  | on same tells =>
      rw [story, if_pos same]
      exact tells
  | anew more tells =>
      rw [story, if_neg (Nat.ne_of_gt more)]
      exact tells

end Told

end RecordRing
