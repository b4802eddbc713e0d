import RecordRing.Proofs.Fifo
import RecordRing.Proofs.FillSteps

set_option autoImplicit false

namespace RecordRing

def Command.LeavesMarks (command : Command) : Prop :=
  command.Ordinary ∧ ∀ hi lo, command ≠ .setWatermarks hi lo

namespace Session

def fill (session : Session) : UInt32 :=
  match session.channel? with
  | some channel => channel.utilization
  | none => 0

def signals (session : Session) : List Notifier :=
  session.trace.toList.filterMap Effect.asked?

def made (session : Session) (binding : Binding) : Option Notifier :=
  match session.channel?, binding with
  | some channel, .counting reaction => some (.counting channel.counts.size reaction)
  | some channel, .target _ => some (.descriptor channel.bells.size)
  | _, _ => none

def rebound (session : Session) (bound : Option Notifier) : Command → Option Notifier
  | .bind binding => session.made binding
  | _ => bound

def sight (session : Session) (turn : Turn) : Sight :=
  match turn.command, turn.reply with
  | .push .., .outcomes [.written] | .advanceTail _, .done | .reset, _ => .seen
  | .read number, _ | .poll number, _ =>
      if turn.delivered = [] then .idle
      else if session.readers[number]?.any (!·.inProcess) then .overlooked
      else .seen
  | _, _ => .idle

/-- The highest fill in a turn that leaves the ring like this: that of a push is the one which it makes,
before a notifier could act. -/
def crest (session : Session) (turn : Turn) (after : Session) : UInt32 :=
  match session.channel?, turn.command, turn.reply with
  | some channel, .push payload _, .outcomes [.written] => channel.crest payload
  | _, _, _ => after.fill

end Session

structure Moment where
  turn : Turn
  sight : Sight
  /-- The highest fill in it. -/
  crest : UInt32
  level : UInt32
  cleared : Bool
  /-- The notifier that was bound when it began. -/
  bound : Option Notifier

namespace Moment

/-- The fills since the last reset, the newest first. -/
def marks : List Moment → List Mark
  | [] => []
  | moment :: older =>
      if moment.cleared then []
      else ⟨moment.turn.time, moment.level⟩ :: ⟨moment.turn.time, moment.crest⟩ :: marks older

/-- The notifiers that are to be asked, in the order of the operations: whoever is bound when the fill
comes to the high mark, if it has not been there since it was at the low one. -/
def owed (hi lo : UInt32) : List Moment → List Notifier
  | [] => []
  | moment :: older =>
      owed hi lo older ++
        if hi ≤ moment.crest ∧ Mark.risen hi lo (marks older) = false then moment.bound.toList else []

end Moment

/-- A session with the notes of its observer, the newest first. -/
structure Watched where
  session : Session
  bound : Option Notifier := none
  moments : List Moment := []

namespace Watched

def moment (watched : Watched) (time : UInt64) (command : Command) : Moment :=
  let done := watched.session.step (some time) command
  let turn : Turn := ⟨time, command, done.1⟩
  { turn
    sight := watched.session.sight turn
    crest := watched.session.crest turn done.2
    level := done.2.fill
    cleared := done.2.resets != watched.session.resets
    bound := watched.bound }

def step (watched : Watched) (time : UInt64) (command : Command) : Watched where
  session := (watched.session.step (some time) command).2
  bound := watched.session.rebound watched.bound command
  moments := watched.moment time command :: watched.moments

/-- The runs from one point to another, in which every command is an allowed one. -/
inductive Run (allowed : Watched → Command → Prop) (early : Watched) : Watched → Prop
  | start : Run allowed early early
  | step {late : Watched} (run : Run allowed early late) (time : UInt64) (command : Command)
      (permitted : allowed late command) : Run allowed early (late.step time command)

def Inside (watched : Watched) (command : Command) : Prop :=
  command.LeavesMarks ∧ ∀ number reader, command = .read number ∨ command = .poll number →
    watched.session.readers[number]? = some reader → reader.inProcess = true

end Watched

namespace Session

variable {session : Session} {channel : Channel} {named : Bool} {hi lo : UInt32}

theorem fill_eq (store : session.store = .ring channel named) : session.fill = channel.utilization := by
  rw [fill, channel?, store]

theorem signals_eq (store : session.store = .ring channel named) :
    session.signals = channel.signals := by
  rw [signals, trace, store]
  rfl

/-- What a command makes of the channel, as it shows in the notes. -/
structure Stirred (session : Session) (channel : Channel) (named : Bool) (hi lo : UInt32)
    (time : UInt64) (command : Command) (after : Channel) : Prop where
  store : (session.step (some time) command).2.store = .ring after named
  seat : (session.step (some time) command).2.seat = .producer
  gauged : after.Gauged hi lo
  bound : after.slot.bound = session.rebound channel.slot.bound command
  stirs : channel.Stirs hi lo time
    (session.sight ⟨time, command, (session.step (some time) command).1⟩)
    (session.crest ⟨time, command, (session.step (some time) command).1⟩
      (session.step (some time) command).2) after

theorem stirred_push (store : session.store = .ring channel named) (seat : session.seat = .producer)
    (gauged : channel.Gauged hi lo) (apart : lo < hi) (time : UInt64) (payload : Bytes) :
    session.Stirred channel named hi lo time (.push payload 1) (channel.push time payload).2 := by
  obtain ⟨stirs, slot, kept⟩ := @Channel.stirs_push hi lo time channel gauged apart payload
  have answer := step_push store seat time payload
  have after : (session.step (some time) (.push payload 1)).2.fill =
      (channel.push time payload).2.utilization := fill_eq (by rw [answer])
  refine ⟨by rw [answer], by rw [answer]; exact seat, kept, congrArg NotifierSlot.bound slot, ?_⟩
  unfold sight crest channel?
  rw [after, answer, store]
  cases outcome : (channel.push time payload).1 with
  | written =>
      rw [outcome] at stirs
      exact stirs
  | dropped =>
      rw [outcome] at stirs
      exact stirs
  | tooLarge =>
      rw [outcome] at stirs
      exact stirs

theorem crest_of_not_push {turn : Turn} (other : ∀ payload times, turn.command ≠ .push payload times)
    (after : Session) : session.crest turn after = after.fill := by
  unfold crest
  split
  · rename_i payload times _ push _
    exact absurd push (other payload times)
  · rfl

/-- A command other than a push: its crest is the fill that it leaves. -/
theorem stirred_of_answer (seat : session.seat = .producer) {time : UInt64} {command : Command}
    (other : ∀ payload times, command ≠ .push payload times) {reply : Reply} {after : Channel}
    {readers : Array Reader}
    (answer : session.step (some time) command =
      (reply, { session with now := time, store := .ring after named, readers }))
    (gauged : after.Gauged hi lo) (bound : after.slot.bound = session.rebound channel.slot.bound command)
    (stirs : channel.Stirs hi lo time (session.sight ⟨time, command, reply⟩) after.utilization after) :
    session.Stirred channel named hi lo time command after := by
  have store : (session.step (some time) command).2.store = .ring after named := by rw [answer]
  refine ⟨store, by rw [answer]; exact seat, gauged, bound, ?_⟩
  rw [crest_of_not_push other, fill_eq store, answer]
  exact stirs

/-- Before a notifier takes its place, there is room for what it counts or rings. -/
theorem step_bind (store : session.store = .ring channel named) (time : UInt64) (binding : Binding) :
    ∃ counts bells, session.step (some time) (.bind binding) =
      (.bound (({ channel with counts, bells } : Channel).bindNotifier time
          (session.made binding)).1.isSome,
        { session with
          now := time
          store := .ring (({ channel with counts, bells } : Channel).bindNotifier time
            (session.made binding)).2 named }) := by
  obtain ⟨path, now, _, readers, seat⟩ := session
  cases store
  cases binding with
  | nothing => exact ⟨channel.counts, channel.bells, rfl⟩
  | counting reaction => exact ⟨channel.counts.push 0, channel.bells, rfl⟩
  | target target => exact ⟨channel.counts, channel.bells.push target, rfl⟩

theorem stirred_reset (store : session.store = .ring channel named) (seat : session.seat = .producer)
    (gauged : channel.Gauged hi lo) (apart : lo < hi) (time : UInt64) :
    session.Stirred channel named hi lo time .reset channel.reset := by
  obtain ⟨stirs, kept⟩ := @Channel.stirs_reset hi lo time channel gauged apart
  exact stirred_of_answer seat (by nofun) (step_reset store time) kept rfl stirs

theorem stirred_bind (store : session.store = .ring channel named) (seat : session.seat = .producer)
    (gauged : channel.Gauged hi lo) (time : UInt64) (binding : Binding) :
    ∃ after, session.Stirred channel named hi lo time (.bind binding) after := by
  obtain ⟨counts, bells, answer⟩ := step_bind store time binding
  have rests : channel.Rests { channel with counts, bells } := { Channel.Rests.refl channel with }
  obtain ⟨stirs, bound, kept⟩ :=
    @Channel.stirs_bindNotifier hi lo time channel _ rests gauged (session.made binding)
  exact ⟨_, stirred_of_answer seat (fun _ _ same => by cases same) answer kept bound stirs⟩

/-- Reading changes the ring as the records say that it brings. -/
theorem stirred_of_reads (seat : session.seat = .producer) (gauged : channel.Gauged hi lo)
    (apart : lo < hi) {time : UInt64} {number : Nat} {reader : Reader}
    (found : session.readers[number]? = some reader) {command : Command}
    (reading : command = .read number ∨ command = .poll number) {reply : Reply} {after : Channel}
    {readers : Array Reader}
    (answer : session.step (some time) command =
      (reply, { session with now := time, store := .ring after named, readers }))
    (reads : channel.Reads hi lo time reader.inProcess
      (Turn.delivered ⟨time, command, reply⟩) after) :
    session.Stirred channel named hi lo time command after := by
  obtain ⟨stirs, hushed, kept⟩ := reads.stirs gauged apart
  have sight : session.sight ⟨time, command, reply⟩ =
      if Turn.delivered ⟨time, command, reply⟩ = [] then .idle
      else if reader.inProcess then .seen else .overlooked := by
    rcases reading with rfl | rfl <;> simp only [sight, found, Option.any_some] <;>
      cases reader.inProcess <;> rfl
  have bound : after.slot.bound = session.rebound channel.slot.bound command := by
    rw [hushed.slot]
    rcases reading with rfl | rfl <;> rfl
  refine stirred_of_answer seat ?_ answer kept bound (sight ▸ stirs)
  rcases reading with rfl | rfl <;> nofun

/-- Asking a reader that is not there changes nothing. -/
theorem stirred_of_missing (store : session.store = .ring channel named)
    (seat : session.seat = .producer) (gauged : channel.Gauged hi lo) (time : UInt64) {number : Nat}
    (missing : session.readers[number]? = none) {command : Command}
    (reading : command = .read number ∨ command = .poll number) :
    session.Stirred channel named hi lo time command channel := by
  have answer := step_of_missing store missing time reading
  have rests := @Channel.Rests.stirs hi lo time channel channel (.refl channel)
  rcases reading with rfl | rfl <;> exact stirred_of_answer seat (by nofun) answer gauged rfl rests

theorem stirred_read (store : session.store = .ring channel named) (seat : session.seat = .producer)
    (gauged : channel.Gauged hi lo) (apart : lo < hi) (time : UInt64) (number : Nat) :
    ∃ after, session.Stirred channel named hi lo time (.read number) after := by
  cases found : session.readers[number]? with
  | none => exact ⟨channel, stirred_of_missing store seat gauged time found (Or.inl rfl)⟩
  | some reader =>
      have answer := step_read store found time
      obtain ⟨-, reads⟩ := Channel.reads_read gauged time reader
      refine ⟨_, stirred_of_reads seat gauged apart found (Or.inl rfl) answer ?_⟩
      cases outcome : (channel.read time reader).1 <;> rw [outcome] at reads <;> exact reads

theorem stirred_poll (store : session.store = .ring channel named) (seat : session.seat = .producer)
    (gauged : channel.Gauged hi lo) (apart : lo < hi) (time : UInt64) (number : Nat) :
    ∃ after, session.Stirred channel named hi lo time (.poll number) after := by
  cases found : session.readers[number]? with
  | none => exact ⟨channel, stirred_of_missing store seat gauged time found (Or.inr rfl)⟩
  | some reader =>
      have answer := step_poll store found time
      obtain ⟨-, reads⟩ := Channel.reads_pollFor gauged apart time reader
        (Reader.pollFuel channel.page)
      exact ⟨_, stirred_of_reads seat gauged apart found (Or.inr rfl) answer reads⟩

theorem stirred_advanceTail (store : session.store = .ring channel named)
    (seat : session.seat = .producer) (gauged : channel.Gauged hi lo) (apart : lo < hi)
    (time position : UInt64) :
    ∃ after, session.Stirred channel named hi lo time (.advanceTail position) after := by
  have answer := step_advanceTail store time position
  obtain ⟨stirs, hushed, kept⟩ := @Channel.stirs_advanceTail hi lo time channel gauged apart position
  refine ⟨_, stirred_of_answer seat (by nofun) answer kept (congrArg NotifierSlot.bound hushed.slot) ?_⟩
  cases moved : (channel.advanceTail time position).1 <;> rw [moved] at stirs <;> exact stirs

theorem stirred_setRate (store : session.store = .ring channel named) (seat : session.seat = .producer)
    (gauged : channel.Gauged hi lo) (time : UInt64) (rate : UInt32) :
    ∃ after, session.Stirred channel named hi lo time (.setRate rate) after := by
  have answer := step_setRate store time rate
  have rests := channel.rests_setRate rate
  exact ⟨_, stirred_of_answer seat (by nofun) answer (rests.gauged gauged)
    (congrArg NotifierSlot.bound rests.slot) rests.stirs⟩

theorem stirred_openReader (store : session.store = .ring channel named)
    (seat : session.seat = .producer) (gauged : channel.Gauged hi lo) (time : UInt64)
    (view : Option UInt64) (missing : Bool) :
    ∃ after, session.Stirred channel named hi lo time (.openReader view missing) after := by
  obtain ⟨reply, after, readers, answer, -, made⟩ := step_openReader_cases store time view missing
  have rests : channel.Rests after := by
    rcases made with ⟨rfl, -⟩ | ⟨capacity, -, rfl, -⟩
    · exact .refl after
    · exact channel.rests_push nofun rfl
  exact ⟨after, stirred_of_answer seat (by nofun) answer (rests.gauged gauged)
    (congrArg NotifierSlot.bound rests.slot) rests.stirs⟩

/-- One step: every command that leaves the marks changes the ring as the notes say. -/
theorem stirred_of_leavesMarks (store : session.store = .ring channel named)
    (seat : session.seat = .producer) (gauged : channel.Gauged hi lo) (apart : lo < hi)
    (time : UInt64) {command : Command} (leaves : command.LeavesMarks) :
    ∃ after, session.Stirred channel named hi lo time command after := by
  obtain ⟨ordinary, marks⟩ := leaves
  cases ordinary with
  | push payload => exact ⟨_, stirred_push store seat gauged apart time payload⟩
  | reset => exact ⟨_, stirred_reset store seat gauged apart time⟩
  | bind binding => exact stirred_bind store seat gauged time binding
  | quiet still =>
      cases command with
      | read number => exact stirred_read store seat gauged apart time number
      | poll number => exact stirred_poll store seat gauged apart time number
      | openReader view missing => exact stirred_openReader store seat gauged time view missing
      | advanceTail position => exact stirred_advanceTail store seat gauged apart time position
      | setWatermarks hi lo => exact absurd rfl (marks hi lo)
      | setRate rate => exact stirred_setRate store seat gauged time rate
      | _ => cases still

end Session

namespace Channel

/-- No edge was found yet, no notifier was bound, and none was asked. -/
structure Untouched (channel : Channel) : Prop where
  latched : channel.latched = false
  slot : channel.slot = {}
  signals : channel.signals = []

end Channel

theorem Session.untouched_of_start {origin : Origin} {plan : RingPlan} {path : String} {now : UInt64}
    {view : CreationView} {session : Session}
    (made : start origin plan path now = (.created view, some session)) {channel : Channel}
    {named : Bool} (store : session.store = .ring channel named) : channel.Untouched := by
  obtain ⟨event, _, -, rfl, -⟩ := begun_of_start made
  rw [← (Store.ring.inj store).1]
  exact ⟨rfl, rfl, rfl⟩

/-- What is written down of a moment is what became of the channel in it. -/
structure Moment.Notes (moment : Moment) (hi lo : UInt32) (before after : Channel) : Prop where
  stirs : before.Stirs hi lo moment.turn.time moment.sight moment.crest after
  level : moment.level = after.utilization
  cleared : moment.cleared = (after.resets != before.resets)
  bound : moment.bound = before.slot.bound

namespace Watched

/-- The session has a ring with these marks and its producer, and the observer knows the notifier. -/
structure Minds (watched : Watched) (hi lo : UInt32) (channel : Channel) : Prop where
  store : ∃ named, watched.session.store = .ring channel named
  seat : watched.session.seat = .producer
  gauged : channel.Gauged hi lo
  bound : channel.slot.bound = watched.bound

variable {watched : Watched} {hi lo : UInt32} {channel : Channel}

theorem minds_step (minds : watched.Minds hi lo channel) (apart : lo < hi) (time : UInt64)
    {command : Command} (leaves : command.LeavesMarks) :
    ∃ after, (watched.step time command).Minds hi lo after ∧
      (watched.moment time command).Notes hi lo channel after := by
  obtain ⟨named, store⟩ := minds.store
  obtain ⟨after, stirred⟩ :=
    Session.stirred_of_leavesMarks store minds.seat minds.gauged apart time leaves
  have bound : after.slot.bound = (watched.step time command).bound := by
    rw [stirred.bound, minds.bound]
    rfl
  have cleared : (watched.moment time command).cleared = (after.resets != channel.resets) := by
    rw [← Session.resets_eq stirred.store, ← Session.resets_eq store]
    rfl
  exact ⟨after, ⟨⟨named, stirred.store⟩, stirred.seat, stirred.gauged, bound⟩, stirred.stirs,
    Session.fill_eq stirred.store, cleared, minds.bound.symm⟩

/-- Whoever reads in the process of the producer looks at the latch. -/
theorem Inside.sight_ne {command : Command} (inside : watched.Inside command) (time : UInt64) :
    (watched.moment time command).sight ≠ .overlooked := by
  obtain ⟨-, within⟩ := inside
  have looks (number : Nat) (reads : command = .read number ∨ command = .poll number) :
      watched.session.readers[number]?.any (!·.inProcess) = false := by
    cases found : watched.session.readers[number]? with
    | none => rfl
    | some reader => simp [within number reader reads found]
  unfold moment Session.sight
  dsimp only
  split
  · nofun
  · nofun
  · nofun
  · rename_i number
    rw [looks number (Or.inl rfl)]
    split <;> nofun
  · rename_i number
    rw [looks number (Or.inr rfl)]
    split <;> nofun
  · nofun

/-- The notes tell the fill, the latch with its stamps, and who was asked. -/
structure Accounts (watched : Watched) (hi lo : UInt32) (channel : Channel) : Prop where
  level : channel.utilization = Mark.level (Moment.marks watched.moments)
  gauge : channel.gauge = Mark.gauge hi lo (Moment.marks watched.moments)
  signals : channel.signals = Moment.owed hi lo watched.moments

/-- Whether a notifier is due can be told from the notes. -/
theorem Accounts.due_eq (accounts : watched.Accounts hi lo channel) (apart : lo < hi)
    (high : channel.page.hi = hi) (percent : UInt32) :
    channel.due percent =
      if hi ≤ percent ∧ Mark.risen hi lo (Moment.marks watched.moments) = false then
        channel.slot.bound.toList
      else [] := by
  have risen : channel.latched = Mark.risen hi lo (Moment.marks watched.moments) := by
    have latched := congrArg Gauge.latched accounts.gauge
    rw [Mark.gauge_eq apart] at latched
    exact latched
  rw [Channel.due, high, risen]
  simp only [and_comm]

theorem accounts_step (minds : watched.Minds hi lo channel) (apart : lo < hi)
    (accounts : watched.Accounts hi lo channel) {time : UInt64} {command : Command} {after : Channel}
    (notes : (watched.moment time command).Notes hi lo channel after)
    (attentive : (watched.moment time command).sight ≠ .overlooked) :
    (watched.step time command).Accounts hi lo after := by
  obtain ⟨stirs, level, cleared, bound⟩ := notes
  have moments : (watched.step time command).moments =
      watched.moment time command :: watched.moments := rfl
  have stamp : (watched.moment time command).turn.time = time := rfl
  have due := accounts.due_eq apart minds.gauged.high (watched.moment time command).crest
  generalize watched.moment time command = moment at *
  rw [← bound] at due
  have owed : after.signals = channel.signals ++ channel.due moment.crest →
      after.signals = Moment.owed hi lo (watched.step time command).moments := by
    intro signals
    rw [signals, accounts.signals, due, moments, Moment.owed]
  have going : after.resets = channel.resets → Moment.marks (watched.step time command).moments =
      ⟨time, moment.level⟩ :: ⟨time, moment.crest⟩ :: Moment.marks watched.moments := by
    intro same
    rw [moments, Moment.marks, cleared, same, bne_self_eq_false, stamp]
    rfl
  rw [stamp] at stirs
  -- By the look that was taken: in each case the notes keep pace with the gauge.
  generalize moment.sight = sight at stirs attentive
  generalize moment.crest = crest at stirs owed going
  cases stirs with
  | idle same gauge signals resets =>
      have fits : channel.gauge.Fits hi lo after.utilization := by
        rw [same, accounts.level, accounts.gauge]
        exact Mark.fits_gauge apart _
      have silent := minds.gauged.due_eq_nil (fun clear => same ▸ minds.gauged.below clear)
      refine ⟨?_, ?_, owed ?_⟩
      · rw [going resets, level]
        rfl
      · rw [going resets, level, Mark.gauge, Mark.gauge, ← accounts.gauge, Gauge.note_of_fits fits,
          Gauge.note_of_fits fits, gauge]
      · rw [signals, silent, List.append_nil]
  | overlooked => exact absurd rfl attentive
  | seen falls gauge signals resets =>
      refine ⟨?_, ?_, owed signals⟩
      · rw [going resets, level]
        rfl
      · rw [going resets, Mark.gauge, Mark.gauge, gauge, accounts.gauge, level]
  | cleared gauge signals more empty =>
      have anew : Moment.marks (watched.step time command).moments = [] := by
        rw [moments, Moment.marks, cleared, if_pos (bne_iff_ne.mpr (Nat.ne_of_gt more))]
      refine ⟨?_, ?_, owed signals⟩
      · rw [anew, empty]
        rfl
      · rw [anew, gauge]
        rfl

variable {origin : Origin} {plan : RingPlan} {path : String} {now : UInt64} {view : CreationView}
  {session : Session}

/-- A ring that was just made is empty, and nobody has been asked. -/
theorem minds_of_start (started : Session.start origin plan path now = (.created view, some session))
    (apart : plan.lo < plan.hi) :
    ∃ channel, Minds ⟨session, none, []⟩ plan.hi plan.lo channel ∧
      Accounts ⟨session, none, []⟩ plan.hi plan.lo channel := by
  obtain ⟨channel, named, fresh, rfl⟩ := Session.fresh_of_start started
  have untouched := Session.untouched_of_start started rfl
  have empty : channel.page.used = 0 := by
    rw [fresh.page]
    exact UInt64.sub_self 0
  have level : channel.utilization = 0 := by rw [Channel.utilization, empty, utilization_zero]
  have gauge : channel.gauge = {} := by rw [Channel.gauge, untouched.latched, fresh.tallies]
  have high : channel.page.hi = plan.hi := by rw [fresh.page]; rfl
  have low : channel.page.lo = plan.lo := by rw [fresh.page]; rfl
  refine ⟨channel, ⟨⟨named, rfl⟩, rfl, ⟨⟨high, low, ?_, ?_⟩, fun _ => ?_⟩, fresh.bound⟩,
    level, gauge, untouched.signals⟩
  · rw [empty]
    exact UInt64.zero_le
  · rw [untouched.slot]
  · rw [level]
    exact UInt32.lt_of_le_of_lt UInt32.zero_le apart

theorem accounts_of_run (started : Session.start origin plan path now = (.created view, some session))
    (apart : plan.lo < plan.hi) {watched : Watched} (run : Run Inside ⟨session, none, []⟩ watched) :
    ∃ channel, watched.Minds plan.hi plan.lo channel ∧ watched.Accounts plan.hi plan.lo channel := by
  induction run with
  | start => exact minds_of_start started apart
  | step run time command permitted ih =>
      obtain ⟨channel, minds, accounts⟩ := ih
      obtain ⟨after, next, notes⟩ := minds_step minds apart time permitted.1
      exact ⟨after, next, accounts_step minds apart accounts notes (permitted.sight_ne time)⟩

/-- Between any two operations the latch is that of the fill, and the notes tell when it was set and
cleared, and which notifiers were asked: each that was bound when the fill came to the high mark, once. -/
theorem notified_of_run (started : Session.start origin plan path now = (.created view, some session))
    (apart : plan.lo < plan.hi) {watched : Watched} (run : Run Inside ⟨session, none, []⟩ watched) :
    ∃ channel, watched.session.channel? = some channel ∧
      (channel.latched = true → plan.lo < channel.utilization) ∧
      (channel.latched = false → channel.utilization < plan.hi) ∧
      watched.session.signals = Moment.owed plan.hi plan.lo watched.moments ∧
      channel.slot = ⟨watched.bound, 0⟩ ∧
      channel.tallies.highCrossed =
        Mark.lastRise plan.hi plan.lo (Moment.marks watched.moments) ∧
      channel.tallies.lowCrossed =
        Mark.lastFall plan.hi plan.lo (Moment.marks watched.moments) := by
  obtain ⟨channel, minds, accounts⟩ := accounts_of_run started apart run
  obtain ⟨named, store⟩ := minds.store
  have gauge := accounts.gauge
  have fits := Mark.fits_gauge apart (Moment.marks watched.moments)
  rw [← gauge, ← accounts.level] at fits
  rw [Mark.gauge_eq apart] at gauge
  have slot : channel.slot = ⟨watched.bound, 0⟩ := by
    rw [← minds.bound, ← minds.gauged.pending]
  refine ⟨channel, by rw [Session.channel?, store], fits.above, fits.below, ?_, slot,
    congrArg Gauge.highCrossed gauge, congrArg Gauge.lowCrossed gauge⟩
  rw [Session.signals_eq store]
  exact accounts.signals

theorem inside_of_all {watched : Watched} {command : Command} (leaves : command.LeavesMarks)
    (all : watched.session.readers.all Reader.inProcess = true) : watched.Inside command := by
  refine ⟨leaves, fun number reader _ found => ?_⟩
  exact Array.all_eq_true'.mp all reader (Array.mem_of_getElem? found)

/-- The ring is filled, read until nothing is left, and filled again. -/
theorem notified_at_two_rises :
    let first := ((⟨Session.small, none, []⟩ : Watched).step 1 (.bind (.counting .nothing))
      |>.step 2 (.push (List.replicate 12 7) 1) |>.step 3 (.push (List.replicate 12 8) 1))
    let second := first.step 4 (.poll 0) |>.step 5 (.push (List.replicate 12 9) 1)
      |>.step 6 (.push [] 1)
    second.session.signals = [.counting 0 .nothing, .counting 0 .nothing] ∧
      ∃ channel, second.session.channel? = some channel ∧ 30 < channel.utilization ∧
        channel.tallies.highCrossed = 6 ∧ channel.tallies.lowCrossed = 4 := by
  intro first second
  obtain ⟨view, started⟩ := Session.start_small
  have pushes (payload : Bytes) : (Command.push payload 1).LeavesMarks := ⟨.push payload, nofun⟩
  have run : Run Inside ⟨Session.small, none, []⟩ second :=
    .step (.step (.step (.step (.step (.step .start
      1 _ (inside_of_all ⟨.bind _, nofun⟩ (by decide +kernel)))
      2 _ (inside_of_all (pushes _) (by decide +kernel)))
      3 _ (inside_of_all (pushes _) (by decide +kernel)))
      4 (.poll 0) (inside_of_all ⟨.quiet rfl, nofun⟩ (by decide +kernel)))
      5 _ (inside_of_all (pushes _) (by decide +kernel)))
      6 _ (inside_of_all (pushes _) (by decide +kernel))
  obtain ⟨channel, there, above, -, signals, -, high, low⟩ :=
    notified_of_run started (by decide) run
  have owed : Moment.owed 50 30 second.moments = [.counting 0 .nothing, .counting 0 .nothing] := by
    decide +kernel
  have rise : Mark.lastRise 50 30 (Moment.marks second.moments) = 6 := by decide +kernel
  have fall : Mark.lastFall 50 30 (Moment.marks second.moments) = 4 := by decide +kernel
  have latched : second.session.channel?.map Channel.latched = some true := by decide +kernel
  rw [there] at latched
  exact ⟨signals.trans owed, channel, there, above (Option.some.inj latched), high.trans rise,
    low.trans fall⟩

end Watched

end RecordRing
