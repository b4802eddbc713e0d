import RecordRing.Proofs.FileViews
import RecordRing.Proofs.RecordQueue

set_option autoImplicit false

namespace RecordRing

/-- A queue of records for the bytes that a ring has. -/
structure RecordQueue where
  waiting : List Record := []
  /-- Bytes that the records took which were in front of them since the last reset. -/
  passed : Nat := 0
  missed : Nat := 0
  since : UInt64 := 0
  readers : Nat := 1
  /-- All records that ever came to wait, resets or not. -/
  published : List Record := []

namespace RecordQueue

/-- The answers of a queue for `capacity` bytes, and what it is afterwards. -/
inductive Step (capacity now : UInt64) (queue : RecordQueue) : Command → Reply → RecordQueue → Prop
  /-- One packet comes to wait, behind a summary if pushes were dropped before it. -/
  | written (payload : Bytes) (short : payload.length ≤ (maxPayload capacity).toNat)
      (room : (Record.stream queue.waiting).length +
        (Record.stream (Record.ofPush queue.missed queue.since now payload)).length ≤
          capacity.toNat) :
      Step capacity now queue (.push payload 1) (.outcomes [.written])
        { queue with
          waiting := queue.waiting ++ Record.ofPush queue.missed queue.since now payload
          published := queue.published ++ Record.ofPush queue.missed queue.since now payload
          missed := 0
          since := 0 }
  | dropped (payload : Bytes) (short : payload.length ≤ (maxPayload capacity).toNat)
      (full : capacity.toNat < (Record.stream queue.waiting).length +
        (Record.stream (Record.ofPush queue.missed queue.since now payload)).length) :
      Step capacity now queue (.push payload 1) (.outcomes [.dropped])
        { queue with
          missed := queue.missed + 1
          since := if queue.missed = 0 then now else queue.since }
  | tooLarge (payload : Bytes) (long : (maxPayload capacity).toNat < payload.length) :
      Step capacity now queue (.push payload 1) (.outcomes [.tooLarge]) queue
  | empty (number : Nat) (there : number < queue.readers) (none : queue.waiting = []) :
      Step capacity now queue (.read number) (.read .nothing) queue
  | read (number : Nat) (there : number < queue.readers) (record : Record) (rest : List Record)
      (front : queue.waiting = record :: rest) :
      Step capacity now queue (.read number) (.read (.record record))
        { queue with waiting := rest, passed := queue.passed + record.encode.length }
  | poll (number : Nat) (there : number < queue.readers) :
      Step capacity now queue (.poll number) (.polled .drained queue.waiting)
        { queue with
          waiting := []
          passed := queue.passed + (Record.stream queue.waiting).length }
  | opened :
      Step capacity now queue (.openReader none false) (.opened queue.readers)
        { queue with readers := queue.readers + 1 }
  /-- The records in front of the new tail are gone. -/
  | advanced (position : UInt64) (front rest : List Record) (split : queue.waiting = front ++ rest)
      (boundary : position.toNat = queue.passed + (Record.stream front).length) :
      Step capacity now queue (.advanceTail position) .done
        { queue with waiting := rest, passed := position.toNat }
  | refused (position : UInt64) (behind : position.toNat < queue.passed) :
      Step capacity now queue (.advanceTail position)
        (.refused (.outOfRange position (UInt64.ofNat queue.passed)
          (UInt64.ofNat (queue.passed + (Record.stream queue.waiting).length)))) queue
  | reset :
      Step capacity now queue .reset .done
        { queue with waiting := [], passed := 0, missed := 0, since := 0 }

inductive Run (capacity : UInt64) : List Turn → RecordQueue → Prop
  | start : Run capacity [] {}
  | step {turns : List Turn} {queue after : RecordQueue} (run : Run capacity turns queue)
      (turn : Turn) (step : queue.Step capacity turn.time turn.command turn.reply after) :
      Run capacity (turns ++ [turn]) after

end RecordQueue

def Turn.delivered (turn : Turn) : List Record :=
  match turn.reply with
  | .read (.record record) => [record]
  | .polled _ records => records
  | _ => []

/-- What was delivered, and then what waits, is a part of what was published, in its order. -/
theorem RecordQueue.delivered_sublist {capacity : UInt64} {turns : List Turn} {queue : RecordQueue}
    (run : Run capacity turns queue) :
    (turns.flatMap Turn.delivered ++ queue.waiting).Sublist queue.published := by
  induction run with
  | start => exact List.Sublist.refl []
  | step run turn step ih =>
      obtain ⟨time, command, reply⟩ := turn
      rw [List.flatMap_append, List.flatMap_singleton]
      dsimp only at step
      cases step with
      | written payload short room =>
          simp only [Turn.delivered, List.append_nil, ← List.append_assoc]
          exact ih.append (List.Sublist.refl _)
      | dropped payload short full => simpa [Turn.delivered] using ih
      | tooLarge payload long => simpa [Turn.delivered] using ih
      | empty number there none => simpa [Turn.delivered] using ih
      | read number there record rest front =>
          rw [front] at ih
          simpa [Turn.delivered] using ih
      | poll number there => simpa [Turn.delivered] using ih
      | opened => simpa [Turn.delivered] using ih
      | advanced position front rest split boundary =>
          rw [split] at ih
          simp only [Turn.delivered, List.append_nil]
          exact ((List.sublist_append_right front rest).append_left _).trans ih
      | refused position behind => simpa [Turn.delivered] using ih
      | reset =>
          simp only [Turn.delivered, List.append_nil]
          exact (List.sublist_append_left _ _).trans ih

namespace Session

variable {session : Session} {channel : Channel} {named : Bool} {number : Nat} {reader : Reader}

theorem step_push (store : session.store = .ring channel named) (seat : session.seat = .producer)
    (time : UInt64) (payload : Bytes) :
    session.step (some time) (.push payload 1) =
      (.outcomes [(channel.push time payload).1],
        { session with now := time, store := .ring (channel.push time payload).2 named }) := by
  obtain ⟨path, now, _, readers, _⟩ := session
  cases store
  cases seat
  rfl

theorem step_read (store : session.store = .ring channel named)
    (found : session.readers[number]? = some reader) (time : UInt64) :
    session.step (some time) (.read number) =
      (.read (channel.read time reader).1,
        { session with
          now := time
          store := .ring (channel.read time reader).2.2 named
          readers := session.readers.setIfInBounds number (channel.read time reader).2.1 }) := by
  obtain ⟨path, now, _, readers, seat⟩ := session
  cases store
  dsimp only at found
  simp only [step, perform, readOnce, found]
  rfl

theorem step_poll (store : session.store = .ring channel named)
    (found : session.readers[number]? = some reader) (time : UInt64) :
    session.step (some time) (.poll number) =
      (.polled (channel.poll time reader).1 (channel.poll time reader).2.1,
        { session with
          now := time
          store := .ring (channel.poll time reader).2.2.2 named
          readers := session.readers.setIfInBounds number (channel.poll time reader).2.2.1 }) := by
  obtain ⟨path, now, _, readers, seat⟩ := session
  cases store
  dsimp only at found
  simp only [step, perform, readAll, found]
  rfl

/-- Asking a reader that is not there changes nothing. -/
theorem step_of_missing (store : session.store = .ring channel named)
    (missing : session.readers[number]? = none) (time : UInt64) {command : Command}
    (reading : command = .read number ∨ command = .poll number) :
    session.step (some time) command = (.noSuchHandle,
      { session with now := time, store := .ring channel named, readers := session.readers }) := by
  obtain ⟨path, now, _, readers, seat⟩ := session
  cases store
  dsimp only at missing
  rcases reading with rfl | rfl <;> simp only [step, perform, readOnce, readAll, missing] <;> rfl

theorem step_advanceTail (store : session.store = .ring channel named) (time position : UInt64) :
    session.step (some time) (.advanceTail position) =
      (replyTo (channel.advanceTail time position).1,
        { session with
          now := time
          store := .ring (channel.advanceTail time position).2 named }) := by
  obtain ⟨path, now, _, readers, seat⟩ := session
  cases store
  rfl

theorem step_setWatermarks (store : session.store = .ring channel named) (time : UInt64)
    (hi lo : UInt32) :
    session.step (some time) (.setWatermarks hi lo) =
      (replyTo (channel.setWatermarks hi lo).1,
        { session with now := time, store := .ring (channel.setWatermarks hi lo).2 named }) := by
  obtain ⟨path, now, _, readers, seat⟩ := session
  cases store
  rfl

theorem step_setRate (store : session.store = .ring channel named) (time : UInt64) (rate : UInt32) :
    session.step (some time) (.setRate rate) =
      (replyTo (channel.setRate rate).1,
        { session with now := time, store := .ring (channel.setRate rate).2 named }) := by
  obtain ⟨path, now, _, readers, seat⟩ := session
  cases store
  rfl

theorem step_reset (store : session.store = .ring channel named) (time : UInt64) :
    session.step (some time) .reset =
      (.done, { session with now := time, store := .ring channel.reset named }) := by
  obtain ⟨path, now, _, readers, seat⟩ := session
  cases store
  rfl

theorem step_openReader (store : session.store = .ring channel true) {view : Option UInt64}
    {capacity : UInt64} (attached : (RingFile.whole channel.region).attach view = .ok capacity)
    (time : UInt64) :
    session.step (some time) (.openReader view false) =
      (.opened session.readers.size,
        { session with
          now := time
          store := .ring (channel.log (.attached session.path capacity)) true
          readers := session.readers.push { capacity, inProcess := false } }) := by
  obtain ⟨path, now, _, readers, seat⟩ := session
  cases store
  simp only [step, perform, openReader, file?, attached]
  rfl

/-- An attachment that is refused leaves the session as it is. -/
theorem step_openReader_refused (store : session.store = .ring channel true) {view : Option UInt64}
    {error : RingError} (refused : (RingFile.whole channel.region).attach view = .error error)
    (time : UInt64) :
    session.step (some time) (.openReader view false) =
      (.refused error, { session with now := time }) := by
  obtain ⟨path, now, _, readers, seat⟩ := session
  cases store
  simp only [step, perform, openReader, file?, refused]
  rfl

/-- Attaching hands nothing out; it adds a reader and a line in the log, or nothing. -/
theorem step_openReader_cases (store : session.store = .ring channel named) (time : UInt64)
    (view : Option UInt64) (missing : Bool) :
    ∃ reply after readers, session.step (some time) (.openReader view missing) =
        (reply, { session with now := time, store := .ring after named, readers }) ∧
      Turn.delivered ⟨time, .openReader view missing, reply⟩ = [] ∧
      ((after = channel ∧ readers = session.readers) ∨
        ∃ capacity, (RingFile.whole channel.region).attach view = .ok capacity ∧
          after = channel.log (.attached session.path capacity) ∧
          readers = session.readers.push { capacity, inProcess := false }) := by
  obtain ⟨path, now, _, readers, seat⟩ := session
  cases store
  have same : (channel = channel ∧ readers = readers) ∨
      ∃ capacity, (RingFile.whole channel.region).attach view = .ok capacity ∧
        channel = channel.log (.attached path capacity) ∧
        readers = readers.push { capacity, inProcess := false } := Or.inl ⟨rfl, rfl⟩
  simp only [step, perform, openReader]
  split
  · exact ⟨_, channel, readers, rfl, rfl, same⟩
  · cases named with
    | false => exact ⟨_, channel, readers, rfl, rfl, same⟩
    | true =>
        simp only [file?]
        cases attached : (RingFile.whole channel.region).attach view with
        | error fault => exact ⟨_, channel, readers, rfl, rfl, Or.inl ⟨rfl, rfl⟩⟩
        | ok capacity => exact ⟨_, _, _, rfl, rfl, Or.inr ⟨capacity, rfl, rfl, rfl⟩⟩

end Session

namespace Told

/-- What the handles of a queue are asked for: the tail only moves to where a record ends. -/
inductive Plain (told : Told) : Command → Prop
  | push (payload : Bytes) : Plain told (.push payload 1)
  | read (number : Nat) (there : number < told.session.readers.size) : Plain told (.read number)
  | poll (number : Nat) (there : number < told.session.readers.size) : Plain told (.poll number)
  | openReader (file : told.session.file?.isSome = true) : Plain told (.openReader none false)
  | advanceTail (position : UInt64) (count : Nat)
      (boundary : position.toNat = (Record.stream (told.story.records.take count)).length) :
      Plain told (.advanceTail position)
  | reset : Plain told .reset

theorem Plain.ordinary {told : Told} {command : Command} (plain : told.Plain command) :
    command.Ordinary ∧ ∀ binding, command ≠ .bind binding := by
  cases plain with
  | push payload => exact ⟨.push payload, nofun⟩
  | reset => exact ⟨.reset, nofun⟩
  | _ => exact ⟨.quiet rfl, nofun⟩

/-- The session has a ring made after the plan, and the queue is what waits in it. -/
structure Mirrors (told : Told) (channel : Channel) (plan : RingPlan) (queue : RecordQueue) : Prop
    extends Unattended told channel where
  framed : ∃ made, Channel.Fresh plan made ∧ made.Framed channel
  waiting : ∃ gone, told.story.records = gone ++ queue.waiting ∧
    channel.page.tail.toNat = (Record.stream gone).length ∧
    queue.passed = (Record.stream gone).length
  missed : queue.missed = told.story.missed
  since : queue.since = told.story.since
  readers : queue.readers = told.session.readers.size
  sized : ∀ reader ∈ told.session.readers, reader.capacity = channel.capacity

variable {told : Told} {channel : Channel} {plan : RingPlan} {queue : RecordQueue}

theorem Mirrors.capacity (mirrors : Mirrors told channel plan queue) :
    channel.capacity = plan.capacity := by
  obtain ⟨made, fresh, framed⟩ := mirrors.framed
  exact framed.capacity.trans fresh.capacity

theorem Mirrors.queues (mirrors : Mirrors told channel plan queue) :
    ∃ gone, told.story.records = gone ++ queue.waiting ∧
      queue.passed = (Record.stream gone).length ∧ channel.Queues gone queue.waiting := by
  obtain ⟨gone, records, tail, passed⟩ := mirrors.waiting
  refine ⟨gone, records, passed, ?_, tail, mirrors.unbound⟩
  rw [← records]
  exact mirrors.tells.holds

theorem Sound.channel_eq (sound : Sound told channel) {other : Channel} {named : Bool}
    (store : told.session.store = .ring other named) : channel = other := by
  obtain ⟨_, same⟩ := sound.store
  rw [store] at same
  cases same
  rfl

/-- What is left to show of a step, where the number of readers stays. -/
theorem Mirrors.carry (mirrors : Mirrors told channel plan queue) {next : Told} {after : Channel}
    {follow : RecordQueue} (unattended : Unattended next after) (framed : channel.Framed after)
    (gone : List Record) (records : next.story.records = gone ++ follow.waiting)
    (tail : after.page.tail.toNat = (Record.stream gone).length)
    (passed : follow.passed = (Record.stream gone).length)
    (missed : follow.missed = next.story.missed) (since : follow.since = next.story.since)
    (readers : follow.readers = next.session.readers.size)
    (sized : ∀ reader ∈ next.session.readers, reader.capacity = channel.capacity) :
    Mirrors next after plan follow := by
  obtain ⟨made, fresh, frame⟩ := mirrors.framed
  refine ⟨unattended, ⟨made, fresh, frame.trans framed⟩, ⟨gone, records, tail, passed⟩, missed, since,
    readers, ?_⟩
  rw [framed.capacity]
  exact sized

theorem readers_step_push (sound : Sound told channel) (time : UInt64) (payload : Bytes) :
    (told.step time (.push payload 1)).2.session.readers = told.session.readers := by
  obtain ⟨named, store⟩ := sound.store
  exact congrArg (fun answered : Reply × Session => answered.2.readers)
    (Session.step_push store sound.seat time payload)

theorem mirrors_push (mirrors : Mirrors told channel plan queue) (time : UInt64) (payload : Bytes)
    (bound : (told.step time (.push payload 1)).2.story.size < UInt64.size) :
    ∃ after next, Mirrors (told.step time (.push payload 1)).2 after plan next ∧
      queue.Step plan.capacity time (.push payload 1) (told.step time (.push payload 1)).1 next := by
  obtain ⟨after, unattended, -, story, acts, framed⟩ :=
    unattended_step mirrors.toUnattended time (.push payload) nofun bound
  obtain ⟨answer, same⟩ := acts.of_push
  have pushed := Channel.pushed_push mirrors.tells.holds.power mirrors.tells.misses time payload
  rw [← same] at pushed
  clear same acts
  rw [answer] at story ⊢
  -- From here on the answer is known only by what `pushed` says of it.
  generalize (channel.push time payload).1 = outcome at pushed story ⊢
  obtain ⟨gone, records, passed, queues⟩ := mirrors.queues
  have used := queues.toNat_used
  have most : channel.maxPayload = maxPayload plan.capacity := by
    rw [Channel.maxPayload, mirrors.capacity]
  have readers := readers_step_push mirrors.toSound time payload
  have counted : queue.readers = (told.step time (.push payload 1)).2.session.readers.size := by
    rw [readers, mirrors.readers]
  have sized : ∀ reader ∈ (told.step time (.push payload 1)).2.session.readers,
      reader.capacity = channel.capacity := by
    rw [readers]
    exact mirrors.sized
  cases pushed with
  | tooLarge long =>
      rw [most] at long
      refine ⟨channel, _, ?_, .tooLarge payload long⟩
      refine mirrors.carry unattended framed gone ?_ queues.tail passed ?_ ?_ counted sized
      · rw [story]
        exact records
      · rw [story]
        exact mirrors.missed
      · rw [story]
        exact mirrors.since
  | dropped short full =>
      rw [most] at short
      rw [used, mirrors.capacity, ← mirrors.missed, ← mirrors.since] at full
      refine ⟨channel.noteDrop time (16 + UInt64.ofNat payload.length), _, ?_,
        .dropped payload short full⟩
      refine mirrors.carry unattended framed gone ?_ ?_ passed ?_ ?_ counted sized
      · rw [story]
        exact records
      · rw [channel.tail_noteDrop]
        exact queues.tail
      · rw [story, mirrors.missed]
        rfl
      · rw [story, mirrors.missed, mirrors.since]
        rfl
  | written written short room wrote closed chronicle =>
      have still := Channel.still_evaluateWatermarks time (.of_unbound (wrote.bound.trans mirrors.unbound))
      rw [most] at short
      rw [used, mirrors.capacity, ← mirrors.missed, ← mirrors.since] at room
      refine ⟨written.evaluateWatermarks time, _, ?_, .written payload short room⟩
      refine mirrors.carry unattended framed gone ?_ ?_ passed ?_ ?_ counted sized
      · rw [story, mirrors.missed, mirrors.since, ← List.append_assoc, ← records]
        rfl
      · have tail : (written.evaluateWatermarks time).page.tail = written.page.tail :=
          congrArg (·.page.tail) still.region
        rw [tail, wrote.tail]
        exact queues.tail
      · rw [story]
        rfl
      · rw [story]
        rfl

theorem mirrors_reset (mirrors : Mirrors told channel plan queue) (time : UInt64)
    (bound : (told.step time .reset).2.story.size < UInt64.size) :
    ∃ after next, Mirrors (told.step time .reset).2 after plan next ∧
      queue.Step plan.capacity time .reset (told.step time .reset).1 next := by
  obtain ⟨after, unattended, -, story, acts, framed⟩ :=
    unattended_step mirrors.toUnattended time .reset nofun bound
  obtain ⟨answer, rfl⟩ := acts.of_reset
  obtain ⟨named, store⟩ := mirrors.store
  have readers : (told.step time .reset).2.session.readers = told.session.readers :=
    congrArg (fun answered : Reply × Session => answered.2.readers) (Session.step_reset store time)
  rw [answer] at story ⊢
  refine ⟨channel.reset, _, ?_, .reset⟩
  refine mirrors.carry unattended framed [] ?_ ?_ rfl ?_ ?_ ?_ ?_
  · rw [story]
    rfl
  · rw [channel.cleared_reset.tail]
    rfl
  · rw [story]
    rfl
  · rw [story]
    rfl
  · rw [readers]
    exact mirrors.readers
  · rw [readers]
    exact mirrors.sized

theorem sized_setIfInBounds {readers : Array Reader} {capacity : UInt64}
    (sized : ∀ reader ∈ readers, reader.capacity = capacity) (number : Nat) {last : Reader}
    (same : last.capacity = capacity) :
    ∀ reader ∈ readers.setIfInBounds number last, reader.capacity = capacity := by
  intro reader member
  rcases Array.mem_or_eq_of_mem_setIfInBounds member with old | rfl
  · exact sized reader old
  · exact same

/-- A command that only moves the tail, to where records end, with as many readers as before. -/
theorem Mirrors.moved (mirrors : Mirrors told channel plan queue) {time : UInt64} {command : Command}
    (still : command.isQuiet = true) (bound : (told.step time command).2.story.size < UInt64.size)
    {reply : Reply} {after : Channel} {named : Bool} {readers : Array Reader}
    (answer : told.session.step (some time) command =
      (reply, { told.session with now := time, store := .ring after named, readers }))
    (size : readers.size = told.session.readers.size)
    (sized : ∀ reader ∈ readers, reader.capacity = channel.capacity) (kept : channel.Kept after)
    {gone : List Record} (records : told.story.records = gone ++ queue.waiting)
    (front rest : List Record) (split : queue.waiting = front ++ rest)
    (queues : after.Queues (gone ++ front) rest) :
    (told.step time command).1 = reply ∧
      Mirrors (told.step time command).2 after plan
        { queue with waiting := rest, passed := (Record.stream (gone ++ front)).length } := by
  obtain ⟨other, unattended, story⟩ :=
    unattended_step_of_quiet mirrors.toUnattended time command still bound
  have session : (told.step time command).2.session =
      { told.session with now := time, store := .ring after named, readers } :=
    congrArg Prod.snd answer
  have known : other = after := unattended.toSound.channel_eq (by rw [session])
  rw [known] at unattended
  refine ⟨congrArg Prod.fst answer, ?_⟩
  refine mirrors.carry unattended kept.toFramed (gone ++ front) ?_ queues.tail rfl ?_ ?_ ?_ ?_
  · rw [story, records, split, List.append_assoc]
  · rw [story]
    exact mirrors.missed
  · rw [story]
    exact mirrors.since
  · rw [session]
    exact mirrors.readers.trans size.symm
  · rw [session]
    exact sized

theorem mirrors_read (mirrors : Mirrors told channel plan queue) (time : UInt64) {number : Nat}
    (there : number < told.session.readers.size)
    (bound : (told.step time (.read number)).2.story.size < UInt64.size) :
    ∃ after next, Mirrors (told.step time (.read number)).2 after plan next ∧
      queue.Step plan.capacity time (.read number) (told.step time (.read number)).1 next := by
  obtain ⟨named, store⟩ := mirrors.store
  obtain ⟨reader, found⟩ : ∃ reader, told.session.readers[number]? = some reader :=
    ⟨_, Array.getElem?_eq_getElem there⟩
  have same := mirrors.sized reader (Array.mem_of_getElem? found)
  have answer := Session.step_read store found time
  rw [← mirrors.readers] at there
  obtain ⟨gone, records, passed, queues⟩ := mirrors.queues
  cases waiting : queue.waiting with
  | nil =>
      rw [waiting] at queues
      rw [queues.read_nil] at answer
      obtain ⟨reply, next⟩ := mirrors.moved rfl bound answer Array.size_setIfInBounds
        (sized_setIfInBounds mirrors.sized number same) (Channel.Still.refl channel).kept records
        [] [] waiting (by rw [List.append_nil]; exact queues)
      rw [reply]
      rw [List.append_nil, ← passed, ← waiting] at next
      exact ⟨channel, queue, next, .empty number there waiting⟩
  | cons record rest =>
      rw [waiting] at queues
      obtain ⟨after, read, moved, kept⟩ := queues.read_cons time same
      rw [read] at answer
      obtain ⟨reply, next⟩ := mirrors.moved rfl bound answer Array.size_setIfInBounds
        (sized_setIfInBounds mirrors.sized number ((reader.capacity_count record).trans same)) kept
        records [record] rest waiting moved
      rw [reply]
      rw [Record.stream_append, List.length_append, ← passed, Record.stream_cons, Record.stream_nil,
        List.append_nil] at next
      exact ⟨after, _, next, .read number there record rest waiting⟩

theorem mirrors_poll (mirrors : Mirrors told channel plan queue) (time : UInt64) {number : Nat}
    (there : number < told.session.readers.size)
    (bound : (told.step time (.poll number)).2.story.size < UInt64.size) :
    ∃ after next, Mirrors (told.step time (.poll number)).2 after plan next ∧
      queue.Step plan.capacity time (.poll number) (told.step time (.poll number)).1 next := by
  obtain ⟨named, store⟩ := mirrors.store
  obtain ⟨reader, found⟩ : ∃ reader, told.session.readers[number]? = some reader :=
    ⟨_, Array.getElem?_eq_getElem there⟩
  have same := mirrors.sized reader (Array.mem_of_getElem? found)
  have answer := Session.step_poll store found time
  rw [← mirrors.readers] at there
  obtain ⟨gone, records, passed, queues⟩ := mirrors.queues
  obtain ⟨last, after, polled, capacity, drained, kept⟩ := queues.poll time same
  rw [polled] at answer
  obtain ⟨reply, next⟩ := mirrors.moved rfl bound answer Array.size_setIfInBounds
    (sized_setIfInBounds mirrors.sized number (capacity.trans same)) kept records
    queue.waiting [] (List.append_nil _).symm drained
  rw [reply]
  rw [Record.stream_append, List.length_append, ← passed] at next
  exact ⟨after, _, next, .poll number there⟩

theorem mirrors_advanceTail (mirrors : Mirrors told channel plan queue) (time : UInt64)
    {position : UInt64} {count : Nat}
    (boundary : position.toNat = (Record.stream (told.story.records.take count)).length)
    (bound : (told.step time (.advanceTail position)).2.story.size < UInt64.size) :
    ∃ after next, Mirrors (told.step time (.advanceTail position)).2 after plan next ∧
      queue.Step plan.capacity time (.advanceTail position)
        (told.step time (.advanceTail position)).1 next := by
  obtain ⟨named, store⟩ := mirrors.store
  have answer := Session.step_advanceTail store time position
  obtain ⟨gone, records, passed, queues⟩ := mirrors.queues
  rw [records] at boundary
  rcases Nat.lt_or_ge count gone.length with behind | ahead
  · -- The record that ends there is gone already.
    have less : position.toNat < queue.passed := by
      have whole := congrArg (fun records => (Record.stream records).length)
        (List.take_append_drop count gone)
      have rest := Record.length_le_length_stream (gone.drop count)
      rw [List.take_append_of_le_length (Nat.le_of_lt behind)] at boundary
      simp only [Record.stream_append, List.length_append] at whole
      simp only [RecordHeader.size, List.length_drop] at rest
      omega
    have refused := channel.advanceTail_of_behind time position
      (by rw [UInt64.lt_iff_toNat_lt, queues.tail, ← passed]; exact less)
    rw [refused] at answer
    obtain ⟨reply, next⟩ := mirrors.moved rfl bound answer rfl mirrors.sized
      (Channel.Still.refl channel).kept records [] queue.waiting rfl
      (by rw [List.append_nil]; exact queues)
    have tail : channel.page.tail = UInt64.ofNat queue.passed := by
      rw [passed, ← queues.tail, UInt64.ofNat_toNat]
    have head : channel.page.head =
        UInt64.ofNat (queue.passed + (Record.stream queue.waiting).length) := by
      rw [passed, ← queues.tail, ← queues.toNat_head, UInt64.ofNat_toNat]
    rw [reply, tail, head]
    rw [List.append_nil, ← passed] at next
    exact ⟨channel, queue, next, .refused position less⟩
  · obtain ⟨more, rfl⟩ := Nat.exists_eq_add_of_le ahead
    rw [List.take_length_add_append] at boundary
    have split := (List.take_append_drop more queue.waiting).symm
    rw [split] at queues
    obtain ⟨done, moved, kept⟩ := queues.advanceTail time boundary
    rw [done] at answer
    obtain ⟨reply, next⟩ := mirrors.moved rfl bound answer rfl mirrors.sized kept records _ _ split moved
    rw [reply]
    rw [← boundary] at next
    refine ⟨_, _, next, .advanced position _ _ split ?_⟩
    rw [boundary, Record.stream_append, List.length_append, ← passed]

theorem mirrors_openReader (mirrors : Mirrors told channel plan queue) (time : UInt64)
    (file : told.session.file?.isSome = true)
    (bound : (told.step time (.openReader none false)).2.story.size < UInt64.size) :
    ∃ after next, Mirrors (told.step time (.openReader none false)).2 after plan next ∧
      queue.Step plan.capacity time (.openReader none false)
        (told.step time (.openReader none false)).1 next := by
  obtain ⟨named, store⟩ := mirrors.store
  have shared : named = true := by
    cases named with
    | true => rfl
    | false =>
        rw [Session.file?, store] at file
        cases file
  rw [shared] at store
  obtain ⟨made, fresh, framed⟩ := mirrors.framed
  have attached := RingFile.attach_whole (Channel.filled_of_framed fresh framed mirrors.tells.holds)
  have answer := Session.step_openReader store attached time
  obtain ⟨gone, records, passed, queues⟩ := mirrors.queues
  obtain ⟨other, unattended, story⟩ := unattended_step_of_quiet mirrors.toUnattended time
    (.openReader none false) rfl bound
  have session : (told.step time (.openReader none false)).2.session =
      { told.session with
        now := time
        store := .ring (channel.log (.attached told.session.path channel.capacity)) true
        readers := told.session.readers.push
          { capacity := channel.capacity, inProcess := false } } :=
    congrArg Prod.snd answer
  have reply : (told.step time (.openReader none false)).1 = .opened queue.readers := by
    rw [mirrors.readers]
    exact congrArg Prod.fst answer
  have known : other = channel.log (.attached told.session.path channel.capacity) :=
    unattended.toSound.channel_eq (by rw [session])
  rw [known] at unattended
  rw [reply]
  refine ⟨channel.log (.attached told.session.path channel.capacity), _, ?_, .opened⟩
  refine mirrors.carry unattended ((Channel.Still.refl channel).log rfl).framed gone ?_
    queues.tail passed ?_ ?_ ?_ ?_
  · rw [story]
    exact records
  · rw [story]
    exact mirrors.missed
  · rw [story]
    exact mirrors.since
  · rw [session, Array.size_push, ← mirrors.readers]
  · rw [session]
    intro reader member
    rcases Array.mem_push.mp member with old | rfl
    · exact mirrors.sized reader old
    · rfl

/-- One step of the session is one step of the queue. -/
theorem mirrors_step (mirrors : Mirrors told channel plan queue) (time : UInt64) {command : Command}
    (plain : told.Plain command) (bound : (told.step time command).2.story.size < UInt64.size) :
    ∃ after next, Mirrors (told.step time command).2 after plan next ∧
      queue.Step plan.capacity time command (told.step time command).1 next := by
  cases plain with
  | push payload => exact mirrors_push mirrors time payload bound
  | read number there => exact mirrors_read mirrors time there bound
  | poll number there => exact mirrors_poll mirrors time there bound
  | openReader file => exact mirrors_openReader mirrors time file bound
  | advanceTail position count boundary => exact mirrors_advanceTail mirrors time boundary bound
  | reset => exact mirrors_reset mirrors time bound

variable {origin : Origin} {path : String} {now : UInt64} {view : CreationView} {session : Session}

theorem mirrors_of_run (started : Session.start origin plan path now = (.created view, some session))
    {turns : List Turn} {told : Told}
    (run : Run (fun told _ command => told.Plain command) session turns told) :
    ∃ channel queue, Mirrors told channel plan queue ∧ RecordQueue.Run plan.capacity turns queue := by
  induction run with
  | start =>
      obtain ⟨channel, named, fresh, rfl⟩ := Session.fresh_of_start started
      have tail : channel.page.tail.toNat = 0 := by
        rw [fresh.page]
        rfl
      refine ⟨channel, {}, ⟨⟨⟨⟨named, rfl⟩, rfl, fresh.holds, fresh.misses⟩, fresh.bound⟩,
        ⟨channel, fresh, (Channel.Still.refl _).framed⟩, ⟨[], rfl, tail, rfl⟩, rfl, rfl, rfl, ?_⟩,
        .start⟩
      intro reader member
      rw [Array.mem_singleton.mp member]
  | step run time command permitted bound ih =>
      obtain ⟨channel, queue, mirrors, queued⟩ := ih
      obtain ⟨after, next, follows, step⟩ := mirrors_step mirrors time permitted bound
      exact ⟨after, next, follows, .step queued _ step⟩

/-- A ring answers every run as a queue of records does; and what is delivered, followed by what waits
in the end, is a part of what was published, in the order of publication. -/
theorem fifo_of_run (started : Session.start origin plan path now = (.created view, some session))
    {turns : List Turn} {told : Told}
    (run : Run (fun told _ command => told.Plain command) session turns told) :
    ∃ queue, RecordQueue.Run plan.capacity turns queue ∧
      (turns.flatMap Turn.delivered ++ queue.waiting).Sublist queue.published := by
  obtain ⟨channel, queue, -, queued⟩ := mirrors_of_run started run
  exact ⟨queue, queued, RecordQueue.delivered_sublist queued⟩

/-- Of two records, one goes to a reader that was attached to the file, and one to the first reader. -/
theorem fifo_through_two_readers :
    ∃ turns queue, turns.flatMap Turn.delivered = [.ofPayload 1 [7], .ofPayload 3 [8]] ∧
      RecordQueue.Run 64 turns queue ∧
      (turns.flatMap Turn.delivered ++ queue.waiting).Sublist queue.published := by
  obtain ⟨view, started⟩ := Session.start_smallShared
  have first : Run (fun told _ command => told.Plain command) Session.smallShared [] ⟨_, {}⟩ := .start
  have run := first
    |>.step 1 _ (.push [7]) (by decide +kernel)
    |>.step 2 _ (.openReader (by decide +kernel)) (by decide +kernel)
    |>.step 3 _ (.push [8]) (by decide +kernel)
    |>.step 4 _ (.read 1 (by decide +kernel)) (by decide +kernel)
    |>.step 5 _ (.poll 0 (by decide +kernel)) (by decide +kernel)
  obtain ⟨queue, queued, ordered⟩ := fifo_of_run started run
  exact ⟨_, queue, by decide +kernel, queued, ordered⟩

end Told

end RecordRing
