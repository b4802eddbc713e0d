import RecordRing.Proofs.Fifo
import RecordRing.Proofs.PatternRoundTrip
import RecordRing.Proofs.SequenceWalk

set_option autoImplicit false

namespace RecordRing

def Session.roomyShared : Session :=
  let made := Channel.ofMemory (MappedFile.create none 4224) { capacity := 128 }
  { path := "ring"
    now := 0
    store := .ring { made with trace := #[.logged (.ringCreated "ring" 128)] } true
    readers := #[{ capacity := 128, inProcess := true }] }

theorem Session.start_roomyShared :
    ∃ view, start (.path none) { capacity := 128 } "ring" 0 = (.created view, some roomyShared) :=
  ⟨_, rfl⟩

/-- The accepted sizes are those that the pattern fills and the ring takes. -/
theorem LoadGenerator.make_eq_ok_iff {largest size : UInt64} {generator : LoadGenerator} :
    make largest size = .ok generator ↔
      LoadPattern.minPayload ≤ size.toNat ∧ size ≤ largest ∧
        generator = { buffer := .zeros size.toNat } := by
  unfold make
  simp only [Bool.or_eq_true, decide_eq_true_eq]
  split
  · rename_i refused
    refine ⟨nofun, fun ⟨room, fits, _⟩ => ?_⟩
    rcases refused with short | long
    · omega
    · exact absurd fits (UInt64.not_le.mpr long)
  · rename_i taken
    rw [not_or, Nat.not_lt, UInt64.not_lt] at taken
    exact ⟨fun same => ⟨taken.1, taken.2, (Except.ok.inj same).symm⟩,
      fun ⟨_, _, same⟩ => congrArg Except.ok same.symm⟩

theorem LoadGenerator.size_payload (generator : LoadGenerator) (filled : UInt64) :
    (generator.payload filled).size = generator.buffer.size :=
  LoadPattern.size_fill ..

/-- One tick of the generator. The clock is read to fill the payload, and again by the push. -/
def Session.tickAt (session : Session) (filled time : UInt64) : Reply × Session :=
  ({ session with now := time }).onGenerator fun generator channel =>
    let (outcome, next, pushed) := generator.tickAt channel filled time
    (.ticked [outcome] next.sequence (LoadGenerator.intervalMillis pushed.rate), next, pushed)

/-- Where the clock stands still in it, a tick is the command. -/
example (session : Session) (time : UInt64) :
    session.tickAt time time = session.step (some time) (.tick 1) := rfl

/-- The producer goes to the generator, unless the size is refused. -/
theorem Session.step_makeGenerator {session : Session} {channel : Channel} {named : Bool}
    (store : session.store = .ring channel named) (seat : session.seat = .producer)
    (time size : UInt64) :
    session.step (some time) (.makeGenerator size) =
      match LoadGenerator.make channel.maxPayload size with
      | .ok generator =>
          (.done, { session with
            now := time, store := .ring channel named, seat := .generator generator })
      | .error fault =>
          (.sizeRefused fault, { session with
            now := time, store := .ring channel named, seat := .gone }) := by
  obtain ⟨path, now, _, readers, _⟩ := session
  cases store
  cases seat
  cases made : LoadGenerator.make channel.maxPayload size <;>
    simp only [step, perform, makeGenerator, channel?, made] <;> rfl

def Session.payload (session : Session) (filled : UInt64) : Bytes :=
  match session.seat with
  | .generator generator => (generator.payload filled).toBytes
  | _ => []

def Channel.openDrops (channel : Channel) : Nat :=
  if channel.page.isDropping then channel.page.episodeCount.toNat else 0

/-- What is asked for on the side of the reader: that it read, or that readers attach to the file. -/
inductive Command.Consumes (number : Nat) : Command → Prop
  | read : Consumes number (.read number)
  | poll : Consumes number (.poll number)
  | opened (view : Option UInt64) (missing : Bool) : Consumes number (.openReader view missing)

/-- A session with its story, the records that were delivered, and how often the generator ticked. -/
structure Traffic where
  session : Session
  story : Story := {}
  delivered : List Record := []
  ticks : Nat := 0

namespace Traffic

def tick (traffic : Traffic) (filled time : UInt64) : Traffic where
  session := (traffic.session.tickAt filled time).2
  story := match (traffic.session.tickAt filled time).1 with
    | .ticked [outcome] _ _ =>
        traffic.story.push time (traffic.session.payload filled) outcome
    | _ => traffic.story
  delivered := traffic.delivered
  ticks := traffic.ticks + 1

def turn (traffic : Traffic) (time : UInt64) (command : Command) : Traffic :=
  { traffic with
    session := (traffic.session.step (some time) command).2
    delivered := traffic.delivered ++
      Turn.delivered ⟨time, command, (traffic.session.step (some time) command).1⟩ }

/-- The runs in which one reader reads, while fewer than 2^64 payloads are numbered and as many bytes
published, and fewer than 2^32 pushes are dropped one after another. The clock may stand still, but does
not go backwards in a tick. -/
inductive Run (number : Nat) (start : Session) : Traffic → Prop
  | start : Run number start { session := start }
  | tick {traffic : Traffic} (run : Run number start traffic) (filled time : UInt64)
      (forward : filled ≤ time) (ticks : traffic.ticks + 1 < UInt64.size)
      (size : (traffic.tick filled time).story.size < UInt64.size)
      (missed : (traffic.tick filled time).story.missed < UInt32.size) :
      Run number start (traffic.tick filled time)
  | turn {traffic : Traffic} (run : Run number start traffic) (time : UInt64) (command : Command)
      (consumes : command.Consumes number) : Run number start (traffic.turn time command)

structure Flows (number : Nat) (traffic : Traffic) (generator : LoadGenerator) (channel : Channel)
    (unread : List Record) : Prop where
  store : ∃ named, traffic.session.store = .ring channel named
  seat : traffic.session.seat = .generator generator
  named : channel.page.capacity = channel.capacity
  room : LoadPattern.minPayload ≤ generator.buffer.size
  fits : generator.buffer.size ≤ channel.maxPayload.toNat
  records : traffic.story.records = traffic.delivered ++ unread
  queues : channel.Queues traffic.delivered unread
  misses : channel.Misses traffic.story.missed traffic.story.since
  few : traffic.story.missed < UInt32.size
  ordered : Record.InOrder 1 traffic.story.records
  below : traffic.ticks < UInt64.size
  numbers : (traffic.story.records.map Record.numbers).sum + traffic.story.missed = traffic.ticks
  sequence : generator.sequence = UInt64.ofNat traffic.ticks
  drops : channel.tallies.drops =
    UInt64.ofNat ((traffic.story.records.map Record.lost).sum + traffic.story.missed)
  sized : ∀ reader ∈ traffic.session.readers, reader.capacity = channel.capacity
  totals : ∀ reader, traffic.session.readers[number]? = some reader → reader.Totals traffic.delivered
  nobody : traffic.session.readers[number]? = none → traffic.delivered = []

variable {number : Nat} {traffic : Traffic} {generator : LoadGenerator} {channel : Channel}
  {unread : List Record}

/-- The records of a push stand for the pushes that were dropped before it and for its own. -/
theorem sum_numbers_ofPush {missed : Nat} (few : missed < UInt32.size) (since now : UInt64)
    (payload : Bytes) :
    ((Record.ofPush missed since now payload).map Record.lost).sum = missed ∧
      ((Record.ofPush missed since now payload).map Record.numbers).sum = missed + 1 := by
  have words : UInt32.size = 4294967296 := rfl
  have large : UInt64.size = 18446744073709551616 := rfl
  have lost : (UInt32.ofNat (min (missed % UInt64.size) 0xFFFFFFFF)).toNat = missed := by
    rw [UInt32.toNat_ofNat', Nat.mod_eq_of_lt (by omega : missed < UInt64.size)]
    omega
  rw [Record.sum_numbers, Record.ofPush, Record.owed]
  by_cases none : missed = 0
  · rw [if_pos none, none]
    exact ⟨rfl, rfl⟩
  · have total : ([Record.ofEpisode missed since now, Record.ofPayload now payload].map
        Record.lost).sum = missed := by
      change (UInt32.ofNat _).toNat + 0 = missed
      rw [lost, Nat.add_zero]
    rw [if_neg none]
    exact ⟨total, by rw [List.singleton_append, total, Nat.add_comm]; rfl⟩

/-- They come in their order, if the payload carries the number behind those that were dropped. -/
theorem inOrder_ofPush {missed : Nat} (few : missed < UInt32.size) (since : UInt64)
    {filled time : UInt64} (forward : filled ≤ time) {payload : Bytes} {due : Nat}
    (verified : LoadPattern.verify (.ofBytes payload) = .ok (filled, UInt64.ofNat (due + missed))) :
    Record.InOrder due (Record.ofPush missed since time payload) := by
  have packet : Record.InOrder (due + missed) [Record.ofPayload time payload] :=
    ⟨⟨filled, verified, forward⟩, trivial⟩
  have owed : ((Record.owed missed since time).map Record.numbers).sum = missed ∧
      Record.InOrder due (Record.owed missed since time) := by
    have sums := (sum_numbers_ofPush few since time payload).2
    rw [Record.ofPush, List.map_append, List.sum_append] at sums
    have one : ([Record.ofPayload time payload].map Record.numbers).sum = 1 := rfl
    refine ⟨by omega, ?_⟩
    unfold Record.owed
    split
    · exact trivial
    · exact trivial
  rw [Record.ofPush, Record.inOrder_append, owed.1]
  exact ⟨owed.2, packet⟩

/-- A tick pushes the payload that comes next, and the story tells of it. -/
theorem tick_eq (flows : Flows number traffic generator channel unread) (filled time : UInt64) :
    ∃ named, traffic.tick filled time =
      { session := { traffic.session with
          now := time
          store := .ring (channel.push time (generator.payload filled).toBytes).2 named
          seat := .generator ⟨generator.payload filled, generator.sequence + 1⟩ }
        story := traffic.story.push time (generator.payload filled).toBytes
          (channel.push time (generator.payload filled).toBytes).1
        delivered := traffic.delivered
        ticks := traffic.ticks + 1 } := by
  obtain ⟨named, store⟩ := flows.store
  have seat := flows.seat
  refine ⟨named, ?_⟩
  obtain ⟨⟨path, now, _, readers, _⟩, story, delivered, ticks⟩ := traffic
  cases store
  cases seat
  rfl

theorem Flows.next (flows : Flows number traffic generator channel unread) :
    generator.sequence + 1 = UInt64.ofNat (traffic.ticks + 1) := by
  rw [flows.sequence, UInt64.ofNat_add]
  rfl

/-- The payload that comes next is not too long, and carries the number of the tick. -/
theorem Flows.payload (flows : Flows number traffic generator channel unread) (filled : UInt64) :
    (generator.payload filled).toBytes.length ≤ channel.maxPayload.toNat ∧
      LoadPattern.verify (.ofBytes (generator.payload filled).toBytes) =
        .ok (filled, UInt64.ofNat (traffic.ticks + 1)) := by
  constructor
  · rw [Buffer.length_toBytes, LoadGenerator.size_payload]
    exact flows.fits
  · rw [← flows.next]
    exact LoadPattern.verify_ofBytes_fill flows.room filled _

/-- The story of the push says where the number went. -/
theorem Flows.ticked (flows : Flows number traffic generator channel unread) {filled time : UInt64}
    (ticks : traffic.ticks + 1 < UInt64.size) {outcome : PushOutcome} {after : Channel}
    (done : channel.push time (generator.payload filled).toBytes = (outcome, after))
    (framed : channel.Framed after) {story : Story}
    (told : traffic.story.push time (generator.payload filled).toBytes outcome = story)
    (few : story.missed < UInt32.size) {waiting : List Record}
    (records : story.records = traffic.delivered ++ waiting)
    (queues : after.Queues traffic.delivered waiting) (misses : after.Misses story.missed story.since)
    (ordered : Record.InOrder 1 story.records)
    (numbers : (story.records.map Record.numbers).sum + story.missed = traffic.ticks + 1)
    (drops : after.tallies.drops =
      UInt64.ofNat ((story.records.map Record.lost).sum + story.missed)) :
    Flows number (traffic.tick filled time) ⟨generator.payload filled, generator.sequence + 1⟩ after
      waiting := by
  obtain ⟨named, same⟩ := tick_eq flows filled time
  rw [done] at same
  dsimp only at same
  rw [told] at same
  rw [same]
  have width := generator.size_payload filled
  refine ⟨⟨named, rfl⟩, rfl, ?_, ?_, ?_, records, queues, misses, few, ordered, ticks, numbers,
    flows.next, drops, ?_, flows.totals, flows.nobody⟩
  · rw [framed.named, framed.capacity]
    exact flows.named
  · exact width ▸ flows.room
  · change (generator.payload filled).size ≤ (RecordRing.maxPayload after.capacity).toNat
    rw [width, framed.capacity]
    exact flows.fits
  · rw [framed.capacity]
    exact flows.sized

theorem flows_tick (flows : Flows number traffic generator channel unread) {filled time : UInt64}
    (forward : filled ≤ time) (ticks : traffic.ticks + 1 < UInt64.size)
    (size : (traffic.tick filled time).story.size < UInt64.size)
    (few : (traffic.tick filled time).story.missed < UInt32.size) :
    ∃ next after waiting, Flows number (traffic.tick filled time) next after waiting := by
  obtain ⟨named, same⟩ := tick_eq flows filled time
  obtain ⟨short, verified⟩ := flows.payload filled
  have story := congrArg Traffic.story same
  dsimp only at story
  rw [story] at size few
  obtain ⟨after, framed, pushed⟩ := flows.queues.push_cases flows.misses time short (by
    intro written
    rw [written] at size
    rw [← flows.records]
    exact size)
  have numbers := flows.numbers
  -- The next number goes to one of two places.
  rcases pushed with ⟨done, queues, misses, drops⟩ | ⟨done, queues, misses, drops⟩
  · -- The number is counted by the open episode.
    rw [done] at few
    refine ⟨_, after, unread, flows.ticked ticks done framed rfl few flows.records queues misses
      flows.ordered ?_ ?_⟩
    · change (traffic.story.records.map Record.numbers).sum + (traffic.story.missed + 1) = _
      omega
    · change _ = UInt64.ofNat ((traffic.story.records.map Record.lost).sum +
        (traffic.story.missed + 1))
      rw [drops, flows.drops, ← Nat.add_assoc, UInt64.ofNat_add _ 1]
      rfl
  · -- The number is in the packet, behind a summary of the episode.
    rw [done] at few
    obtain ⟨lost, stood⟩ := sum_numbers_ofPush flows.few traffic.story.since time
      (generator.payload filled).toBytes
    have due : 1 + (traffic.story.records.map Record.numbers).sum + traffic.story.missed =
        traffic.ticks + 1 := by
      omega
    rw [← due] at verified
    have ordered := inOrder_ofPush flows.few traffic.story.since forward verified
    refine ⟨_, after, _, flows.ticked ticks done framed rfl few ?_ queues misses
      ((Record.inOrder_append ..).mpr ⟨flows.ordered, ordered⟩) ?_ ?_⟩
    · change traffic.story.records ++ _ = _
      rw [flows.records, List.append_assoc]
    · change ((traffic.story.records ++ _).map Record.numbers).sum + 0 = _
      rw [List.map_append, List.sum_append, stood]
      omega
    · change _ = UInt64.ofNat (((traffic.story.records ++ _).map Record.lost).sum + 0)
      rw [List.map_append, List.sum_append, lost, drops, flows.drops, Nat.add_zero]

/-- Records were handed out, or none, and nothing was published. -/
theorem Flows.moved (flows : Flows number traffic generator channel unread) {time : UInt64}
    {command : Command} {reply : Reply} {after : Channel} {named : Bool} {readers : Array Reader}
    (answer : traffic.session.step (some time) command =
      (reply, { traffic.session with now := time, store := .ring after named, readers }))
    (kept : channel.Kept after) {front rest : List Record} (split : unread = front ++ rest)
    (handed : Turn.delivered ⟨time, command, reply⟩ = front)
    (queues : after.Queues (traffic.delivered ++ front) rest)
    (sized : ∀ reader ∈ readers, reader.capacity = channel.capacity)
    (totals : ∀ reader, readers[number]? = some reader →
      reader.Totals (traffic.delivered ++ front))
    (nobody : readers[number]? = none → traffic.delivered ++ front = []) :
    Flows number (traffic.turn time command) generator after rest := by
  have session : (traffic.turn time command).session =
      { traffic.session with now := time, store := .ring after named, readers } :=
    congrArg Prod.snd answer
  have delivered : (traffic.turn time command).delivered = traffic.delivered ++ front := by
    rw [← handed, turn, answer]
  refine ⟨⟨named, by rw [session]⟩, ?_, ?_, flows.room, ?_, ?_, ?_, flows.misses.of_kept kept,
    flows.few, flows.ordered, flows.below, flows.numbers, flows.sequence,
    kept.drops.trans flows.drops, ?_, ?_, ?_⟩
  · rw [session]
    exact flows.seat
  · rw [kept.toFramed.named, kept.capacity]
    exact flows.named
  · change generator.buffer.size ≤ (RecordRing.maxPayload after.capacity).toNat
    rw [kept.capacity]
    exact flows.fits
  · rw [delivered, List.append_assoc, ← split]
    exact flows.records
  · rw [delivered]
    exact queues
  · rw [session, kept.capacity]
    exact sized
  · rw [session, delivered]
    exact totals
  · rw [session, delivered]
    exact nobody

/-- The reader takes records from the front of the queue. -/
theorem Flows.handed (flows : Flows number traffic generator channel unread) {time : UInt64}
    {command : Command} {reply : Reply} {after : Channel} {named : Bool} {reader last : Reader}
    (found : traffic.session.readers[number]? = some reader)
    (answer : traffic.session.step (some time) command =
      (reply, { traffic.session with
        now := time
        store := .ring after named
        readers := traffic.session.readers.setIfInBounds number last }))
    (kept : channel.Kept after) {front rest : List Record} (split : unread = front ++ rest)
    (handed : Turn.delivered ⟨time, command, reply⟩ = front)
    (queues : after.Queues (traffic.delivered ++ front) rest)
    (same : last.capacity = reader.capacity) (counted : last = front.foldl Reader.count reader) :
    Flows number (traffic.turn time command) generator after rest := by
  have capacity := flows.sized reader (Array.mem_of_getElem? found)
  have there : number < traffic.session.readers.size := (Array.getElem?_eq_some_iff.mp found).1
  have few : ((traffic.delivered ++ front).map Record.numbers).sum < UInt64.size := by
    have numbers := flows.numbers
    have below := flows.below
    rw [flows.records, split, ← List.append_assoc, List.map_append, List.sum_append] at numbers
    omega
  have totals : last.Totals (traffic.delivered ++ front) := by
    rw [counted]
    exact (flows.totals reader found).foldl few
  refine flows.moved answer kept split handed queues
    (Told.sized_setIfInBounds flows.sized number (same.trans capacity)) ?_ ?_
  · rw [Array.getElem?_setIfInBounds_self_of_lt there]
    intro other is
    rw [← Option.some.inj is]
    exact totals
  · rw [Array.getElem?_setIfInBounds_self_of_lt there]
    exact nofun

/-- Nothing moved, and there are as many readers as before. -/
theorem Flows.unmoved (flows : Flows number traffic generator channel unread) {time : UInt64}
    {command : Command} {reply : Reply} {named : Bool}
    (answer : traffic.session.step (some time) command =
      (reply, { traffic.session with
        now := time
        store := .ring channel named
        readers := traffic.session.readers }))
    (handed : Turn.delivered ⟨time, command, reply⟩ = []) :
    Flows number (traffic.turn time command) generator channel unread := by
  refine flows.moved answer (Channel.Still.refl channel).kept (List.nil_append unread).symm handed
    ?_ flows.sized ?_ ?_
  · rw [List.append_nil]
    exact flows.queues
  · rw [List.append_nil]
    exact flows.totals
  · rw [List.append_nil]
    exact flows.nobody

theorem flows_read (flows : Flows number traffic generator channel unread) (time : UInt64) :
    ∃ after waiting, Flows number (traffic.turn time (.read number)) generator after waiting := by
  obtain ⟨named, store⟩ := flows.store
  cases found : traffic.session.readers[number]? with
  | none =>
      have answer := Session.step_of_missing store found time (Or.inl rfl)
      exact ⟨channel, unread, flows.unmoved answer rfl⟩
  | some reader =>
      have same := flows.sized reader (Array.mem_of_getElem? found)
      have answer := Session.step_read store found time
      have queues := flows.queues
      cases waiting : unread with
      | nil =>
          rw [waiting] at queues
          rw [queues.read_nil] at answer
          have moved : channel.Queues (traffic.delivered ++ []) [] := by
            rw [List.append_nil]
            exact queues
          exact ⟨channel, [], flows.handed found answer (Channel.Still.refl channel).kept waiting rfl
            moved rfl rfl⟩
      | cons record rest =>
          rw [waiting] at queues
          obtain ⟨after, read, moved, kept⟩ := queues.read_cons time same
          rw [read] at answer
          exact ⟨after, rest, flows.handed found answer kept waiting rfl moved
            (reader.capacity_count record) rfl⟩

theorem flows_poll (flows : Flows number traffic generator channel unread) (time : UInt64) :
    ∃ after waiting, Flows number (traffic.turn time (.poll number)) generator after waiting := by
  obtain ⟨named, store⟩ := flows.store
  cases found : traffic.session.readers[number]? with
  | none =>
      have answer := Session.step_of_missing store found time (Or.inr rfl)
      exact ⟨channel, unread, flows.unmoved answer rfl⟩
  | some reader =>
      have same := flows.sized reader (Array.mem_of_getElem? found)
      have answer := Session.step_poll store found time
      obtain ⟨last, after, polled, capacity, drained, kept⟩ := flows.queues.poll time same
      have counted := channel.reader_pollFor time reader (Reader.pollFuel channel.page)
      rw [← Channel.poll, polled] at counted
      rw [polled] at answer
      exact ⟨after, [], flows.handed found answer kept (List.append_nil _).symm rfl drained capacity
        counted⟩

theorem flows_openReader (flows : Flows number traffic generator channel unread) (time : UInt64)
    (view : Option UInt64) (missing : Bool) :
    ∃ after waiting,
      Flows number (traffic.turn time (.openReader view missing)) generator after waiting := by
  obtain ⟨named, store⟩ := flows.store
  obtain ⟨reply, after, readers, answer, nothing, opened⟩ :=
    Session.step_openReader_cases store time view missing
  rcases opened with ⟨rfl, rfl⟩ | ⟨capacity, attached, rfl, rfl⟩
  · exact ⟨after, unread, flows.unmoved answer nothing⟩
  · obtain ⟨length, page, -, found, -, -, rfl⟩ := (RingFile.attach_eq_ok_iff ..).mp attached
    have own : page = channel.page := (Option.some.inj found).symm
    have kept : channel.Kept (channel.log (.attached traffic.session.path page.capacity)) :=
      ((Channel.Still.refl channel).log rfl).kept
    refine ⟨_, unread, flows.moved answer kept (List.nil_append unread).symm nothing ?_ ?_ ?_ ?_⟩
    · exact flows.queues.of_kept kept (by rw [List.append_nil]; exact flows.queues.tail)
    · intro reader member
      rcases Array.mem_push.mp member with old | rfl
      · exact flows.sized reader old
      · exact (congrArg ControlPage.capacity own).trans flows.named
    · -- A reader that comes to be the one that reads has missed nothing.
      rw [List.append_nil, Array.getElem?_push]
      intro reader is
      split at is
      · rename_i last
        rw [flows.nobody (by rw [last]; exact Array.getElem?_size), ← Option.some.inj is]
        exact ⟨rfl, rfl⟩
      · exact flows.totals reader is
    · rw [List.append_nil, Array.getElem?_push]
      intro none
      split at none
      · cases none
      · exact flows.nobody none

theorem flows_turn (flows : Flows number traffic generator channel unread) (time : UInt64)
    {command : Command} (consumes : command.Consumes number) :
    ∃ after waiting, Flows number (traffic.turn time command) generator after waiting := by
  cases consumes with
  | read => exact flows_read flows time
  | poll => exact flows_poll flows time
  | opened view missing => exact flows_openReader flows time view missing

variable {origin : Origin} {plan : RingPlan} {path : String} {now time size : UInt64}
  {view : CreationView} {session ready : Session}

/-- A generator that has not ticked yet, over a ring that is new. -/
theorem flows_of_start (started : Session.start origin plan path now = (.created view, some session))
    (made : session.step (some time) (.makeGenerator size) = (.done, ready)) :
    ∃ generator channel, Flows number { session := ready } generator channel [] := by
  obtain ⟨channel, named, fresh, new⟩ := Session.fresh_of_start started
  have store : session.store = .ring channel named := by rw [new]
  have seat : session.seat = .producer := by rw [new]
  have answer := Session.step_makeGenerator store seat time size
  rw [made] at answer
  cases new
  cases accepted : LoadGenerator.make channel.maxPayload size with
  | error fault =>
      rw [accepted] at answer
      cases answer
  | ok generator =>
      rw [accepted] at answer
      cases answer
      obtain ⟨room, fits, rfl⟩ := LoadGenerator.make_eq_ok_iff.mp accepted
      refine ⟨_, channel, ⟨named, rfl⟩, rfl, ?_, ?_, ?_, rfl, ⟨fresh.holds, ?_, fresh.bound⟩,
        fresh.misses, Nat.zero_lt_succ _, trivial, Nat.zero_lt_succ _, rfl, rfl, ?_, ?_, ?_, fun _ => rfl⟩
      · rw [fresh.page, fresh.capacity]
        rfl
      · rw [Buffer.size_zeros]
        exact room
      · rw [Buffer.size_zeros]
        exact UInt64.le_iff_toNat_le.mp fits
      · rw [fresh.page]
        rfl
      · rw [fresh.tallies]
        rfl
      · intro reader member
        rw [Array.mem_singleton.mp member]
      · intro reader found
        rw [Array.mem_singleton.mp (Array.mem_of_getElem? found)]
        exact ⟨rfl, rfl⟩

theorem flows_of_run (started : Session.start origin plan path now = (.created view, some session))
    (made : session.step (some time) (.makeGenerator size) = (.done, ready))
    (run : Run number ready traffic) :
    ∃ generator channel unread, Flows number traffic generator channel unread := by
  induction run with
  | start =>
      obtain ⟨generator, channel, flows⟩ := flows_of_start started made
      exact ⟨generator, channel, [], flows⟩
  | tick run filled time forward ticks size missed ih =>
      obtain ⟨generator, channel, unread, flows⟩ := ih
      exact flows_tick flows forward ticks size missed
  | turn run time command consumes ih =>
      obtain ⟨generator, channel, unread, flows⟩ := ih
      obtain ⟨after, waiting, next⟩ := flows_turn flows time consumes
      exact ⟨generator, after, waiting, next⟩

/-- The counter of the control page is the length of the episode. -/
theorem Flows.openDrops (flows : Flows number traffic generator channel unread) :
    channel.openDrops = traffic.story.missed := by
  have few := flows.few
  have small : UInt32.size = 4294967296 := rfl
  have large : UInt64.size = 18446744073709551616 := rfl
  unfold Channel.openDrops
  split
  · rename_i dropping
    have some := flows.misses.dropping.mp dropping
    rw [flows.misses.count some, UInt64.toNat_ofNat']
    exact Nat.mod_eq_of_lt (by omega)
  · rename_i closed
    exact (flows.misses.eq_zero (Bool.eq_false_iff.mpr closed)).symm

/-- Every number is accounted for, and a consumer that checks what it is handed has nothing to complain
of. -/
structure Accounted (number : Nat) (traffic : Traffic) (generator : LoadGenerator) (channel : Channel)
    (unread : List Record) : Prop where
  seat : traffic.session.seat = .generator generator
  ring : traffic.session.channel? = some channel
  framed : ∀ record ∈ unread, record.WellFormed
  backlog : channel.region.backlog channel.capacity = Record.stream unread
  /-- From one on, the packets carry the numbers that the summaries before them leave. -/
  ordered : Record.InOrder 1 traffic.delivered
  counted : ∀ reader, traffic.session.readers[number]? = some reader →
    reader.packets.toNat + reader.lost.toNat = Record.due traffic.delivered - 1
  sequence : generator.sequence.toNat = (Record.due traffic.delivered - 1) +
    (unread.map Record.packets).sum + (unread.map Record.lost).sum + channel.openDrops
  drops : ∀ reader, traffic.session.readers[number]? = some reader →
    channel.tallies.drops.toNat =
      reader.lost.toNat + (unread.map Record.lost).sum + channel.openDrops
  bad : (({} : ConsumerTally).takeAll traffic.delivered).2.bad = 0
  silent : ∀ event ∈ (({} : ConsumerTally).takeAll traffic.delivered).1,
    ConsumerTally.isComplaint event = false

/-- Whatever the generator and the reader do in turn, every number stays accounted for. -/
theorem accounted_of_run (started : Session.start origin plan path now = (.created view, some session))
    (made : session.step (some time) (.makeGenerator size) = (.done, ready))
    (run : Run number ready traffic) :
    ∃ generator channel unread, Accounted number traffic generator channel unread := by
  obtain ⟨generator, channel, unread, flows⟩ := flows_of_run started made run
  obtain ⟨named, store⟩ := flows.store
  have below := flows.below
  have episode := flows.openDrops
  have numbers := flows.numbers
  have ordered := flows.ordered
  have drops := flows.drops
  have delivered := Record.sum_numbers traffic.delivered
  have waiting := Record.sum_numbers unread
  rw [flows.records, List.map_append, List.sum_append] at numbers drops
  rw [flows.records, Record.inOrder_append] at ordered
  have due : Record.due traffic.delivered - 1 = (traffic.delivered.map Record.numbers).sum := by
    rw [Record.due, Nat.add_sub_cancel_left]
  have new : ({} : ConsumerTally).Behind 1 := nofun
  obtain ⟨bad, silent⟩ :=
    ConsumerTally.takeAll_of_inOrder traffic.delivered new ordered.1 (by omega)
  refine ⟨generator, channel, unread, flows.seat, ?_, ?_, flows.queues.backlog_eq, ordered.1, ?_, ?_,
    ?_, bad, silent⟩
  · rw [Session.channel?, store]
  · exact fun record member => flows.queues.framed record (List.mem_append_right _ member)
  · intro reader found
    obtain ⟨packets, lost⟩ := flows.totals reader found
    omega
  · rw [flows.sequence, UInt64.toNat_ofNat', Nat.mod_eq_of_lt below, episode, due]
    omega
  · intro reader found
    rw [drops, UInt64.toNat_ofNat', episode, (flows.totals reader found).lost]
    exact Nat.mod_eq_of_lt (by omega : _ < UInt64.size)

/-- The ring takes two packets at first. Two drops are told of by a summary, which is delivered; the
packet behind it is unread, and one payload more was dropped. -/
theorem accounted_within_an_episode :
    ∃ view ready traffic generator channel unread,
      Session.start (.path none) { capacity := 128 } "ring" 0 =
          (.created view, some Session.roomyShared) ∧
        Session.roomyShared.step (some 1) (.makeGenerator 28) = (.done, ready) ∧
        Run 1 ready traffic ∧ traffic.delivered.map Record.numbers = [1, 1, 2] ∧
        traffic.ticks = 6 ∧ Accounted 1 traffic generator channel unread := by
  obtain ⟨view, started⟩ := Session.start_roomyShared
  have made : Session.roomyShared.step (some 1) (.makeGenerator 28) = (.done, _) := rfl
  have first : Run 1 (Session.roomyShared.step (some 1) (.makeGenerator 28)).2 _ := .start
  have run := first
    |>.tick 1 2 (by decide) (by decide) (by decide +kernel) (by decide +kernel)
    |>.tick 3 3 (by decide) (by decide) (by decide +kernel) (by decide +kernel)
    |>.tick 4 4 (by decide) (by decide) (by decide +kernel) (by decide +kernel)
    |>.tick 5 6 (by decide) (by decide) (by decide +kernel) (by decide +kernel)
    |>.turn 7 _ (.opened none false)
    |>.turn 8 _ .poll
    |>.tick 9 10 (by decide) (by decide) (by decide +kernel) (by decide +kernel)
    |>.tick 11 11 (by decide) (by decide) (by decide +kernel) (by decide +kernel)
    |>.turn 12 _ .read
  obtain ⟨generator, channel, unread, accounted⟩ := accounted_of_run started made run
  exact ⟨view, _, _, generator, channel, unread, started, made, run, by decide +kernel,
    by decide, accounted⟩

end Traffic

end RecordRing
