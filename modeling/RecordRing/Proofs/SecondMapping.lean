import RecordRing.Proofs.Fifo
import RecordRing.Proofs.FreshStart
import RecordRing.Proofs.LongestPrefix
import RecordRing.Proofs.SequenceWalk

set_option autoImplicit false

namespace RecordRing

namespace Reader

variable {reader other : Reader}

theorem take_of_capacity_eq (same : other.capacity = reader.capacity) (region : Region) :
    ∃ counted, other.take region = ((reader.take region).1, counted, (reader.take region).2.2) ∧
      counted.capacity = (reader.take region).2.1.capacity := by
  by_cases found : ∃ record, region.recordAtTail reader.capacity = .record record
  · obtain ⟨record, look⟩ := found
    have lookToo : region.recordAtTail other.capacity = .record record := by
      rw [same]
      exact look
    rw [take_of_record look, take_of_record lookToo]
    refine ⟨_, rfl, ?_⟩
    rw [capacity_count, capacity_count, same]
  · have none := not_exists.mp found
    have noneToo : ∀ record, region.recordAtTail other.capacity ≠ .record record := by
      rw [same]
      exact none
    rw [take_of_not_record none, take_of_not_record noneToo, same]
    exact ⟨_, rfl, same⟩

theorem pollFor_of_capacity_eq (same : other.capacity = reader.capacity) (region : Region) (fuel : Nat) :
    ∃ counted, other.pollFor region fuel =
        ((reader.pollFor region fuel).1, (reader.pollFor region fuel).2.1, counted,
          (reader.pollFor region fuel).2.2.2) ∧
      counted.capacity = reader.capacity := by
  induction fuel generalizing reader other region with
  | zero => exact ⟨other, rfl, same⟩
  | succ fuel ih =>
      obtain ⟨counted, taken, alike⟩ := take_of_capacity_eq same region
      have kept := reader.capacity_take region
      rw [pollFor, pollFor, taken]
      generalize reader.take region = found at alike kept ⊢
      obtain ⟨outcome, next, rest⟩ := found
      dsimp only at alike kept
      cases outcome with
      | record record =>
          obtain ⟨last, polled, capacity⟩ := ih alike rest
          dsimp only
          rw [polled]
          exact ⟨last, rfl, capacity.trans kept⟩
      | nothing => exact ⟨counted, rfl, alike.trans kept⟩
      | corrupted place => exact ⟨counted, rfl, alike.trans kept⟩
      | overrun => exact ⟨counted, rfl, alike.trans kept⟩

end Reader

/-- A way to ask a reader for records. -/
inductive Look where
  | one
  | all

namespace Look

def command : Look → Nat → Command
  | one, number => .read number
  | all, number => .poll number

def find (look : Look) (capacity : UInt64) (region : Region) : Reply × Region :=
  let reader : Reader := { capacity, inProcess := false }
  match look with
  | one => (.read (reader.take region).1, (reader.take region).2.2)
  | all => (.polled (reader.poll region).1 (reader.poll region).2.1, (reader.poll region).2.2.2)

def findEach (capacity : UInt64) (region : Region) : List Look → List Reply
  | [] => []
  | look :: rest =>
      let (reply, after) := look.find capacity region
      reply :: findEach capacity after rest

end Look

namespace Session

def looks (session : Session) (number : Nat) : List (UInt64 × Look) → List Reply
  | [] => []
  | (time, look) :: rest =>
      let (reply, after) := session.step (some time) (look.command number)
      reply :: after.looks number rest

/-- Under its number stands a reader for a ring of that capacity, which is the region; and whoever is
notified leaves it alone. -/
structure Sees (session : Session) (number : Nat) (capacity : UInt64) (region : Region) : Prop where
  store : ∃ channel named, session.store = .ring channel named ∧ channel.region = region ∧
    channel.Passive
  reader : ∃ reader, session.readers[number]? = some reader ∧ reader.capacity = capacity

variable {session : Session} {number : Nat} {capacity : UInt64} {region : Region}

theorem getElem?_setIfInBounds_of_found {readers : Array Reader} {reader : Reader}
    (found : readers[number]? = some reader) (last : Reader) :
    (readers.setIfInBounds number last)[number]? = some last := by
  obtain ⟨there, -⟩ := Array.getElem?_eq_some_iff.mp found
  rw [Array.getElem?_setIfInBounds, if_pos rfl, if_pos there]

/-- A look through a reader, in the process of the producer or not, is told by the region alone. -/
theorem sees_look (sees : session.Sees number capacity region) (time : UInt64) (look : Look) :
    (session.step (some time) (look.command number)).1 = (look.find capacity region).1 ∧
      (session.step (some time) (look.command number)).2.Sees number capacity
        (look.find capacity region).2 := by
  obtain ⟨⟨channel, named, store, rfl, passive⟩, reader, found, rfl⟩ := sees
  have capacity : reader.capacity =
      ({ capacity := reader.capacity, inProcess := false } : Reader).capacity := rfl
  cases look with
  | one =>
      obtain ⟨after, answer, moved, bound⟩ := Channel.read_of_passive passive time reader
      obtain ⟨counted, taken, alike⟩ := Reader.take_of_capacity_eq capacity channel.region
      rw [taken] at answer moved
      have step := step_read store found time
      rw [answer] at step
      rw [Look.command, step]
      exact ⟨rfl, ⟨after, named, rfl, moved, passive.of_bound bound⟩, counted,
        getElem?_setIfInBounds_of_found found counted, alike.trans (Reader.capacity_take ..)⟩
  | all =>
      obtain ⟨after, answer, moved⟩ :=
        Channel.pollFor_of_passive passive time reader (Reader.pollFuel channel.page)
      obtain ⟨counted, polled, alike⟩ := Reader.pollFor_of_capacity_eq capacity channel.region
        (Reader.pollFuel channel.page)
      have bound := (channel.settles_poll time reader).bound
      rw [polled] at answer moved
      have step := step_poll store found time
      rw [Channel.poll, answer] at step
      rw [Channel.poll, answer] at bound
      rw [Look.command, step]
      exact ⟨rfl, ⟨after, named, rfl, moved, passive.of_bound bound⟩, counted,
        getElem?_setIfInBounds_of_found found counted, alike⟩

/-- So whatever times they are asked at, two readers that see the same region find the same records. -/
theorem looks_eq (sees : session.Sees number capacity region) (asks : List (UInt64 × Look)) :
    session.looks number asks = Look.findEach capacity region (asks.map Prod.snd) := by
  induction asks generalizing session region with
  | nil => rfl
  | cons ask asks ih =>
      obtain ⟨time, look⟩ := ask
      obtain ⟨answer, after⟩ := sees_look sees time look
      rw [List.map_cons, looks, Look.findEach]
      dsimp only
      rw [answer, ih after]

end Session

theorem Reader.blank_foldl_count (reader : Reader) (records : List Record) :
    (records.foldl count reader).blank = reader.blank := by
  induction records generalizing reader with
  | nil => rfl
  | cons record records ih => exact (ih (reader.count record)).trans (reader.blank_count record)

namespace Channel

theorem blank_read (channel : Channel) (now : UInt64) (reader : Reader) :
    (channel.read now reader).2.1.blank = reader.blank := by
  rw [reader_read]
  split
  · exact reader.blank_count _
  · rfl

theorem blank_poll (channel : Channel) (now : UInt64) (reader : Reader) :
    (channel.poll now reader).2.2.1.blank = reader.blank := by
  rw [poll, reader_pollFor]
  exact Reader.blank_foldl_count ..

end Channel

/-- The readers that were there are there under their numbers, but for what they have counted; and one
may have come that attached to a ring of that capacity. -/
inductive Joined (capacity : UInt64) (before after : Array Reader) : Prop
  | none (alike : after.map Reader.blank = before.map Reader.blank)
  | one (pushed : after = before.push { capacity, inProcess := false })

structure Hosts (capacity : UInt64) (readers : Array Reader) : Prop where
  first : ∃ reader, readers[0]? = some reader ∧ reader.inProcess = true
  sized : ∀ reader ∈ readers, reader.capacity = capacity

theorem Hosts.of_joined {capacity : UInt64} {before after : Array Reader}
    (hosts : Hosts capacity before) (joined : Joined capacity before after) : Hosts capacity after := by
  obtain ⟨⟨reader, found, inProcess⟩, sized⟩ := hosts
  cases joined with
  | none alike =>
      constructor
      · rcases Session.reader_of_alike alike 0 with ⟨missing, -⟩ | ⟨_, later, there, here, blank⟩
        · rw [found] at missing
          cases missing
        · rw [found] at there
          cases there
          exact ⟨later, here, (Reader.of_blank_eq blank).2.trans inProcess⟩
      · intro later member
        obtain ⟨number, here⟩ := Array.mem_iff_getElem?.mp member
        rcases Session.reader_of_alike alike number with ⟨-, missing⟩ | ⟨old, _, there, same, blank⟩
        · rw [here] at missing
          cases missing
        · rw [here] at same
          cases same
          have capacity := (Reader.of_blank_eq blank).1
          exact capacity.trans (sized old (Array.mem_of_getElem? there))
  | one pushed =>
      subst pushed
      constructor
      · refine ⟨reader, ?_, inProcess⟩
        obtain ⟨there, -⟩ := Array.getElem?_eq_some_iff.mp found
        rw [Array.getElem?_push_lt there, ← found, Array.getElem?_eq_getElem]
      · intro later member
        rcases Array.mem_push.mp member with old | rfl
        · exact sized later old
        · rfl

namespace Session

variable {session : Session} {channel : Channel} {named : Bool}

/-- No ordinary command takes a reader away; one that attaches has found the capacity in the page. -/
theorem joined_step (store : session.store = .ring channel named) (seat : session.seat = .producer)
    (time : UInt64) {command : Command} (ordinary : command.Ordinary) :
    Joined channel.page.capacity session.readers (session.step (some time) command).2.readers := by
  have same : Joined channel.page.capacity session.readers session.readers := .none rfl
  cases ordinary with
  | push payload =>
      rw [step_push store seat]
      exact same
  | reset =>
      rw [step_reset store]
      exact same
  | bind binding =>
      obtain ⟨path, now, _, readers, _⟩ := session
      cases store
      cases binding <;> exact same
  | quiet still =>
      cases command with
      | read number =>
          cases found : session.readers[number]? with
          | none =>
              rw [step_of_missing store found time (.inl rfl)]
              exact same
          | some reader =>
              rw [step_read store found]
              exact .none (map_blank_setIfInBounds found (channel.blank_read time reader))
      | poll number =>
          cases found : session.readers[number]? with
          | none =>
              rw [step_of_missing store found time (.inr rfl)]
              exact same
          | some reader =>
              rw [step_poll store found]
              exact .none (map_blank_setIfInBounds found (channel.blank_poll time reader))
      | openReader view missing =>
          obtain ⟨reply, after, readers, answer, -, joins⟩ :=
            step_openReader_cases store time view missing
          rw [answer]
          rcases joins with ⟨-, rfl⟩ | ⟨capacity, attached, -, rfl⟩
          · exact same
          · obtain ⟨length, page, -, found, -, -, rfl⟩ := (RingFile.attach_eq_ok_iff ..).mp attached
            cases found
            exact .one rfl
      | advanceTail position =>
          rw [step_advanceTail store]
          exact same
      | setWatermarks hi lo =>
          rw [step_setWatermarks store]
          exact same
      | setRate rate =>
          rw [step_setRate store]
          exact same
      | _ => cases still

end Session

def Binding.IsPassive : Binding → Prop
  | counting .drain | counting .reset => False
  | _ => True

/-- What handles ask for while nobody who is notified has a hand in the ring. -/
structure Command.Gentle (command : Command) : Prop where
  ordinary : command.Ordinary
  passive : ∀ binding, command = .bind binding → binding.IsPassive

theorem Session.passive_bind {session : Session} {channel : Channel} {named : Bool}
    (store : session.store = .ring channel named) (time : UInt64) {binding : Binding}
    (passive : binding.IsPassive) :
    ∃ after, (session.step (some time) (.bind binding)).2.store = .ring after named ∧ after.Passive := by
  obtain ⟨path, now, _, readers, seat⟩ := session
  cases store
  have binds (ready : Channel) (notifier : Option Notifier)
      (passive : ∀ made, notifier = some made → made.IsPassive) :
      (ready.bindNotifier time notifier).2.Passive := by
    intro made bound
    have settles := ready.settles_bindNotifier time notifier
    rw [settles.bound] at bound
    exact passive made bound
  cases binding with
  | nothing => exact ⟨_, rfl, binds channel none nofun⟩
  | counting reaction =>
      refine ⟨_, rfl, binds _ _ ?_⟩
      intro made same
      cases same
      cases reaction <;> exact passive
  | target target =>
      refine ⟨_, rfl, binds _ _ ?_⟩
      intro made same
      cases same
      trivial

/-- What is seen through a second mapping of the file behind a session's ring, whoever reads beside it. -/
structure Session.Maps (session : Session) (channel : Channel) (time : UInt64) : Prop where
  /-- The file is as long as its ring needs, and no word is too short for that length. -/
  size : session.file?.map RingFile.size = some (controlPageSize.toNat + channel.capacity.toNat)
  length : (bytesForRing channel.capacity).toNat = controlPageSize.toNat + channel.capacity.toNat
  opens : (session.step (some time) (.openReader none false)).1 = .opened session.readers.size
  shows : (session.step (some time) (.openReader none false)).2.describeReader session.readers.size =
    .reader
      { page := channel.page
        reader := { capacity := channel.capacity, inProcess := false }
        ready := channel.isReady }
  host : ∃ reader, session.readers[0]? = some reader ∧ reader.inProcess = true
  /-- Looks find just the records that any other reader would have found. -/
  finds : ∀ number < session.readers.size, ∀ asks,
    (session.step (some time) (.openReader none false)).2.looks session.readers.size asks =
      session.looks number asks
  /-- A view of the whole length is as good, and no other is granted. -/
  whole : ∀ view, view = bytesForRing channel.capacity →
    session.step (some time) (.openReader (some view) false) =
      session.step (some time) (.openReader none false)
  long : ∀ view, bytesForRing channel.capacity < view →
    session.step (some time) (.openReader (some view) false) =
      (.refused (.viewTooLarge view (bytesForRing channel.capacity)), { session with now := time })
  short : ∀ view, view < bytesForRing channel.capacity →
    session.step (some time) (.openReader (some view) false) =
      (.refused (.viewTooSmall view
        (if view < controlPageSize then controlPageSize else bytesForRing channel.capacity)),
        { session with now := time })

/-- A ring with passive notifiers that fills its file, and readers of its capacity: that is all there
need be for a second mapping. -/
theorem Session.maps_of_filled {session : Session} {channel : Channel}
    (store : session.store = .ring channel true) (filled : channel.region.Filled channel.capacity)
    (passive : channel.Passive) (hosts : Hosts channel.capacity session.readers) (time : UInt64) :
    session.Maps channel time := by
  have attached := RingFile.attach_whole filled
  have opened := step_openReader store attached time
  have newest : (session.readers.push { capacity := channel.capacity, inProcess := false })[
      session.readers.size]? = some { capacity := channel.capacity, inProcess := false } :=
    Array.getElem?_push_size
  constructor
  case size =>
    rw [file?, store]
    exact congrArg some filled.size
  case length => exact toNat_bytesForRing filled.power
  case opens => rw [opened]
  case shows =>
    rw [opened, describeReader]
    simp only [newest]
    rfl
  case host => exact hosts.first
  case finds =>
    intro number there asks
    have found := Array.getElem?_eq_getElem there
    have sized := hosts.sized _ (Array.mem_of_getElem? found)
    have here : session.Sees number channel.capacity channel.region :=
      ⟨⟨channel, true, store, rfl, passive⟩, _, found, sized⟩
    have beside : (session.step (some time) (.openReader none false)).2.Sees session.readers.size
        channel.capacity channel.region := by
      rw [opened]
      exact ⟨⟨_, true, rfl, rfl, passive⟩, _, newest, rfl⟩
    rw [looks_eq here, looks_eq beside]
  case whole =>
    intro view same
    rw [opened]
    exact step_openReader store ((RingFile.attach_view filled view).1 same) time
  case long =>
    intro view more
    exact step_openReader_refused store ((RingFile.attach_view filled view).2.1 more) time
  case short =>
    intro view less
    exact step_openReader_refused store ((RingFile.attach_view filled view).2.2 less) time

namespace Told

variable {told : Told} {channel : Channel} {plan : RingPlan}

/-- The session has a ring in a file, made after the plan, and readers of its capacity; nobody who is
notified has a hand in it, and the story is true of it. -/
structure Shares (told : Told) (channel : Channel) (plan : RingPlan) : Prop
    extends Sound told channel where
  named : told.session.store = .ring channel true
  made : ∃ made, Channel.Fresh plan made ∧ made.Framed channel
  passive : channel.Passive
  hosts : Hosts channel.capacity told.session.readers

theorem Shares.capacity (shares : Shares told channel plan) : channel.capacity = plan.capacity := by
  obtain ⟨made, fresh, framed⟩ := shares.made
  exact framed.capacity.trans fresh.capacity

theorem Shares.filled (shares : Shares told channel plan) :
    channel.region.Filled channel.capacity := by
  obtain ⟨made, fresh, framed⟩ := shares.made
  exact Channel.filled_of_framed fresh framed shares.tells.holds

theorem shares_step (shares : Shares told channel plan) (time : UInt64) {command : Command}
    (gentle : command.Gentle) (bound : (told.step time command).2.story.size < UInt64.size) :
    ∃ after, Shares (told.step time command).2 after plan := by
  obtain ⟨after, sound, -, acts, framed, -, -⟩ :=
    sound_step shares.toSound time gentle.ordinary bound
  have stamped : ({ told.session with now := time } : Session).store = .ring channel true :=
    shares.named
  obtain ⟨other, named, -⟩ := Session.acts_perform stamped shares.seat gentle.ordinary
  obtain rfl := sound.channel_eq named
  obtain ⟨made, fresh, frame⟩ := shares.made
  have joined := Session.joined_step shares.named shares.seat time gentle.ordinary
  have page : channel.page.capacity = channel.capacity := shares.filled.named
  rw [page] at joined
  refine ⟨after, ⟨sound, named, ⟨made, fresh, frame.trans framed⟩, ?_, ?_⟩⟩
  · by_cases binds : ∃ binding, command = .bind binding
    · obtain ⟨binding, rfl⟩ := binds
      obtain ⟨bound, there, passive⟩ :=
        Session.passive_bind shares.named time (gentle.passive binding rfl)
      obtain rfl := sound.channel_eq there
      exact passive
    · have same := Channel.bound_of_acts shares.tells acts (not_exists.mp binds)
      exact shares.passive.of_bound same
  · rw [framed.capacity]
    exact shares.hosts.of_joined joined

variable {path : String} {found : Option Buffer} {now : UInt64} {view : CreationView}
  {session : Session}

theorem shares_of_start
    (started : Session.start (.path found) plan path now = (.created view, some session)) :
    ∃ channel, Shares ⟨session, {}⟩ channel plan := by
  cases built : Channel.create path found plan with
  | error fault =>
      simp only [Session.start, built] at started
      cases started
  | ok channel =>
      simp only [Session.start, built] at started
      cases started
      obtain ⟨valid, -, rfl⟩ := (Channel.create_eq_ok_iff ..).mp built
      have fresh := Channel.fresh_made valid (.ringCreated path plan.capacity)
      refine ⟨_, ⟨⟨⟨true, rfl⟩, rfl, fresh.holds, fresh.misses⟩, rfl,
        ⟨_, fresh, (Channel.Still.refl _).framed⟩, .of_unbound fresh.bound, ?_⟩⟩
      refine ⟨⟨_, rfl, rfl⟩, ?_⟩
      intro reader member
      rw [Array.mem_singleton.mp member]

theorem shares_of_run
    (started : Session.start (.path found) plan path now = (.created view, some session))
    {turns : List Turn} {told : Told}
    (run : Run (fun _ _ command => command.Gentle) session turns told) :
    ∃ channel, Shares told channel plan := by
  induction run with
  | start => exact shares_of_start started
  | step run time command gentle bound ih =>
      obtain ⟨channel, shares⟩ := ih
      exact shares_step shares time gentle bound

/-- Whatever was in the file and whatever has been done to the ring, its file can be attached to, through
a view of its length and no other, and there is to be seen in it what the ring shows its own reader. -/
theorem maps_of_run
    (started : Session.start (.path found) plan path now = (.created view, some session))
    {turns : List Turn} {told : Told}
    (run : Run (fun _ _ command => command.Gentle) session turns told) (time : UInt64) :
    ∃ channel, told.session.channel? = some channel ∧ channel.capacity = plan.capacity ∧
      told.session.Maps channel time := by
  obtain ⟨channel, shares⟩ := shares_of_run started run
  refine ⟨channel, shares.toSound.channel?_eq, shares.capacity, ?_⟩
  exact Session.maps_of_filled shares.named shares.filled shares.passive shares.hosts time

/-- In a file that was no ring, with other watermarks, and with the tail in the midst of a record. -/
theorem maps_within_a_record :
    ∃ view session turns told channel,
      Session.start (.path (some (.ofBytes [1, 2, 3]))) { capacity := 64 } "ring" 0 =
        (.created view, some session) ∧
      Run (fun _ _ command => command.Gentle) session turns told ∧
      told.session.channel? = some channel ∧ channel.capacity = 64 ∧
      channel.page.tail = 5 ∧ channel.page.hi = 20 ∧ told.session.Maps channel 9 := by
  have valid : ({ capacity := 64 } : RingPlan).validate = .ok () := rfl
  obtain ⟨view, started⟩ := Session.start_of_create valid rfl "ring" (some (.ofBytes [1, 2, 3])) 0
  have first : Run (fun _ _ command => command.Gentle)
      (Session.begun "ring" 0 { capacity := 64 } (.ringCreated "ring" 64) true) [] ⟨_, {}⟩ := .start
  have run := first
    |>.step 1 (.push [7] 1) ⟨.push [7], nofun⟩ (by decide +kernel)
    |>.step 2 (.setWatermarks 20 10) ⟨.quiet rfl, nofun⟩ (by decide +kernel)
    |>.step 3 (.advanceTail 5) ⟨.quiet rfl, nofun⟩ (by decide +kernel)
  obtain ⟨channel, there, capacity, maps⟩ := maps_of_run started run 9
  have tail : (some channel).map (·.page.tail) = some 5 := by
    rw [← there]
    decide +kernel
  have hi : (some channel).map (·.page.hi) = some 20 := by
    rw [← there]
    decide +kernel
  exact ⟨view, _, _, _, channel, started, run, there, capacity, Option.some.inj tail,
    Option.some.inj hi, maps⟩

end Told

end RecordRing
