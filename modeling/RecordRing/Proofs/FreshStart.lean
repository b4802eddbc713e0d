import RecordRing.Proofs.Fifo
import RecordRing.Proofs.FillSteps
import RecordRing.Proofs.StaleBytes

set_option autoImplicit false

namespace RecordRing

/-- Commands of the handles of a ring: none of them looks at raw memory or has a hand in it, and no
generator takes the producer. -/
def Command.isHandled : Command → Bool
  | peek .. | poke .. | setFields _ => false
  | makeGenerator _ | endGenerator | tick _ | interval | run .. => false
  | _ => true

def Reply.blank : Reply → Reply
  | reader view => reader { view with reader := view.reader.blank }
  | other => other

namespace Session

def around (path : String) (now : UInt64) (named : Bool) (readers : Array Reader) (channel : Channel) :
    Session :=
  { path, now, store := .ring channel named, readers }

/-- All there is to see of a session but the bytes of the data ring and what the readers have counted. -/
def blank (session : Session) : Session :=
  { session with
    store := match session.store with
      | .ring channel named => .ring (channel.withData (.zeros 0)) named
      | .file held trace => .file held trace
    readers := session.readers.map Reader.blank }

/-- What there is to see while commands are carried out one after another: each answer, and the session
behind it. -/
def watch (session : Session) : List (UInt64 × Command) → List (Reply × Session)
  | [] => []
  | (time, command) :: rest =>
      let (reply, after) := session.step (some time) command
      (reply.blank, after.blank) :: after.watch rest

/-- Two sessions with one ring between them, but for the bytes of the data ring that nobody is going to
read and for what the readers have counted. -/
inductive Twins (path : String) (named : Bool) (channel : Channel) : Session → Session → Prop
  | both (now : UInt64) (readers others : Array Reader) (data : Buffer)
      (unread : channel.SameUnread data) (idle : channel.Idle)
      (fits : channel.page.capacity = channel.capacity)
      (alike : others.map Reader.blank = readers.map Reader.blank)
      (sized : ∀ reader ∈ readers, reader.capacity = channel.capacity) :
      Twins path named channel (around path now named readers channel)
        (around path now named others (channel.withData data))

variable {path : String} {named : Bool} {channel : Channel} {left right : Session}

theorem Twins.blank_eq (twins : Twins path named channel left right) : right.blank = left.blank := by
  cases twins with
  | both now readers others data unread idle fits alike sized =>
      simp only [blank, Session.around, alike]
      rfl

theorem Twins.eq_around (twins : Twins path named channel left right) :
    ∃ now readers, left = around path now named readers channel ∧ channel.Idle ∧
      ∀ reader ∈ readers, reader.capacity = channel.capacity := by
  cases twins with
  | both now readers others data unread idle fits alike sized =>
      exact ⟨now, readers, rfl, idle, sized⟩

structure Together (path : String) (named : Bool) (channel : Channel) (left right : Session)
    (time : UInt64) (command : Command) (after : Channel) : Prop where
  twins : Twins path named after (left.step (some time) command).2
    (right.step (some time) command).2
  framed : channel.Framed after
  answer : (right.step (some time) command).1.blank = (left.step (some time) command).1.blank

/-- A command that does something blind to the ring keeps twins together. -/
theorem together_of_blind (twins : Twins path named channel left right) {time : UInt64}
    {command : Command} {act : Channel → Reply × Channel} (blind : Channel.Blind act)
    (performs : ∀ (now : UInt64) (readers : Array Reader) (channel : Channel),
      (around path now named readers channel).step (some time) command =
        ((act channel).1, around path time named readers (act channel).2)) :
    ∃ after, Together path named channel left right time command after := by
  cases twins with
  | both now readers others data unread idle fits alike sized =>
      obtain ⟨other, same, unreadAfter⟩ := blind.alike unread
      have framed := blind.framed channel unread.power
      refine ⟨(act channel).2, ?_, framed, ?_⟩
      · rw [performs, performs, same]
        refine .both time readers others other unreadAfter (blind.idle channel idle) ?_ alike ?_
        · rw [framed.named, framed.capacity]
          exact fits
        · rw [framed.capacity]
          exact sized
      · rw [performs, performs, same]

/-- A reader that has gone on is the same but for its totals. -/
theorem map_blank_setIfInBounds {readers : Array Reader} {number : Nat} {reader last : Reader}
    (found : readers[number]? = some reader) (same : last.blank = reader.blank) :
    (readers.setIfInBounds number last).map Reader.blank = readers.map Reader.blank := by
  apply Array.ext_getElem?
  intro index
  rw [Array.getElem?_map, Array.getElem?_map, Array.getElem?_setIfInBounds]
  split
  · rename_i here
    rw [← here, found]
    split
    · exact congrArg some same
    · rename_i outside
      rw [Array.getElem?_eq_none (Nat.not_lt.mp outside)] at found
      cases found
  · rfl

/-- Twins hold their readers under the same numbers. -/
theorem reader_of_alike {readers others : Array Reader}
    (alike : others.map Reader.blank = readers.map Reader.blank) (number : Nat) :
    (readers[number]? = none ∧ others[number]? = none) ∨
      ∃ reader other, readers[number]? = some reader ∧ others[number]? = some other ∧
        other.blank = reader.blank := by
  have same : others[number]?.map Reader.blank = readers[number]?.map Reader.blank := by
    rw [← Array.getElem?_map, ← Array.getElem?_map, alike]
  cases found : readers[number]? with
  | none =>
      rw [found, Option.map_none, Option.map_eq_none_iff] at same
      exact Or.inl ⟨rfl, same⟩
  | some reader =>
      rw [found, Option.map_some, Option.map_eq_some_iff] at same
      obtain ⟨other, there, blank⟩ := same
      exact Or.inr ⟨reader, other, rfl, there, blank⟩

/-- A command to a reader keeps twins together, whether the reader is there or not. -/
theorem together_of_reading (twins : Twins path named channel left right) {time : UInt64} {number : Nat}
    {command : Command} (reading : command = .read number ∨ command = .poll number) {α : Type}
    {act : Channel → Reader → α × Reader × Channel} (blind : Channel.BlindReading act)
    (reply : α → Reply)
    (performs : ∀ (now : UInt64) (readers : Array Reader) (channel : Channel) (reader : Reader),
      readers[number]? = some reader →
        (around path now named readers channel).step (some time) command =
          (reply (act channel reader).1,
            around path time named (readers.setIfInBounds number (act channel reader).2.1)
              (act channel reader).2.2)) :
    ∃ after, Together path named channel left right time command after := by
  cases twins with
  | both now readers others data unread idle fits alike sized =>
      rcases reader_of_alike alike number with ⟨missing, missingOther⟩ |
        ⟨reader, other, found, foundOther, same⟩
      · have answer := @step_of_missing (around path now named readers channel) channel named number rfl
          missing time command reading
        have answerOther := @step_of_missing (around path now named others (channel.withData data))
          (channel.withData data) named number rfl missingOther time command reading
        refine ⟨channel, ?_, (Channel.Still.refl channel).framed, ?_⟩
        · rw [answer, answerOther]
          exact .both time readers others data unread idle fits alike sized
        · rw [answer, answerOther]
      · have capacity := sized reader (Array.mem_of_getElem? found)
        obtain ⟨counted, answer, blankOther, blank⟩ := blind.alike unread capacity same
        have narrows := blind.narrows channel reader
        refine ⟨(act channel reader).2.2, ?_, narrows.toFramed, ?_⟩
        · rw [performs now readers channel reader found, performs now others _ other foundOther, answer]
          refine .both time _ _ data (unread.of_narrows narrows) (blind.idle channel reader idle)
            ?_ ?_ ?_
          · rw [narrows.named, narrows.capacity]
            exact fits
          · rw [map_blank_setIfInBounds found blank, ← alike]
            exact map_blank_setIfInBounds foundOther (blankOther.trans same.symm)
          · rw [narrows.capacity]
            exact Told.sized_setIfInBounds sized number
              ((Reader.of_blank_eq blank).1.trans capacity)
        · rw [performs now readers channel reader found, performs now others _ other foundOther, answer]

theorem together_read (twins : Twins path named channel left right) (time : UInt64) (number : Nat) :
    ∃ after, Together path named channel left right time (.read number) after :=
  together_of_reading twins (.inl rfl) (Channel.blindReading_read time) .read
    fun now readers channel _ found =>
      @step_read (around path now named readers channel) channel named number _ rfl found time

theorem together_poll (twins : Twins path named channel left right) (time : UInt64) (number : Nat) :
    ∃ after, Together path named channel left right time (.poll number) after :=
  together_of_reading twins (.inr rfl) (Channel.blindReading_poll time)
    (fun answer => .polled answer.1 answer.2) fun now readers channel _ found =>
      @step_poll (around path now named readers channel) channel named number _ rfl found time

/-- A command that only answers, and answers alike, leaves twins as they are. -/
theorem together_of_answer (twins : Twins path named channel left right) {time : UInt64}
    {command : Command}
    (answers : ∀ (now : UInt64) (readers others : Array Reader) (data : Buffer),
      channel.SameUnread data → others.map Reader.blank = readers.map Reader.blank →
        ∃ reply other, other.blank = reply.blank ∧
          (around path now named readers channel).step (some time) command =
            (reply, around path time named readers channel) ∧
          (around path now named others (channel.withData data)).step (some time) command =
            (other, around path time named others (channel.withData data))) :
    ∃ after, Together path named channel left right time command after := by
  cases twins with
  | both now readers others data unread idle fits alike sized =>
      obtain ⟨reply, other, same, answer, answerOther⟩ := answers now readers others data unread alike
      refine ⟨channel, ?_, (Channel.Still.refl channel).framed, ?_⟩
      · rw [answer, answerOther]
        exact .both time readers others data unread idle fits alike sized
      · rw [answer, answerOther]
        exact same

/-- What a reader tells of itself is told alike, but for what it has counted. -/
theorem together_reader (twins : Twins path named channel left right) (time : UInt64) (number : Nat) :
    ∃ after, Together path named channel left right time (.reader number) after := by
  refine together_of_answer twins fun now readers others data _ alike => ⟨_, _, ?_, rfl, rfl⟩
  change (describeReader (around path time named others (channel.withData data)) number).blank =
    (describeReader (around path time named readers channel) number).blank
  rcases reader_of_alike alike number with ⟨missing, missingOther⟩ |
    ⟨reader, other, found, foundOther, same⟩
  · simp only [describeReader, around, missing, missingOther]
  · obtain ⟨capacity, inProcess⟩ := Reader.of_blank_eq same
    simp only [describeReader, around, found, foundOther, Reply.blank, same, Reader.isReady, capacity]
    rfl

/-- Attaching checks the page and the length of the file, and no byte of the data. -/
theorem attach_withData {data : Buffer} (unread : channel.SameUnread data) (view : Option UInt64) :
    (RingFile.whole (channel.withData data).region).attach view =
      (RingFile.whole channel.region).attach view := by
  have size : (RingFile.whole (channel.withData data).region).size =
      (RingFile.whole channel.region).size :=
    congrArg (ControlPage.size + channel.region.padding.size + ·) unread.size
  rw [RingFile.attach, RingFile.attach, size]
  rfl

theorem together_attached (twins : Twins path true channel left right) {view : Option UInt64}
    {capacity : UInt64} (attached : (RingFile.whole channel.region).attach view = .ok capacity)
    (time : UInt64) :
    ∃ after, Together path true channel left right time (.openReader view false) after := by
  cases twins with
  | both now readers others data unread idle fits alike sized =>
      have logged := (Channel.Still.refl channel).log
        (show (Effect.logged (.attached path capacity)).isNotable = false from rfl)
      have granted : capacity = channel.capacity := by
        obtain ⟨length, page, -, found, -, -, same⟩ := (RingFile.attach_eq_ok_iff ..).mp attached
        cases found
        exact same.symm.trans fits
      have attachedOther := (attach_withData unread view).trans attached
      have answer : (around path now true readers channel).step (some time) (.openReader view false) =
          (.opened readers.size, around path time true
            (readers.push { capacity, inProcess := false }) (channel.log (.attached path capacity))) :=
        @step_openReader (around path now true readers channel) channel rfl view capacity attached time
      have answerOther : (around path now true others (channel.withData data)).step (some time)
          (.openReader view false) =
          (.opened others.size, around path time true (others.push { capacity, inProcess := false })
            ((channel.log (.attached path capacity)).withData data)) :=
        @step_openReader (around path now true others (channel.withData data)) _ rfl view capacity
          attachedOther time
      have size : others.size = readers.size := by
        have sizes := congrArg Array.size alike
        rwa [Array.size_map, Array.size_map] at sizes
      refine ⟨channel.log (.attached path capacity), ?_, logged.framed, ?_⟩
      · rw [answer, answerOther]
        refine .both time _ _ data (unread.of_narrows logged.narrows) idle fits ?_ ?_
        · rw [Array.map_push, Array.map_push, alike]
        · intro reader member
          rcases Array.mem_push.mp member with old | rfl
          · exact sized reader old
          · exact granted
      · rw [answer, answerOther, size]

/-- Who attaches is logged, and joins the readers of either session. -/
theorem together_openReader (twins : Twins path named channel left right) (time : UInt64)
    (view : Option UInt64) (missing : Bool) :
    ∃ after, Together path named channel left right time (.openReader view missing) after := by
  cases missing with
  | true => exact together_of_answer twins fun _ _ _ _ _ _ => ⟨_, _, rfl, rfl, rfl⟩
  | false =>
      cases named with
      | false => exact together_of_answer twins fun _ _ _ _ _ _ => ⟨_, _, rfl, rfl, rfl⟩
      | true =>
          cases attached : (RingFile.whole channel.region).attach view with
          | error fault =>
              refine together_of_answer twins fun now readers others data unread _ =>
                ⟨.refused fault, .refused fault, rfl, ?_, ?_⟩
              · exact @step_openReader_refused (around path now true readers channel) channel rfl view
                  fault attached time
              · exact @step_openReader_refused (around path now true others (channel.withData data)) _
                  rfl view fault ((attach_withData unread view).trans attached) time
          | ok capacity => exact together_attached twins attached time

theorem blind_drainBell (number : Nat) :
    Channel.Blind fun channel =>
      match channel.bells[number]? with
      | none => (Reply.noSuchHandle, channel)
      | some target =>
          match target.drain with
          | .ok (count, after) =>
              (.drained count, { channel with bells := channel.bells.setIfInBounds number after })
          | .error error => (.refused (.failure (.system error)), channel) := by
  refine .of_narrows (fun channel data => ?_) (fun channel => ?_) (fun channel idle => ?_)
  · dsimp only [Channel.withData]
    split
    · rfl
    · split <;> rfl
  · split
    · exact (Channel.Still.refl channel).narrows
    · split
      · exact Channel.Still.narrows ⟨rfl, rfl, rfl, rfl, rfl, rfl, rfl, rfl⟩
      · exact (Channel.Still.refl channel).narrows
  · split
    · exact idle
    · split <;> exact idle

/-- Binding makes the notifier first, which no byte of the ring decides. -/
theorem blind_bind (prepare : Channel → Channel) (notifier : Channel → Option Notifier) (now : UInt64)
    (same : ∀ (channel : Channel) (data : Buffer),
      prepare (channel.withData data) = (prepare channel).withData data)
    (told : ∀ (channel : Channel) (data : Buffer), notifier (channel.withData data) = notifier channel)
    (still : ∀ channel, Channel.Still channel (prepare channel)) :
    Channel.Blind fun channel =>
      (Reply.bound ((prepare channel).bindNotifier now (notifier channel)).1.isSome,
        ((prepare channel).bindNotifier now (notifier channel)).2) := by
  refine .of_narrows (fun channel data => ?_) (fun channel => ?_)
    (fun channel _ => Channel.idle_deliver ..)
  · rw [same, told, Channel.bindNotifier_withData]
  · exact (still channel).narrows.trans (Channel.narrows_bindNotifier _ now _)

theorem together_bind (twins : Twins path named channel left right) (time : UInt64) (binding : Binding) :
    ∃ after, Together path named channel left right time (.bind binding) after := by
  cases binding with
  | nothing =>
      exact together_of_blind twins
        (blind_bind id (fun _ => none) time (fun _ _ => rfl) (fun _ _ => rfl) Channel.Still.refl)
        fun _ _ _ => rfl
  | counting reaction =>
      exact together_of_blind twins
        (blind_bind (fun channel => { channel with counts := channel.counts.push 0 })
          (fun channel => some (.counting channel.counts.size reaction)) time (fun _ _ => rfl)
          (fun _ _ => rfl) fun _ => ⟨rfl, rfl, rfl, rfl, rfl, rfl, rfl, rfl⟩)
        fun _ _ _ => rfl
  | target target =>
      exact together_of_blind twins
        (blind_bind (fun channel => { channel with bells := channel.bells.push target })
          (fun channel => some (.descriptor channel.bells.size)) time (fun _ _ => rfl)
          (fun _ _ => rfl) fun _ => ⟨rfl, rfl, rfl, rfl, rfl, rfl, rfl, rfl⟩)
        fun _ _ _ => rfl

theorem blind_waitReady (now : UInt64) (timeout : Option Nat) (delay : Nat) (payload : Bytes)
    (times : Nat) :
    Channel.Blind fun channel =>
      (Reply.ready (channel.isReady ||
        ((match timeout with
          | none => true
          | some limit => delay ≤ limit) &&
          (((channel.pushTimes now payload times).2.trace.toList.drop channel.trace.size).contains .woken ||
            (channel.pushTimes now payload times).2.isReady))),
        (channel.pushTimes now payload times).2) where
  alike := fun {channel data} unread => by
    obtain ⟨other, same, after⟩ := (Channel.blind_pushTimes now payload times).alike unread
    refine ⟨other, ?_, after⟩
    rw [same]
    rfl
  framed := (Channel.blind_pushTimes now payload times).framed
  idle := (Channel.blind_pushTimes now payload times).idle

theorem blind_advanceBy (now : UInt64) (distance : Int) :
    Channel.Blind fun channel =>
      (replyTo (channel.advanceTail now (UInt64.ofNat
          ((Int.ofNat channel.page.tail.toNat + distance) % UInt64.size).toNat)).1,
        (channel.advanceTail now (UInt64.ofNat
          ((Int.ofNat channel.page.tail.toNat + distance) % UInt64.size).toNat)).2) :=
  .of_narrows
    (fun channel data => by
      rw [← Channel.page_withData channel data, Channel.advanceTail_withData])
    (fun channel => (channel.settles_advanceTail now _).narrows)
    (fun _ idle => Channel.idle_advanceTail idle now _)

/-- Whatever is asked of both, twins stay together. -/
theorem together_step (twins : Twins path named channel left right) (time : UInt64) {command : Command}
    (handled : command.isHandled = true) :
    ∃ after, Together path named channel left right time command after := by
  cases command with
  | push payload times =>
      exact together_of_blind twins ((Channel.blind_pushTimes time payload times).map .outcomes)
        fun _ _ _ => rfl
  | reserve need =>
      exact together_of_blind twins (.of_look fun _ _ => rfl) fun _ _ _ => rfl
  | producer => exact together_of_blind twins (.of_look fun _ _ => rfl) fun _ _ _ => rfl
  | read number => exact together_read twins time number
  | poll number => exact together_poll twins time number
  | reader number => exact together_reader twins time number
  | openReader view missing => exact together_openReader twins time view missing
  | advanceTail position =>
      exact together_of_blind twins ((Channel.blind_advanceTail time position).map replyTo)
        fun _ _ _ => rfl
  | advanceBy distance =>
      exact together_of_blind twins (blind_advanceBy time distance) fun _ _ _ => rfl
  | setWatermarks hi lo =>
      exact together_of_blind twins ((Channel.blind_setWatermarks hi lo).map replyTo) fun _ _ _ => rfl
  | setRate rate =>
      exact together_of_blind twins ((Channel.blind_setRate rate).map replyTo) fun _ _ _ => rfl
  | reset => exact together_of_blind twins (Channel.blind_reset.map fun _ => .done) fun _ _ _ => rfl
  | control => exact together_of_blind twins (.of_look fun _ _ => rfl) fun _ _ _ => rfl
  | bind binding => exact together_bind twins time binding
  | drainBell number => exact together_of_blind twins (blind_drainBell number) fun _ _ _ => rfl
  | waitReady timeout delay payload times =>
      exact together_of_blind twins (blind_waitReady time timeout delay payload times) fun _ _ _ => rfl
  | page =>
      cases named with
      | false => exact together_of_answer twins fun _ _ _ _ _ _ => ⟨_, _, rfl, rfl, rfl⟩
      | true => exact together_of_answer twins fun _ _ _ _ _ _ => ⟨_, _, rfl, rfl, rfl⟩
  | _ => cases handled

/-- Nobody who watches both can tell them apart. -/
theorem watch_eq (twins : Twins path named channel left right) (turns : List (UInt64 × Command))
    (handled : ∀ turn ∈ turns, turn.2.isHandled = true) : left.watch turns = right.watch turns := by
  induction turns generalizing channel left right with
  | nil => rfl
  | cons turn rest ih =>
      obtain ⟨time, command⟩ := turn
      obtain ⟨after, together⟩ := together_step twins time (handled _ List.mem_cons_self)
      have later := ih together.twins fun turn member => handled turn (List.mem_cons_of_mem _ member)
      simp only [watch, together.answer, together.twins.blank_eq, later]

end Session

/-- The channel once somebody has put other cursors, other flags, another episode and other bytes into
its memory. -/
def Channel.meddled (channel : Channel) (head tail : UInt64) (flags : UInt32)
    (episodeStart episodeCount : UInt64) (data : Buffer) : Channel :=
  { channel with
    region :=
      { channel.region with
        page := { channel.page with head, tail, flags, episodeStart, episodeCount }
        data } }

namespace Session

/-- What can become of a session: commands of its handles follow one another in any order, and at any
time somebody puts what he likes into the cursors, the flags, the episode and the data of the ring. -/
inductive Lived (start : Session) : Session → Prop
  | start : Lived start start
  | step {session : Session} (lived : Lived start session) (time : UInt64) {command : Command}
      (handled : command.isHandled = true) : Lived start (session.step (some time) command).2
  | meddled {session : Session} {channel : Channel} (lived : Lived start session)
      (there : session.channel? = some channel) (head tail : UInt64) (flags : UInt32)
      (episodeStart episodeCount : UInt64) {data : Buffer}
      (size : data.size = channel.region.data.size) :
      Lived start
        (session.withChannel (channel.meddled head tail flags episodeStart episodeCount data))

/-- What outlasts all that: the frame of the ring, the capacity of its readers, and that no signal is
kept back. -/
structure Outlasts (made channel : Channel) (readers : Array Reader) : Prop where
  framed : made.Framed channel
  idle : channel.Idle
  sized : ∀ reader ∈ readers, reader.capacity = channel.capacity

variable {path : String} {named : Bool}

/-- Every session is its own twin, so a command keeps what outlasts it. -/
theorem outlasts_of_lived {plan : RingPlan} {event : Event} {now : UInt64}
    (valid : plan.validate = .ok ()) {reached : Session}
    (lived : (begun path now plan event named).Lived reached) :
    ∃ later others channel, reached = around path later named others channel ∧
      Outlasts (.made plan event) channel others := by
  obtain ⟨power, -⟩ := plan.validate_eq_ok_iff.mp valid
  have fresh := Channel.fresh_made valid event
  induction lived with
  | start =>
      refine ⟨now, _, .made plan event, rfl, (Channel.Still.refl _).framed, rfl, ?_⟩
      intro reader member
      rw [Array.mem_singleton.mp member]
      rfl
  | step lived time handled ih =>
      obtain ⟨later, others, channel, rfl, outlasts⟩ := ih
      have capacity := outlasts.framed.capacity.trans fresh.capacity
      have unread : channel.SameUnread channel.region.data :=
        ⟨by rw [capacity]; exact power,
          Nat.le_of_eq (by rw [capacity, outlasts.framed.size, fresh.size]), rfl, fun _ _ _ => rfl⟩
      have twins : Twins path named channel (around path later named others channel)
          (around path later named others channel) :=
        .both later others others channel.region.data unread outlasts.idle
          (by rw [outlasts.framed.named, fresh.page, capacity]; rfl) rfl outlasts.sized
      obtain ⟨after, together⟩ := together_step twins time handled
      obtain ⟨next, more, same, idle, sized⟩ := together.twins.eq_around
      exact ⟨next, more, after, same, outlasts.framed.trans together.framed, idle, sized⟩
  | meddled lived there head tail flags episodeStart episodeCount size ih =>
      obtain ⟨later, others, channel, rfl, outlasts⟩ := ih
      cases there
      refine ⟨later, others, _, rfl, ?_, outlasts.idle, outlasts.sized⟩
      exact outlasts.framed.trans
        ⟨rfl, size, rfl, rfl, rfl, fun marked => ⟨marked.1, marked.2, marked.3, marked.4⟩⟩

/-- The session with its ring, which was just made, in the place of another session's: the notifier that
is bound there is bound to it, and the readers there read it, who have read nothing so far. -/
def inPlaceOf (begun reached : Session) (time : UInt64) : Session :=
  match begun.store, reached.store with
  | .ring made named, .ring channel _ =>
      let equipped := { made with counts := channel.counts, bells := channel.bells }
      { begun with
        store := .ring (equipped.bindNotifier time channel.slot.bound).2 named
        readers := reached.readers.map Reader.blank }
  | _, _ => begun

/-- A ring just made that is what a reset makes of another, but for the bytes of its data ring and for
what is outside the ring. -/
structure Renews (made channel : Channel) : Prop where
  page : made.page = channel.reset.page
  padding : made.region.padding = channel.region.padding
  size : made.region.data.size = channel.region.data.size
  capacity : made.capacity = channel.capacity
  rate : made.rate = channel.rate
  tallies : made.tallies = {}
  latched : made.latched = false
  slot : made.slot = {}

theorem page_reset {channel : Channel} (named : channel.page.capacity = channel.capacity)
    (reserved : channel.page.reserved = 0) :
    channel.reset.page = .fresh channel.capacity channel.page.hi channel.page.lo := by
  change (⟨0, 0, channel.page.capacity, channel.page.hi, channel.page.lo, 0, channel.page.reserved, 0,
    0⟩ : ControlPage) = _
  rw [named, reserved]
  rfl

/-- Its plan is the capacity of the ring there, the marks and the rate as they are now. -/
theorem renews_made {plan : RingPlan} {event again : Event} (valid : plan.validate = .ok ())
    {channel : Channel} (framed : (Channel.made plan event).Framed channel) :
    let renewed : RingPlan := ⟨channel.capacity, channel.page.hi, channel.page.lo, channel.rate⟩
    renewed.validate = .ok () ∧ Renews (.made renewed again) channel := by
  intro renewed
  obtain ⟨power, least, -⟩ := plan.validate_eq_ok_iff.mp valid
  have fresh := Channel.fresh_made valid event
  have capacity := framed.capacity.trans fresh.capacity
  have marked := framed.marked fresh.marked
  have validAgain : renewed.validate = .ok () := by
    rw [RingPlan.validate_eq_ok_iff]
    refine ⟨?_, ?_, ⟨marked.ordered, marked.percent⟩, marked.least, marked.most⟩
    · change isPowerOfTwo channel.capacity = true
      rw [capacity]
      exact power
    · change minCapacity ≤ channel.capacity
      rw [capacity]
      exact least
  have freshAgain := Channel.fresh_made validAgain again
  refine ⟨validAgain, ?_, ?_, ?_, freshAgain.capacity, freshAgain.rate, freshAgain.tallies, rfl, rfl⟩
  · rw [freshAgain.page, page_reset]
    · rw [framed.named, fresh.page, capacity]
      rfl
    · rw [framed.reserved, fresh.page]
      rfl
  · rw [framed.padding, Channel.padding_made, Channel.padding_made, ← capacity]
  · rw [freshAgain.size, framed.size, fresh.size, ← capacity]

/-- With the same notifier bound it is that ring over its own data. -/
theorem equipped_eq {made channel : Channel} (renews : Renews made channel) (idle : channel.Idle)
    (time : UInt64) :
    { (({ made with counts := channel.counts, bells := channel.bells } : Channel).bindNotifier time
        channel.slot.bound).2 with trace := #[] } =
      ({ channel.reset with trace := #[] } : Channel).withData made.region.data := by
  obtain ⟨page, padding, -, capacity, rate, tallies, latched, slot⟩ := renews
  obtain ⟨⟨_, _, data⟩, _, _, _, _, _, counts, bells, trace⟩ := made
  obtain ⟨region, capacity, rate, tallies, latched, ⟨bound, _⟩, countsThere, bellsThere, traceThere⟩ :=
    channel
  cases page
  cases padding
  cases capacity
  cases rate
  cases tallies
  cases latched
  cases slot
  cases idle
  rw [Channel.bindNotifier_eq rfl]
  rfl

/-- A ring that was reset and one just made differ in stale bytes only. -/
theorem twins_of_reset {made channel : Channel} (renews : Renews made channel) (idle : channel.Idle)
    (power : isPowerOfTwo channel.capacity = true)
    (held : channel.capacity.toNat ≤ channel.region.data.size)
    (fits : channel.page.capacity = channel.capacity) {readers : Array Reader}
    (sized : ∀ reader ∈ readers, reader.capacity = channel.capacity) (firsts : Array Reader)
    (time later : UInt64) :
    Twins path named { channel.reset with trace := #[] }
      ((around path later named readers channel).step (some time) .reset).2.clearTrace
      ((around path time named firsts made).inPlaceOf (around path later named readers channel)
        time).clearTrace := by
  have there : ((around path time named firsts made).inPlaceOf (around path later named readers channel)
      time).clearTrace =
        around path time named (readers.map Reader.blank) (({ channel.reset with trace := #[] } :
          Channel).withData made.region.data) := by
    rw [← equipped_eq renews idle time]
    rfl
  have unread : ({ channel.reset with trace := #[] } : Channel).SameUnread made.region.data :=
    ⟨power, held, renews.size, fun position _ stop => absurd stop (Nat.not_lt_zero position)⟩
  rw [there]
  refine .both time readers _ _ unread idle fits ?_ sized
  rw [Array.map_map]
  rfl

/-- Once it is reset, a ring goes on as one that was just made with its capacity, its marks and its rate
and has its notifier: whatever it has lived through, whatever is asked of it then, and whoever reads. -/
theorem reset_renews {origin : Origin} {plan : RingPlan} {now : UInt64} {view : CreationView}
    {session : Session} (started : start origin plan path now = (.created view, some session))
    {reached : Session} (lived : session.Lived reached) (found : Option Buffer) (time : UInt64) :
    ∃ channel, reached.channel? = some channel ∧ (reached.step (some time) .reset).1 = .done ∧
      ∃ renewed begun,
        start (origin.again found)
            ⟨channel.capacity, channel.page.hi, channel.page.lo, channel.rate⟩ path time =
          (.created renewed, some begun) ∧
        (reached.step (some time) .reset).2.clearTrace.blank =
          (begun.inPlaceOf reached time).clearTrace.blank ∧
        ∀ turns : List (UInt64 × Command), (∀ turn ∈ turns, turn.2.isHandled = true) →
          (reached.step (some time) .reset).2.clearTrace.watch turns =
            (begun.inPlaceOf reached time).clearTrace.watch turns := by
  obtain ⟨event, named, valid, rfl, again⟩ := begun_of_start started
  obtain ⟨later, readers, channel, rfl, outlasts⟩ := outlasts_of_lived valid lived
  have fresh := Channel.fresh_made valid event
  have capacity := outlasts.framed.capacity.trans fresh.capacity
  obtain ⟨power, -⟩ := plan.validate_eq_ok_iff.mp valid
  obtain ⟨validAgain, renews⟩ := @renews_made plan event event valid channel outlasts.framed
  obtain ⟨renewed, begins⟩ := again found _ time validAgain capacity
  have twins := @twins_of_reset path named _ channel renews outlasts.idle
    (by rw [capacity]; exact power)
    (Nat.le_of_eq (by rw [capacity, outlasts.framed.size, fresh.size]))
    (by rw [outlasts.framed.named, fresh.page, capacity]; rfl) readers outlasts.sized
    #[{ capacity := channel.capacity, inProcess := true }] time later
  exact ⟨channel, rfl, rfl, renewed, _, begins, twins.blank_eq.symm, watch_eq twins⟩

/-- A ring of 64 bytes with other marks and a notifier, full, with an episode open and a second
reader. -/
def smallBusy : Session :=
  let marked := (smallShared.step (some 1) (.setWatermarks 40 20)).2
  let bound := (marked.step (some 2) (.bind (.counting .nothing))).2
  let full := (bound.step (some 3) (.push (List.replicate 12 7) 3)).2
  (full.step (some 4) (.openReader none false)).2

/-- The same once somebody has torn its cursors apart and written over its data. -/
def smallTorn : Session :=
  match smallBusy.channel? with
  | none => smallBusy
  | some channel =>
      smallBusy.withChannel (channel.meddled 3 99 9 5 0 (.ofBytes (List.replicate 64 171)))

theorem lived_smallTorn : smallShared.Lived smallTorn := by
  have busy : smallShared.Lived smallBusy := by
    refine .step (.step (.step (.step .start 1 ?_) 2 ?_) 3 ?_) 4 ?_
    · rfl
    · rfl
    · rfl
    · rfl
  unfold smallTorn
  split
  · exact busy
  · rename_i channel there
    have same : smallBusy.channel?.all fun channel => channel.region.data.size == 64 := by
      decide +kernel
    rw [there, Option.all_some, beq_iff_eq] at same
    exact .meddled busy there 3 99 9 5 0 same.symm

/-- The second reader has stopped at it, and after a reset nobody can tell. -/
theorem reset_renews_small_torn :
    let read := smallTorn.step (some 5) (.read 1)
    (match read.1 with
      | .read outcome => outcome == .corrupted ⟨99, 3, 18446744073709551520⟩
      | _ => false) = true ∧
    ∃ channel renewed begun, read.2.channel? = some channel ∧
      start (.path none) ⟨channel.capacity, channel.page.hi, channel.page.lo, channel.rate⟩ "ring" 6 =
        (.created renewed, some begun) ∧
      ∀ turns : List (UInt64 × Command), (∀ turn ∈ turns, turn.2.isHandled = true) →
        (read.2.step (some 6) .reset).2.clearTrace.watch turns =
          (begun.inPlaceOf read.2 6).clearTrace.watch turns := by
  intro read
  obtain ⟨view, started⟩ := start_smallShared
  obtain ⟨channel, there, -, renewed, begun, begins, -, alike⟩ :=
    reset_renews started (@Lived.step _ _ lived_smallTorn 5 (.read 1) rfl) none 6
  exact ⟨by decide +kernel, channel, renewed, begun, there, begins, alike⟩

end Session

end RecordRing
