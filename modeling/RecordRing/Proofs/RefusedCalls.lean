import RecordRing.Proofs.EarlierEffects
import RecordRing.Proofs.FreshStart

set_option autoImplicit false

namespace RecordRing

def Reply.refuses : Reply → Bool
  | refused _ => true
  | outcomes [.tooLarge] => true
  | read (.corrupted _) => true
  | _ => false

/-- What may be refused: requests of the control surface, one push, and one read. -/
inductive Command.Refusable : Command → Prop
  | setWatermarks (hi lo : UInt32) : Refusable (.setWatermarks hi lo)
  | setRate (rate : UInt32) : Refusable (.setRate rate)
  | advanceTail (position : UInt64) : Refusable (.advanceTail position)
  | advanceBy (distance : Int) : Refusable (.advanceBy distance)
  | push (payload : Bytes) : Refusable (.push payload 1)
  | read (number : Nat) : Refusable (.read number)

theorem Reply.refuses_outcomes_iff {outcome : PushOutcome} :
    (Reply.outcomes [outcome]).refuses = true ↔ outcome = .tooLarge := by
  cases outcome <;> decide

theorem Reply.eq_corrupted_of_refuses {outcome : ReadOutcome}
    (refuses : (Reply.read outcome).refuses = true) : ∃ place, outcome = .corrupted place := by
  cases outcome with
  | corrupted place => exact ⟨place, rfl⟩
  | record record => cases refuses
  | nothing => cases refuses
  | overrun => cases refuses

theorem Reader.take_of_corrupted {reader : Reader} {region : Region} {place : Corruption}
    (found : (reader.take region).1 = .corrupted place) :
    reader.take region = (.corrupted place, reader, region) := by
  rw [take_fst] at found
  rw [take_of_not_record (by rw [found]; nofun), found]

namespace Channel

/-- A request is carried out if it fits, and changes nothing otherwise. -/
inductive Guarded (channel : Channel) (fits : Prop) : Except RingError Unit × Channel → Prop
  | granted (fit : fits) (after : Channel) : Guarded channel fits (.ok (), after)
  | refused (unfit : ¬fits) (error : RingError) : Guarded channel fits (.error error, channel)

variable {channel : Channel} {fits : Prop} {result : Except RingError Unit × Channel}

theorem Guarded.refuses_iff (guarded : channel.Guarded fits result) :
    (Session.replyTo result.1).refuses = true ↔ ¬fits := by
  cases guarded with
  | granted fit after => exact ⟨nofun, fun unfit => absurd fit unfit⟩
  | refused unfit error => exact ⟨fun _ => unfit, fun _ => rfl⟩

theorem Guarded.eq_of_refuses (guarded : channel.Guarded fits result)
    (refuses : (Session.replyTo result.1).refuses = true) : result.2 = channel := by
  cases guarded with
  | granted fit after => cases refuses
  | refused unfit error => rfl

theorem guarded_setWatermarks (channel : Channel) (hi lo : UInt32) :
    channel.Guarded (lo ≤ hi ∧ hi ≤ 100) (channel.setWatermarks hi lo) := by
  have accepts := checkWatermarks_eq_ok_iff hi lo
  unfold setWatermarks
  cases checked : checkWatermarks hi lo with
  | ok done => exact .granted (accepts.mp checked) _
  | error error =>
      refine .refused (fun fit => ?_) error
      rw [accepts.mpr fit] at checked
      cases checked

theorem guarded_setRate (channel : Channel) (rate : UInt32) :
    channel.Guarded (1 ≤ rate ∧ rate ≤ 100000) (channel.setRate rate) := by
  have accepts := checkRate_eq_ok_iff rate
  unfold setRate
  cases checked : checkRate rate with
  | ok done => exact .granted (accepts.mp checked) _
  | error error =>
      refine .refused (fun fit => ?_) error
      rw [accepts.mpr fit] at checked
      cases checked

theorem guarded_advanceTail (channel : Channel) (now position : UInt64) :
    channel.Guarded (channel.page.tail ≤ position ∧ position ≤ channel.page.head)
      (channel.advanceTail now position) := by
  rcases channel.between_or_outside position with ⟨ordered, within⟩ | outside
  · rw [advanceTail, moveTail_of_between now ordered within]
    obtain ⟨edge, after⟩ := (channel.withTail position).crossWatermarks now
    cases edge with
    | none => exact .granted ⟨ordered, within⟩ _
    | some edge => cases edge <;> exact .granted ⟨ordered, within⟩ _
  · rw [advanceTail, moveTail_of_outside now outside]
    refine .refused (fun fit => ?_) _
    rcases outside with beyond | before
    · exact UInt64.not_lt.mpr fit.2 beyond
    · exact UInt64.not_lt.mpr fit.1 before

theorem push_of_long {payload : Bytes} (now : UInt64)
    (long : channel.maxPayload.toNat < payload.length) :
    channel.push now payload = (.tooLarge, channel) :=
  if_pos long

theorem push_eq_tooLarge_iff (channel : Channel) (now : UInt64) (payload : Bytes) :
    (channel.push now payload).1 = .tooLarge ↔ channel.maxPayload.toNat < payload.length := by
  refine ⟨fun large => ?_, fun long => by rw [push_of_long now long]⟩
  refine Decidable.byContradiction fun short => ?_
  unfold push at large
  rw [if_neg short] at large
  dsimp only at large
  split at large <;> cases large

theorem read_of_corrupted {reader : Reader} {place : Corruption} (now : UInt64)
    (found : (channel.read now reader).1 = .corrupted place) :
    channel.read now reader = (.corrupted place, reader, channel.log (.desynchronised place)) := by
  have looked : (reader.take channel.region).1 = .corrupted place := by
    unfold read at found
    split at found
    · cases found
    · rename_i taken
      rw [taken]
      exact found
    · rename_i taken
      rw [taken]
      exact found
  rw [read, Reader.take_of_corrupted looked]

end Channel

namespace Session

variable {session : Session} {channel : Channel} {command : Command}

theorem onChannel_of_channel? (there : session.channel? = some channel)
    (act : Channel → Reply × Channel) :
    session.onChannel act = ((act channel).1, session.withChannel (act channel).2) := by
  unfold onChannel
  rw [there]

theorem withChannel_self (there : session.channel? = some channel) :
    session.withChannel channel = session := by
  obtain ⟨path, now, store, readers, seat⟩ := session
  cases store with
  | ring held named =>
      cases there
      rfl
  | file held trace => cases there

theorem withReader_self {number : Nat} {reader : Reader}
    (found : session.readers[number]? = some reader) : session.withReader number reader = session := by
  obtain ⟨inside, here⟩ := Array.getElem?_eq_some_iff.mp found
  rw [withReader, Array.setIfInBounds, dif_pos inside, ← here, Array.set_getElem_self]

/-- What is refused by a channel changes nothing of the session. -/
theorem onChannel_of_refused {act : Channel → Reply × Channel}
    (unchanged : ∀ channel, (act channel).1.refuses = true → (act channel).2 = channel)
    (refused : (session.onChannel act).1.refuses = true) : (session.onChannel act).2 = session := by
  cases there : session.channel? with
  | none =>
      unfold onChannel
      rw [there]
  | some channel =>
      rw [onChannel_of_channel? there] at refused ⊢
      dsimp only at refused ⊢
      rw [unchanged channel refused, withChannel_self there]

theorem onProducer_of_refused {act : Channel → Reply × Channel}
    (unchanged : ∀ channel, (act channel).1.refuses = true → (act channel).2 = channel)
    (refused : (session.onProducer act).1.refuses = true) : (session.onProducer act).2 = session := by
  unfold onProducer at refused ⊢
  cases seat : session.seat with
  | producer =>
      rw [seat] at refused
      exact onChannel_of_refused unchanged refused
  | generator generator => rfl
  | gone => rfl

theorem readOnce_of_refused {number : Nat} (refused : (session.readOnce number).1.refuses = true) :
    ∃ place, (session.readOnce number).2 = session.log (.desynchronised place) := by
  cases found : session.readers[number]? with
  | none =>
      unfold readOnce at refused
      rw [found] at refused
      cases refused
  | some reader =>
      have kept := withReader_self found
      obtain ⟨path, now, store, readers, seat⟩ := session
      dsimp only at found
      unfold readOnce at refused ⊢
      dsimp only at refused ⊢
      rw [found] at refused ⊢
      cases store with
      | ring channel named =>
          obtain ⟨place, outcome⟩ := Reply.eq_corrupted_of_refuses refused
          refine ⟨place, ?_⟩
          dsimp only
          rw [Channel.read_of_corrupted now outcome]
          exact congrArg (Session.withChannel · (channel.log (.desynchronised place))) kept
      | file held trace =>
          cases held with
          | short held => cases refused
          | whole region =>
              dsimp only at refused ⊢
              have outcome : ∃ place, (reader.take region).1 = .corrupted place := by
                split at refused
                · rename_i place looked
                  exact ⟨place, looked⟩
                · exact Reply.eq_corrupted_of_refuses refused
              obtain ⟨place, looked⟩ := outcome
              rw [Reader.take_of_corrupted looked]
              exact ⟨place, congrArg (Session.log · (.desynchronised place)) kept⟩

/-- A refused command leaves the session as it was, but that the fault of a bad record is logged. -/
theorem perform_of_refused (refusable : command.Refusable)
    (refused : (session.perform command).1.refuses = true) :
    (session.perform command).2 = session ∨
      ∃ place, (session.perform command).2 = session.log (.desynchronised place) := by
  cases refusable with
  | setWatermarks hi lo =>
      exact .inl (onChannel_of_refused (fun channel => (channel.guarded_setWatermarks hi lo).eq_of_refuses)
        refused)
  | setRate rate =>
      exact .inl (onChannel_of_refused (fun channel => (channel.guarded_setRate rate).eq_of_refuses)
        refused)
  | advanceTail position =>
      exact .inl (onChannel_of_refused
        (fun channel => (channel.guarded_advanceTail session.now position).eq_of_refuses) refused)
  | advanceBy distance =>
      exact .inl (onChannel_of_refused
        (fun channel => (channel.guarded_advanceTail session.now _).eq_of_refuses) refused)
  | push payload =>
      refine .inl (onProducer_of_refused (fun channel refused => ?_) refused)
      exact congrArg Prod.snd (Channel.push_of_long session.now
        ((channel.push_eq_tooLarge_iff session.now payload).mp (Reply.refuses_outcomes_iff.mp refused)))
  | read number => exact .inr (readOnce_of_refused refused)

theorem clearTrace_log (session : Session) (event : Event) :
    (session.log event).clearTrace = session.clearTrace := by
  obtain ⟨path, now, store, readers, seat⟩ := session
  cases store <;> rfl

theorem trace_log (session : Session) (event : Event) :
    (session.log event).trace = session.trace.push (.logged event) := by
  obtain ⟨path, now, store, readers, seat⟩ := session
  cases store <;> rfl

/-- All of a session is as it was, but that the fault of a bad record may have been logged. -/
structure Untouched (session after : Session) : Prop where
  same : after.clearTrace = session.clearTrace
  told : after.trace = session.trace ∨
    ∃ place, after.trace = session.trace.push (.logged (.desynchronised place))
  later : ∀ turns, after.tells turns = session.tells turns

theorem Untouched.refl (session : Session) : session.Untouched session :=
  ⟨rfl, .inl rfl, fun _ => rfl⟩

theorem untouched_log (session : Session) (place : Corruption) :
    session.Untouched (session.log (.desynchronised place)) :=
  ⟨session.clearTrace_log _, .inr ⟨place, session.trace_log _⟩, tells_congr (session.clearTrace_log _)⟩

/-- When the ring of a session refuses what is asked of it, by the arguments and the cursors. -/
structure Refuses (session : Session) (channel : Channel) : Prop where
  watermarks (hi lo : UInt32) :
    (session.perform (.setWatermarks hi lo)).1.refuses = true ↔ ¬(lo ≤ hi ∧ hi ≤ 100)
  rate (rate : UInt32) :
    (session.perform (.setRate rate)).1.refuses = true ↔ ¬(1 ≤ rate ∧ rate ≤ 100000)
  tail (position : UInt64) :
    (session.perform (.advanceTail position)).1.refuses = true ↔
      ¬(channel.page.tail ≤ position ∧ position ≤ channel.page.head)
  astray : channel.page.head < channel.page.tail →
    ∀ position, (session.perform (.advanceTail position)).1.refuses = true
  length : session.seat = .producer → ∀ payload : Bytes,
    ((session.perform (.push payload 1)).1.refuses = true ↔
      channel.maxPayload.toNat < payload.length)

theorem refuses_of_channel? (there : session.channel? = some channel) : session.Refuses channel := by
  have tail (position : UInt64) :
      (session.perform (.advanceTail position)).1.refuses = true ↔
        ¬(channel.page.tail ≤ position ∧ position ≤ channel.page.head) := by
    rw [perform, onChannel_of_channel? there]
    exact (channel.guarded_advanceTail session.now position).refuses_iff
  constructor
  case watermarks =>
    intro hi lo
    rw [perform, onChannel_of_channel? there]
    exact (channel.guarded_setWatermarks hi lo).refuses_iff
  case rate =>
    intro rate
    rw [perform, onChannel_of_channel? there]
    exact (channel.guarded_setRate rate).refuses_iff
  case tail => exact tail
  case astray =>
    refine fun astray position => (tail position).mpr fun between => ?_
    exact UInt64.not_lt.mpr (UInt64.le_trans between.1 between.2) astray
  case length =>
    intro seat payload
    rw [perform, onProducer, seat]
    dsimp only
    rw [onChannel_of_channel? there]
    exact Reply.refuses_outcomes_iff.trans (channel.push_eq_tooLarge_iff session.now payload)

/-- Whatever stands on the page and in the data, a ring refuses what does not fit, and a refusal leaves
all of it as it was: nobody is signalled, and whatever is asked later is answered as if the refused call
had not been made. -/
theorem refused_untouched (session : Session) :
    (∀ channel, session.channel? = some channel → session.Refuses channel) ∧
      ∀ command : Command, command.Refusable → (session.perform command).1.refuses = true →
        session.Untouched (session.perform command).2 := by
  refine ⟨fun channel => refuses_of_channel?, fun command refusable refused => ?_⟩
  rcases perform_of_refused refusable refused with unchanged | ⟨place, logged⟩
  · rw [unchanged]
    exact .refl session
  · rw [logged]
    exact session.untouched_log place

/-- A ring with its cursors torn apart refuses to be read, to be drained and to take in what is too
long. -/
theorem refused_untouched_small_torn :
    (∃ channel, smallTorn.channel? = some channel ∧ channel.page.head < channel.page.tail ∧
      smallTorn.Refuses channel) ∧
    ∀ command ∈ [.read 1, .advanceTail 50, .push (List.replicate 65 7) 1],
      command.Refusable ∧ (smallTorn.perform command).1.refuses = true ∧
        smallTorn.Untouched (smallTorn.perform command).2 := by
  obtain ⟨refuses, untouched⟩ := refused_untouched smallTorn
  constructor
  · have astray : smallTorn.channel?.any (fun channel => channel.page.head < channel.page.tail) = true := by
      decide +kernel
    obtain ⟨channel, there, astray⟩ := (Option.any_eq_true _ _).mp astray
    exact ⟨channel, there, of_decide_eq_true astray, refuses channel there⟩
  · have cannot (command : Command) (refusable : command.Refusable)
        (refused : (smallTorn.perform command).1.refuses = true) :
        command.Refusable ∧ (smallTorn.perform command).1.refuses = true ∧
          smallTorn.Untouched (smallTorn.perform command).2 :=
      ⟨refusable, refused, untouched command refusable refused⟩
    simp only [List.mem_cons, List.not_mem_nil, or_false]
    rintro command (rfl | rfl | rfl)
    · exact cannot _ (.read 1) (by decide +kernel)
    · exact cannot _ (.advanceTail 50) (by decide +kernel)
    · exact cannot _ (.push _) (by decide +kernel)

end Session

end RecordRing
