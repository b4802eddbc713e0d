import RecordRing.Proofs.Settling
import RecordRing.Session.Perform

set_option autoImplicit false

namespace RecordRing

/-- What became visible since is all behind what was visible before. -/
theorem drop_append_size (earlier told since : Array Effect) :
    (earlier ++ since).toList.drop (earlier ++ told).size = since.toList.drop told.size := by
  rw [Array.toList_append, Array.size_append, ← Array.length_toList, List.drop_length_add_append]

namespace Channel

/-- The channel behind more that was told before. -/
def behind (channel : Channel) (earlier : Array Effect) : Channel :=
  { channel with trace := earlier ++ channel.trace }

theorem push_behind (channel : Channel) (earlier : Array Effect) (effect : Effect) :
    { channel.behind earlier with trace := (channel.behind earlier).trace.push effect } =
      { channel with trace := channel.trace.push effect }.behind earlier := by
  simp only [behind, Array.append_push]

theorem log_behind (channel : Channel) (earlier : Array Effect) (event : Event) :
    (channel.behind earlier).log event = (channel.log event).behind earlier :=
  push_behind channel earlier (.logged event)

theorem crossWatermarks_behind (channel : Channel) (earlier : Array Effect) (now : UInt64) :
    (channel.behind earlier).crossWatermarks now =
      ((channel.crossWatermarks now).1, (channel.crossWatermarks now).2.behind earlier) := by
  have same : Edge.ofFill (channel.behind earlier).latched (channel.behind earlier).utilization
      (channel.behind earlier).page.hi (channel.behind earlier).page.lo =
    Edge.ofFill channel.latched channel.utilization channel.page.hi channel.page.lo := rfl
  unfold crossWatermarks
  dsimp only
  rw [same]
  cases Edge.ofFill channel.latched channel.utilization channel.page.hi channel.page.lo with
  | none => rfl
  | some edge =>
      cases edge with
      | rising => exact congrArg (Prod.mk _) (log_behind { channel with
          latched := true, tallies := { channel.tallies with highCrossed := now } } earlier _)
      | falling => exact congrArg (Prod.mk _) (log_behind { channel with
          latched := false, tallies := { channel.tallies with lowCrossed := now } } earlier _)

theorem moveTail_behind (channel : Channel) (earlier : Array Effect) (now position : UInt64) :
    (channel.behind earlier).moveTail now position =
      ((channel.moveTail now position).1, (channel.moveTail now position).2.behind earlier) := by
  rcases channel.between_or_outside position with ⟨ordered, within⟩ | outside
  · have crossed := crossWatermarks_behind (channel.withTail position) earlier now
    rw [moveTail_of_between now ordered within,
      @moveTail_of_between (channel.behind earlier) now _ ordered within]
    exact congrArg (fun looked : _ × Channel => (Except.ok looked.1, looked.2)) crossed
  · rw [moveTail_of_outside now outside, @moveTail_of_outside (channel.behind earlier) now _ outside]
    rfl

theorem reset_behind (channel : Channel) (earlier : Array Effect) :
    (channel.behind earlier).reset = channel.reset.behind earlier :=
  log_behind { channel.modifyPage fun page =>
    { page with head := 0, tail := 0, flags := 0, episodeStart := 0, episodeCount := 0 } with
      tallies := {}, latched := false } earlier .ringReset

theorem signal_behind (channel : Channel) (earlier : Array Effect) (now : UInt64)
    (notifier : Notifier) :
    (channel.behind earlier).signal now notifier =
      ((channel.signal now notifier).1, (channel.signal now notifier).2.behind earlier) := by
  cases notifier with
  | counting number reaction =>
      have counted := push_behind { channel with counts := channel.counts.modify number (· + 1) }
        earlier (.signalled (.counting number reaction))
      cases reaction with
      | nothing => exact congrArg (Prod.mk _) counted
      | fail => exact congrArg (Prod.mk _) counted
      | drain =>
          have moved := moveTail_behind { channel with
            trace := channel.trace.push (.signalled (.counting number .drain))
            counts := channel.counts.modify number (· + 1) } earlier now channel.page.head
          rw [← counted] at moved
          exact congrArg (fun answer : _ × Channel => (Except.ok (), answer.2)) moved
      | reset =>
          have cleared := reset_behind { channel with
            trace := channel.trace.push (.signalled (.counting number .reset))
            counts := channel.counts.modify number (· + 1) } earlier
          rw [← counted] at cleared
          exact congrArg (Prod.mk _) cleared
  | descriptor bell =>
      have asked := push_behind channel earlier (.signalled (.descriptor bell))
      have same : (channel.behind earlier).bells = channel.bells := rfl
      unfold signal
      dsimp only
      rw [same]
      cases channel.bells[bell]? with
      | none => exact congrArg (Prod.mk _) asked
      | some target =>
          dsimp only
          cases target.signal with
          | ok signalled =>
              exact congrArg (fun asked : Channel => (Except.ok (), { asked with
                bells := channel.bells.setIfInBounds bell signalled })) asked
          | error error => exact congrArg (Prod.mk _) asked

theorem fire_behind (channel : Channel) (earlier : Array Effect) (now : UInt64) (notifier : Notifier)
    (times : Nat) :
    (channel.behind earlier).fire now notifier times =
      (channel.fire now notifier times).behind earlier := by
  induction times generalizing channel with
  | zero => rfl
  | succ times ih =>
      rw [fire, fire, signal_behind]
      obtain ⟨result, after⟩ := channel.signal now notifier
      cases result with
      | ok done => exact ih after
      | error cause => exact log_behind after earlier (.signalFailed cause)

theorem deliver_behind (channel : Channel) (earlier : Array Effect) (now : UInt64) :
    (channel.behind earlier).deliver now = (channel.deliver now).behind earlier := by
  obtain ⟨region, capacity, rate, tallies, latched, ⟨bound, pending⟩, counts, bells, trace⟩ := channel
  cases bound with
  | none => rfl
  | some notifier =>
      exact fire_behind ⟨region, capacity, rate, tallies, latched, ⟨some notifier, 0⟩, counts, bells,
        trace⟩ earlier now notifier pending

theorem notifyConsumer_behind (channel : Channel) (earlier : Array Effect) (now : UInt64) :
    (channel.behind earlier).notifyConsumer now = (channel.notifyConsumer now).behind earlier := by
  have woken := push_behind { channel with
    slot := { channel.slot with pending := channel.slot.pending + 1 } } earlier .woken
  have delivered := deliver_behind { channel with
    trace := channel.trace.push .woken
    slot := { channel.slot with pending := channel.slot.pending + 1 } } earlier now
  rw [← woken] at delivered
  exact delivered

theorem evaluateWatermarks_behind (channel : Channel) (earlier : Array Effect) (now : UInt64) :
    (channel.behind earlier).evaluateWatermarks now =
      (channel.evaluateWatermarks now).behind earlier := by
  rw [evaluateWatermarks, evaluateWatermarks, crossWatermarks_behind]
  obtain ⟨edge, after⟩ := channel.crossWatermarks now
  cases edge with
  | none => rfl
  | some edge =>
      cases edge with
      | rising => exact notifyConsumer_behind after earlier now
      | falling => rfl

theorem advanceTail_behind (channel : Channel) (earlier : Array Effect) (now position : UInt64) :
    (channel.behind earlier).advanceTail now position =
      ((channel.advanceTail now position).1, (channel.advanceTail now position).2.behind earlier) := by
  rw [advanceTail, advanceTail, moveTail_behind]
  obtain ⟨result, after⟩ := channel.moveTail now position
  cases result with
  | error fault => rfl
  | ok edge =>
      cases edge with
      | none => rfl
      | some edge =>
          cases edge with
          | rising => exact congrArg (Prod.mk _) (notifyConsumer_behind after earlier now)
          | falling => rfl

theorem setWatermarks_behind (channel : Channel) (earlier : Array Effect) (hi lo : UInt32) :
    (channel.behind earlier).setWatermarks hi lo =
      ((channel.setWatermarks hi lo).1, (channel.setWatermarks hi lo).2.behind earlier) := by
  unfold setWatermarks
  cases checkWatermarks hi lo with
  | error error => rfl
  | ok done =>
      exact congrArg (Prod.mk _) (log_behind (channel.modifyPage fun page => { page with hi, lo })
        earlier (.watermarksUpdated hi lo))

theorem setRate_behind (channel : Channel) (earlier : Array Effect) (rate : UInt32) :
    (channel.behind earlier).setRate rate =
      ((channel.setRate rate).1, (channel.setRate rate).2.behind earlier) := by
  unfold setRate
  cases checkRate rate with
  | error error => rfl
  | ok done => exact congrArg (Prod.mk _) (log_behind { channel with rate } earlier _)

theorem bindNotifier_behind (channel : Channel) (earlier : Array Effect) (now : UInt64)
    (notifier : Option Notifier) :
    (channel.behind earlier).bindNotifier now notifier =
      ((channel.bindNotifier now notifier).1, (channel.bindNotifier now notifier).2.behind earlier) := by
  have logged := log_behind { channel with slot := { channel.slot with bound := notifier } } earlier
    (.notifierRebound notifier.isSome)
  have delivered := deliver_behind ({ channel with
    slot := { channel.slot with bound := notifier } }.log (.notifierRebound notifier.isSome)) earlier
      now
  rw [← logged] at delivered
  exact congrArg (Prod.mk _) delivered

theorem noteDrop_behind (channel : Channel) (earlier : Array Effect) (now need : UInt64) :
    (channel.behind earlier).noteDrop now need = (channel.noteDrop now need).behind earlier := by
  have same : (channel.behind earlier).page = channel.page := rfl
  rw [noteDrop, noteDrop, same]
  cases channel.page.isDropping with
  | true => rfl
  | false =>
      have opened := log_behind (channel.modifyPage fun page =>
        { page with episodeStart := now, episodeCount := 0 }.setDropping true) earlier
          (.ringFull need channel.page.used)
      exact congrArg (fun opened : Channel =>
        let counted := opened.modifyPage fun page => { page with episodeCount := page.episodeCount + 1 }
        { counted with tallies := { counted.tallies with drops := counted.tallies.drops + 1 } }) opened

theorem writeRecord_behind (channel : Channel) (earlier : Array Effect) (position : UInt64)
    (header : RecordHeader) (payload : Bytes) :
    (channel.behind earlier).writeRecord position header payload =
      ((channel.writeRecord position header payload).1,
        (channel.writeRecord position header payload).2.behind earlier) := rfl

theorem flushDropSummary_behind (channel : Channel) (earlier : Array Effect) (position now : UInt64) :
    (channel.behind earlier).flushDropSummary position now =
      ((channel.flushDropSummary position now).1,
        (channel.flushDropSummary position now).2.behind earlier) := by
  have same : (channel.behind earlier).page = channel.page := rfl
  unfold flushDropSummary
  dsimp only
  rw [same, writeRecord_behind]
  exact congrArg (Prod.mk _) (log_behind ((channel.writeRecord position (.dropSummary now) _).2.modifyPage
    fun page => page.setDropping false) earlier _)

theorem push_payload_behind (channel : Channel) (earlier : Array Effect) (now : UInt64)
    (payload : Bytes) :
    (channel.behind earlier).push now payload =
      ((channel.push now payload).1, (channel.push now payload).2.behind earlier) := by
  have most : (channel.behind earlier).maxPayload = channel.maxPayload := rfl
  have same : (channel.behind earlier).page = channel.page := rfl
  have free (need : UInt64) : (channel.behind earlier).reserve need = channel.reserve need := rfl
  unfold push
  simp only [most, same, free]
  by_cases long : payload.length > channel.maxPayload.toNat
  · rw [if_pos long, if_pos long]
  · rw [if_neg long, if_neg long]
    split
    · exact congrArg (Prod.mk _) (noteDrop_behind channel earlier now _)
    · cases channel.page.isDropping with
      | false => simp only [Bool.false_eq_true, if_false, writeRecord_behind, evaluateWatermarks_behind]
      | true =>
          simp only [if_true, flushDropSummary_behind, writeRecord_behind, evaluateWatermarks_behind]

theorem pushTimes_behind (channel : Channel) (earlier : Array Effect) (now : UInt64) (payload : Bytes)
    (times : Nat) :
    (channel.behind earlier).pushTimes now payload times =
      ((channel.pushTimes now payload times).1,
        (channel.pushTimes now payload times).2.behind earlier) := by
  induction times generalizing channel with
  | zero => rfl
  | succ times ih =>
      rw [pushTimes, pushTimes, push_payload_behind]
      dsimp only
      rw [ih]

theorem read_behind (channel : Channel) (earlier : Array Effect) (now : UInt64) (reader : Reader) :
    (channel.behind earlier).read now reader =
      ((channel.read now reader).1, (channel.read now reader).2.1,
        (channel.read now reader).2.2.behind earlier) := by
  have same : (channel.behind earlier).region = channel.region := rfl
  rw [read, read, same]
  obtain ⟨outcome, counted, region⟩ := reader.take channel.region
  cases outcome with
  | record record =>
      cases reader.inProcess with
      | false => rfl
      | true =>
          exact congrArg (fun after : Channel => (ReadOutcome.record record, counted, after))
            (evaluateWatermarks_behind { channel with region } earlier now)
  | corrupted place =>
      exact congrArg (fun after : Channel => (ReadOutcome.corrupted place, counted, after))
        (log_behind channel earlier (.desynchronised place))
  | nothing => rfl
  | overrun => rfl

theorem pollFor_behind (channel : Channel) (earlier : Array Effect) (now : UInt64) (reader : Reader)
    (fuel : Nat) :
    (channel.behind earlier).pollFor now reader fuel =
      ((channel.pollFor now reader fuel).1, (channel.pollFor now reader fuel).2.1,
        (channel.pollFor now reader fuel).2.2.1,
          (channel.pollFor now reader fuel).2.2.2.behind earlier) := by
  induction fuel generalizing channel reader with
  | zero => rfl
  | succ fuel ih =>
      rw [pollFor, pollFor, read_behind]
      obtain ⟨outcome, counted, after⟩ := channel.read now reader
      cases outcome with
      | record record =>
          dsimp only
          rw [ih after counted]
      | nothing => rfl
      | corrupted place => rfl
      | overrun => rfl

end Channel

namespace LoadGenerator

theorem tick_behind (generator : LoadGenerator) (channel : Channel) (earlier : Array Effect)
    (now : UInt64) :
    generator.tick (channel.behind earlier) now =
      ((generator.tick channel now).1, (generator.tick channel now).2.1,
        (generator.tick channel now).2.2.behind earlier) :=
  congrArg (fun pushed : PushOutcome × Channel =>
    (pushed.1, (⟨generator.payload now, generator.sequence + 1⟩ : LoadGenerator), pushed.2))
      (channel.push_payload_behind earlier now (generator.payload now).toBytes)

theorem tickTimes_behind (generator : LoadGenerator) (channel : Channel) (earlier : Array Effect)
    (now : UInt64) (times : Nat) :
    generator.tickTimes (channel.behind earlier) now times =
      ((generator.tickTimes channel now times).1, (generator.tickTimes channel now times).2.1,
        (generator.tickTimes channel now times).2.2.behind earlier) := by
  induction times generalizing generator channel with
  | zero => rfl
  | succ times ih =>
      rw [tickTimes, tickTimes, tick_behind]
      dsimp only
      rw [ih]

theorem Disturbance.apply_behind (disturbance : Disturbance) (channel : Channel)
    (earlier : Array Effect) (now : UInt64) :
    disturbance.apply (channel.behind earlier) now =
      (disturbance.apply channel now).behind earlier := by
  obtain ⟨rate, drain⟩ := disturbance
  have drained (rated : Channel) :
      (if drain then ((rated.behind earlier).advanceTail now (rated.behind earlier).page.head).2
        else rated.behind earlier) =
        (if drain then (rated.advanceTail now rated.page.head).2 else rated).behind earlier := by
    cases drain with
    | false => rfl
    | true => exact congrArg Prod.snd (rated.advanceTail_behind earlier now rated.page.head)
  cases rate with
  | none => exact drained channel
  | some rate =>
      unfold apply
      dsimp only
      rw [Channel.setRate_behind]
      exact drained _

def Run.behind (run : Run) (earlier : Array Effect) : Run :=
  { run with channel := run.channel.behind earlier }

theorem Run.cycle_behind (run : Run) (earlier : Array Effect) (disturbance : Disturbance) :
    (run.behind earlier).cycle disturbance = (run.cycle disturbance).behind earlier := by
  have ticked := tick_behind run.generator run.channel earlier run.now
  unfold Run.cycle Run.behind
  dsimp only
  rw [ticked]
  dsimp only
  rw [Disturbance.apply_behind]
  rfl

theorem Run.cycles_behind (run : Run) (earlier : Array Effect) (disturbances : Nat → Disturbance)
    (done left : Nat) :
    (run.behind earlier).cycles disturbances done left =
      (run.cycles disturbances done left).behind earlier := by
  induction left generalizing run done with
  | zero => rfl
  | succ left ih => rw [Run.cycles, Run.cycles, Run.cycle_behind, ih]

theorem runUntil_behind (generator : LoadGenerator) (channel : Channel) (earlier : Array Effect)
    (now : UInt64) (sleeps : Nat) (disturbances : Nat → Disturbance) :
    generator.runUntil (channel.behind earlier) now sleeps disturbances =
      (generator.runUntil channel now sleeps disturbances).behind earlier := by
  have rate : (channel.behind earlier).rate = channel.rate := rfl
  have gone := Run.cycles_behind { generator, now, channel := (channel.log
    (.generatorStarted (UInt64.ofNat generator.buffer.size) channel.rate)) } earlier
      disturbances 0 sleeps
  dsimp only [Run.behind] at gone
  unfold runUntil
  dsimp only
  rw [rate, Channel.log_behind, gone]
  dsimp only [Run.behind]
  rw [Channel.log_behind]

end LoadGenerator

/-- The answer of a session behind more that was told before: a run shows its channel. -/
def Reply.behind (reply : Reply) (earlier : Array Effect) : Reply :=
  match reply with
  | ran run => ran (run.behind earlier)
  | other => other

/-- The answer without what was told before. -/
def Reply.untold : Reply → Reply
  | ran run => ran { run with channel := { run.channel with trace := #[] } }
  | other => other

theorem Reply.untold_behind (reply : Reply) (earlier : Array Effect) :
    (reply.behind earlier).untold = reply.untold := by
  cases reply <;> rfl

namespace Session

def behind (session : Session) (earlier : Array Effect) : Session :=
  { session with
    store := match session.store with
      | .ring channel named => .ring (channel.behind earlier) named
      | .file held trace => .file held (earlier ++ trace) }

theorem onChannel_behind (session : Session) (earlier : Array Effect) {act : Channel → Reply × Channel}
    (forgets : ∀ channel, act (channel.behind earlier) =
      ((act channel).1.behind earlier, (act channel).2.behind earlier)) :
    (session.behind earlier).onChannel act =
      ((session.onChannel act).1.behind earlier, (session.onChannel act).2.behind earlier) := by
  obtain ⟨path, now, store, readers, seat⟩ := session
  cases store with
  | ring channel named =>
      have same := forgets channel
      unfold onChannel
      dsimp only [behind, channel?]
      rw [same]
      rfl
  | file held trace => rfl

theorem onProducer_behind (session : Session) (earlier : Array Effect)
    {act : Channel → Reply × Channel}
    (forgets : ∀ channel, act (channel.behind earlier) =
      ((act channel).1.behind earlier, (act channel).2.behind earlier)) :
    (session.behind earlier).onProducer act =
      ((session.onProducer act).1.behind earlier, (session.onProducer act).2.behind earlier) := by
  have seat : (session.behind earlier).seat = session.seat := rfl
  unfold onProducer
  rw [seat]
  cases session.seat with
  | producer => exact session.onChannel_behind earlier forgets
  | generator generator => rfl
  | gone => rfl

theorem onGenerator_behind (session : Session) (earlier : Array Effect)
    {act : LoadGenerator → Channel → Reply × LoadGenerator × Channel}
    (forgets : ∀ generator channel, act generator (channel.behind earlier) =
      ((act generator channel).1.behind earlier, (act generator channel).2.1,
        (act generator channel).2.2.behind earlier)) :
    (session.behind earlier).onGenerator act =
      ((session.onGenerator act).1.behind earlier, (session.onGenerator act).2.behind earlier) := by
  obtain ⟨path, now, store, readers, seat⟩ := session
  cases store with
  | ring channel named =>
      cases seat with
      | generator generator =>
          have same := forgets generator channel
          unfold onGenerator
          dsimp only [behind, channel?]
          rw [same]
          rfl
      | producer => rfl
      | gone => rfl
  | file held trace => cases seat <;> rfl

theorem log_behind (session : Session) (earlier : Array Effect) (event : Event) :
    (session.behind earlier).log event = (session.log event).behind earlier := by
  obtain ⟨path, now, store, readers, seat⟩ := session
  cases store with
  | ring channel named =>
      exact congrArg (fun channel => (⟨path, now, .ring channel named, readers, seat⟩ : Session))
        (channel.log_behind earlier event)
  | file held trace =>
      exact congrArg (fun trace => (⟨path, now, .file held trace, readers, seat⟩ : Session))
        Array.append_push.symm

theorem withFile_behind (session : Session) (earlier : Array Effect) (file : RingFile) :
    (session.behind earlier).withFile file = (session.withFile file).behind earlier := by
  obtain ⟨path, now, store, readers, seat⟩ := session
  cases store with
  | ring channel named => cases file <;> rfl
  | file held trace => rfl

theorem file?_behind (session : Session) (earlier : Array Effect) :
    (session.behind earlier).file? = session.file? := by
  obtain ⟨path, now, store, readers, seat⟩ := session
  cases store with
  | ring channel named => cases named <;> rfl
  | file held trace => rfl

theorem readOnce_behind (session : Session) (earlier : Array Effect) (number : Nat) :
    (session.behind earlier).readOnce number =
      ((session.readOnce number).1.behind earlier, (session.readOnce number).2.behind earlier) := by
  have same : (session.behind earlier).readers = session.readers := rfl
  unfold readOnce
  rw [same]
  cases session.readers[number]? with
  | none => rfl
  | some reader =>
      obtain ⟨path, now, store, readers, seat⟩ := session
      cases store with
      | ring channel named =>
          dsimp only [behind]
          rw [channel.read_behind]
          rfl
      | file held trace =>
          cases held with
          | short held => rfl
          | whole region =>
              dsimp only [behind]
              obtain ⟨outcome, counted, rest⟩ := reader.take region
              cases outcome with
              | corrupted place =>
                  exact congrArg (Prod.mk _) (log_behind ⟨path, now, .file (.whole rest) trace,
                    readers.setIfInBounds number counted, seat⟩ earlier (.desynchronised place))
              | _ => rfl

theorem readAll_behind (session : Session) (earlier : Array Effect) (number : Nat) :
    (session.behind earlier).readAll number =
      ((session.readAll number).1.behind earlier, (session.readAll number).2.behind earlier) := by
  have same : (session.behind earlier).readers = session.readers := rfl
  unfold readAll
  rw [same]
  cases session.readers[number]? with
  | none => rfl
  | some reader =>
      obtain ⟨path, now, store, readers, seat⟩ := session
      cases store with
      | ring channel named =>
          have polled : (channel.behind earlier).poll now reader = _ :=
            channel.pollFor_behind earlier now reader _
          dsimp only [behind]
          rw [polled]
          rfl
      | file held trace =>
          cases held with
          | short held => rfl
          | whole region =>
              dsimp only [behind]
              obtain ⟨ended, records, counted, rest⟩ := reader.poll region
              cases ended with
              | corrupted place =>
                  exact congrArg (Prod.mk _) (log_behind ⟨path, now, .file (.whole rest) trace,
                    readers.setIfInBounds number counted, seat⟩ earlier (.desynchronised place))
              | _ => rfl

theorem openReader_behind (session : Session) (earlier : Array Effect) (view : Option UInt64)
    (missing : Bool) :
    (session.behind earlier).openReader view missing =
      ((session.openReader view missing).1.behind earlier,
        (session.openReader view missing).2.behind earlier) := by
  unfold openReader
  cases missing with
  | true => rfl
  | false =>
      rw [if_neg Bool.false_ne_true, if_neg Bool.false_ne_true, file?_behind]
      cases session.file? with
      | none => rfl
      | some file =>
          dsimp only
          cases file.attach view with
          | error error => rfl
          | ok capacity =>
              have logged := session.log_behind earlier (.attached session.path capacity)
              exact congrArg (fun attached : Session => (Reply.opened session.readers.size,
                { attached with readers :=
                    session.readers.push { capacity, inProcess := false } })) logged

theorem bind_behind (session : Session) (earlier : Array Effect) (binding : Binding) :
    (session.behind earlier).bind binding =
      ((session.bind binding).1.behind earlier, (session.bind binding).2.behind earlier) := by
  have bound (ready : Channel) (notifier : Option Notifier) :=
    congrArg (fun bound : Option Notifier × Channel => (Reply.bound bound.1.isSome, bound.2))
      (ready.bindNotifier_behind earlier session.now notifier)
  refine session.onChannel_behind earlier fun channel => ?_
  cases binding with
  | nothing => exact bound channel none
  | counting reaction =>
      exact bound { channel with counts := channel.counts.push 0 }
        (some (.counting channel.counts.size reaction))
  | target target =>
      exact bound { channel with bells := channel.bells.push target }
        (some (.descriptor channel.bells.size))

theorem waitReady_behind (session : Session) (earlier : Array Effect) (timeout : Option Nat)
    (delay : Nat) (payload : Bytes) (times : Nat) :
    (session.behind earlier).waitReady timeout delay payload times =
      ((session.waitReady timeout delay payload times).1.behind earlier,
        (session.waitReady timeout delay payload times).2.behind earlier) := by
  refine session.onChannel_behind earlier fun channel => ?_
  have ready (channel : Channel) : (channel.behind earlier).isReady = channel.isReady := rfl
  have since (pushed : Channel) :
      (pushed.behind earlier).trace.toList.drop (channel.behind earlier).trace.size =
        pushed.trace.toList.drop channel.trace.size :=
    drop_append_size earlier channel.trace pushed.trace
  dsimp only
  rw [channel.pushTimes_behind]
  dsimp only
  rw [since, ready, ready]
  rfl

theorem describeReader_behind (session : Session) (earlier : Array Effect) (number : Nat) :
    (session.behind earlier).describeReader number =
      (session.describeReader number).behind earlier := by
  obtain ⟨path, now, store, readers, seat⟩ := session
  cases store with
  | ring channel named =>
      unfold describeReader
      dsimp only [behind]
      cases readers[number]? <;> rfl
  | file held trace =>
      unfold describeReader
      dsimp only [behind]
      cases readers[number]? <;> cases held <;> rfl

theorem run_behind (session : Session) (earlier : Array Effect) (sleeps : Nat)
    (disturbances : Nat → LoadGenerator.Disturbance) :
    (session.behind earlier).perform (.run sleeps disturbances) =
      ((session.perform (.run sleeps disturbances)).1.behind earlier,
        (session.perform (.run sleeps disturbances)).2.behind earlier) := by
  obtain ⟨path, now, store, readers, seat⟩ := session
  cases store with
  | file held trace => cases seat <;> rfl
  | ring channel named =>
      cases seat with
      | generator generator =>
          unfold perform
          dsimp only [behind, channel?]
          rw [generator.runUntil_behind]
          rfl
      | producer => rfl
      | gone => rfl

/-- A request of the control surface is answered as it was carried out. -/
theorem requested {result : Except RingError Unit × Channel} {earlier : Array Effect}
    {later : Except RingError Unit × Channel} (same : later = (result.1, result.2.behind earlier)) :
    (replyTo later.1, later.2) = ((replyTo result.1).behind earlier, result.2.behind earlier) := by
  rw [same]
  obtain ⟨answer, after⟩ := result
  cases answer <;> rfl

theorem makeGenerator_behind (session : Session) (earlier : Array Effect) (size : UInt64) :
    (session.behind earlier).makeGenerator size =
      ((session.makeGenerator size).1.behind earlier, (session.makeGenerator size).2.behind earlier) := by
  obtain ⟨path, now, store, readers, seat⟩ := session
  cases store with
  | file held trace => cases seat <;> rfl
  | ring channel named =>
      cases seat with
      | producer =>
          unfold makeGenerator
          dsimp only [behind, channel?]
          have most : (channel.behind earlier).maxPayload = channel.maxPayload := rfl
          rw [most]
          cases LoadGenerator.make channel.maxPayload size <;> rfl
      | generator generator => rfl
      | gone => rfl

section

variable (session : Session) (earlier : Array Effect)

theorem push_behind (payload : Bytes) (times : Nat) :
    (session.behind earlier).perform (.push payload times) =
      ((session.perform (.push payload times)).1.behind earlier,
        (session.perform (.push payload times)).2.behind earlier) := by
  apply session.onProducer_behind earlier
  intro channel
  exact congrArg (fun pushed : List PushOutcome × Channel => (Reply.outcomes pushed.1, pushed.2))
    (channel.pushTimes_behind earlier session.now payload times)

theorem drainBell_behind (number : Nat) :
    (session.behind earlier).perform (.drainBell number) =
      ((session.perform (.drainBell number)).1.behind earlier,
        (session.perform (.drainBell number)).2.behind earlier) := by
  unfold perform
  apply session.onChannel_behind earlier
  intro channel
  have same : (channel.behind earlier).bells = channel.bells := rfl
  rw [same]
  cases channel.bells[number]? with
  | none => rfl
  | some target =>
      dsimp only
      cases target.drain <;> rfl

theorem peek_behind (offset length : Nat) :
    (session.behind earlier).perform (.peek offset length) =
      ((session.perform (.peek offset length)).1.behind earlier,
        (session.perform (.peek offset length)).2.behind earlier) := by
  unfold perform
  dsimp only
  rw [file?_behind]
  cases session.file? <;> rfl

theorem page_behind :
    (session.behind earlier).perform .page =
      ((session.perform .page).1.behind earlier, (session.perform .page).2.behind earlier) := by
  unfold perform
  dsimp only
  rw [file?_behind]
  cases session.file?.bind RingFile.fields? <;> rfl

/-- The file of the ring is changed, if it has one. -/
theorem change_behind {command : Command} {change : RingFile → RingFile}
    (changes : ∀ session : Session, session.perform command =
      match session.file? with
      | none => (.noSuchHandle, session)
      | some file => (.done, session.withFile (change file))) :
    (session.behind earlier).perform command =
      ((session.perform command).1.behind earlier, (session.perform command).2.behind earlier) := by
  rw [changes, changes, file?_behind]
  cases session.file? with
  | none => rfl
  | some file => exact congrArg (Prod.mk _) (session.withFile_behind earlier (change file))

theorem endGenerator_behind :
    (session.behind earlier).perform .endGenerator =
      ((session.perform .endGenerator).1.behind earlier,
        (session.perform .endGenerator).2.behind earlier) := by
  obtain ⟨path, now, store, readers, seat⟩ := session
  cases seat <;> rfl

theorem tick_behind (times : Nat) :
    (session.behind earlier).perform (.tick times) =
      ((session.perform (.tick times)).1.behind earlier,
        (session.perform (.tick times)).2.behind earlier) := by
  unfold perform
  apply session.onGenerator_behind earlier
  intro generator channel
  exact congrArg (fun ticked : List PushOutcome × LoadGenerator × Channel =>
    (Reply.ticked ticked.1 ticked.2.1.sequence (LoadGenerator.intervalMillis ticked.2.2.rate),
      ticked.2.1, ticked.2.2)) (generator.tickTimes_behind channel earlier session.now times)

end

theorem perform_behind (session : Session) (earlier : Array Effect) (command : Command) :
    (session.behind earlier).perform command =
      ((session.perform command).1.behind earlier, (session.perform command).2.behind earlier) := by
  cases command with
  | push payload times => exact session.push_behind earlier payload times
  | reserve need =>
      unfold perform
      exact session.onProducer_behind earlier fun _ => rfl
  | producer =>
      unfold perform
      exact session.onProducer_behind earlier fun _ => rfl
  | read number => exact session.readOnce_behind earlier number
  | poll number => exact session.readAll_behind earlier number
  | reader number =>
      exact congrArg (·, session.behind earlier) (session.describeReader_behind earlier number)
  | openReader view missing => exact session.openReader_behind earlier view missing
  | advanceTail position =>
      unfold perform
      exact session.onChannel_behind earlier fun channel =>
        requested (channel.advanceTail_behind earlier session.now position)
  | advanceBy distance =>
      unfold perform
      exact session.onChannel_behind earlier fun channel =>
        requested (channel.advanceTail_behind earlier session.now _)
  | setWatermarks hi lo =>
      unfold perform
      exact session.onChannel_behind earlier fun channel =>
        requested (channel.setWatermarks_behind earlier hi lo)
  | setRate rate =>
      unfold perform
      exact session.onChannel_behind earlier fun channel =>
        requested (channel.setRate_behind earlier rate)
  | reset =>
      unfold perform
      exact session.onChannel_behind earlier fun channel =>
        congrArg (Prod.mk Reply.done) (channel.reset_behind earlier)
  | control =>
      unfold perform
      exact session.onChannel_behind earlier fun _ => rfl
  | bind binding => exact session.bind_behind earlier binding
  | drainBell number => exact session.drainBell_behind earlier number
  | waitReady timeout delay payload times =>
      exact session.waitReady_behind earlier timeout delay payload times
  | peek offset length => exact session.peek_behind earlier offset length
  | page => exact session.page_behind earlier
  | poke offset bytes => exact session.change_behind earlier fun _ => rfl
  | setFields fields => exact session.change_behind earlier fun _ => rfl
  | makeGenerator size => exact session.makeGenerator_behind earlier size
  | endGenerator => exact session.endGenerator_behind earlier
  | tick times => exact session.tick_behind earlier times
  | interval =>
      unfold perform
      exact session.onGenerator_behind earlier fun _ _ => rfl
  | run sleeps disturbances => exact session.run_behind earlier sleeps disturbances

/-- Each answer to what is asked in turn, what became visible meanwhile, and the session behind it. -/
def tells (session : Session) : List (Option UInt64 × Command) → List (Reply × List Effect × Session)
  | [] => []
  | (time, command) :: rest =>
      let (reply, after) := session.step time command
      (reply.untold, after.trace.toList.drop session.trace.size, after.clearTrace) :: after.tells rest

theorem trace_behind (session : Session) (earlier : Array Effect) :
    (session.behind earlier).trace = earlier ++ session.trace := by
  obtain ⟨path, now, store, readers, seat⟩ := session
  cases store <;> rfl

theorem clearTrace_behind (session : Session) (earlier : Array Effect) :
    (session.behind earlier).clearTrace = session.clearTrace := by
  obtain ⟨path, now, store, readers, seat⟩ := session
  cases store <;> rfl

/-- Every session is one that has told nothing, behind all it has told. -/
theorem clearTrace_behind_trace (session : Session) :
    session.clearTrace.behind session.trace = session := by
  obtain ⟨path, now, store, readers, seat⟩ := session
  cases store with
  | ring channel named =>
      exact congrArg (fun trace => (⟨path, now, .ring { channel with trace } named, readers, seat⟩ : Session))
        Array.append_empty
  | file held trace =>
      exact congrArg (fun trace => (⟨path, now, .file held trace, readers, seat⟩ : Session))
        Array.append_empty

theorem tells_behind (session : Session) (earlier : Array Effect)
    (turns : List (Option UInt64 × Command)) :
    (session.behind earlier).tells turns = session.tells turns := by
  induction turns generalizing session with
  | nil => rfl
  | cons turn rest ih =>
      obtain ⟨time, command⟩ := turn
      have stepped : (session.behind earlier).step time command =
          ((session.step time command).1.behind earlier, (session.step time command).2.behind earlier) :=
        perform_behind { session with now := time.getD (session.now + 1000) } earlier command
      rw [tells, tells, stepped]
      obtain ⟨reply, after⟩ := session.step time command
      dsimp only
      rw [trace_behind, trace_behind, drop_append_size, reply.untold_behind, clearTrace_behind, ih]

/-- Sessions that are the same but for what they have told go on alike. -/
theorem tells_congr {session other : Session} (same : session.clearTrace = other.clearTrace)
    (turns : List (Option UInt64 × Command)) : session.tells turns = other.tells turns := by
  rw [← session.clearTrace_behind_trace, ← other.clearTrace_behind_trace, tells_behind, tells_behind,
    same]

end Session

end RecordRing
