import RecordRing.Session.Basic

set_option autoImplicit false

namespace RecordRing

namespace Session

/-- Do something to the channel, if there is one. -/
def onChannel (session : Session) (act : Channel → Reply × Channel) : Reply × Session :=
  match session.channel? with
  | none => (.noSuchHandle, session)
  | some channel =>
      let (reply, after) := act channel
      (reply, session.withChannel after)

def onProducer (session : Session) (act : Channel → Reply × Channel) : Reply × Session :=
  match session.seat with
  | .producer => session.onChannel act
  | _ => (.noProducer, session)

def onGenerator (session : Session)
    (act : LoadGenerator → Channel → Reply × LoadGenerator × Channel) : Reply × Session :=
  match session.seat, session.channel? with
  | .generator generator, some channel =>
      let (reply, next, after) := act generator channel
      (reply, { session.withChannel after with seat := .generator next })
  | _, _ => (.noProducer, session)

def replyTo (result : Except RingError Unit) : Reply :=
  match result with
  | .ok () => .done
  | .error error => .refused error

def readOnce (session : Session) (number : Nat) : Reply × Session :=
  match session.readers[number]?, session.store with
  | none, _ => (.noSuchHandle, session)
  | some reader, .ring channel _ =>
      let (outcome, counted, after) := channel.read session.now reader
      (.read outcome, (session.withChannel after).withReader number counted)
  | some reader, .file (.whole region) _ =>
      let (outcome, counted, after) := reader.take region
      let moved := (session.withFile (.whole after)).withReader number counted
      match outcome with
      | .corrupted place => (.read outcome, moved.log (.desynchronised place))
      | _ => (.read outcome, moved)
  | some _, .file (.short _) _ => (.noSuchHandle, session)

def readAll (session : Session) (number : Nat) : Reply × Session :=
  match session.readers[number]?, session.store with
  | none, _ => (.noSuchHandle, session)
  | some reader, .ring channel _ =>
      let (ended, records, counted, after) := channel.poll session.now reader
      (.polled ended records, (session.withChannel after).withReader number counted)
  | some reader, .file (.whole region) _ =>
      let (ended, records, counted, after) := reader.poll region
      let moved := (session.withFile (.whole after)).withReader number counted
      match ended with
      | .corrupted place => (.polled ended records, moved.log (.desynchronised place))
      | _ => (.polled ended records, moved)
  | some _, .file (.short _) _ => (.noSuchHandle, session)

def describeReader (session : Session) (number : Nat) : Reply :=
  let page? := match session.store with
    | .ring channel _ => some channel.page
    | .file (.whole region) _ => some region.page
    | .file (.short _) _ => none
  match session.readers[number]?, page? with
  | some reader, some page => .reader { page, reader, ready := reader.isReady page }
  | _, _ => .noSuchHandle

def openReader (session : Session) (view : Option UInt64) (missing : Bool) : Reply × Session :=
  if missing then
    (.refused (.failure (.system .noSuchFile)), session)
  else
    match session.file? with
    | none => (.noSuchHandle, session)
    | some file =>
        match file.attach view with
        | .error error => (.refused error, session)
        | .ok capacity =>
            let reader : Reader := { capacity, inProcess := false }
            (.opened session.readers.size,
              { session.log (.attached session.path capacity) with
                readers := session.readers.push reader })

/-- Bind what is asked for, making the notifier first. -/
def bind (session : Session) (binding : Binding) : Reply × Session :=
  session.onChannel fun channel =>
    let (notifier, ready) : Option Notifier × Channel := match binding with
      | .nothing => (none, channel)
      | .counting reaction =>
          (some (.counting channel.counts.size reaction),
            { channel with counts := channel.counts.push 0 })
      | .target target =>
          (some (.descriptor channel.bells.size), { channel with bells := channel.bells.push target })
    let (previous, bound) := ready.bindNotifier session.now notifier
    (.bound previous.isSome, bound)

/-- Wait for readiness on another thread, while this one pushes after a delay, if the producer is
there. The answer is that of the waiting thread: ready at once, woken, ready in the end, or out of
time. -/
def waitReady (session : Session) (timeout : Option Nat) (delay : Nat) (payload : Bytes)
    (times : Nat) : Reply × Session :=
  session.onChannel fun channel =>
    let seen := channel.trace.size
    let pushes := match session.seat with
      | .producer => times
      | _ => 0
    let (_, pushed) := channel.pushTimes session.now payload pushes
    let woken := (pushed.trace.toList.drop seen).contains .woken
    let inTime := match timeout with
      | none => true
      | some limit => delay ≤ limit
    (.ready (channel.isReady || (inTime && (woken || pushed.isReady))), pushed)

/-- Hand the producer to a generator. -/
def makeGenerator (session : Session) (size : UInt64) : Reply × Session :=
  match session.seat, session.channel? with
  | .producer, some channel =>
      match LoadGenerator.make channel.maxPayload size with
      | .ok generator => (.done, { session with seat := .generator generator })
      | .error fault => (.sizeRefused fault, { session with seat := .gone })
  | _, _ => (.noProducer, session)

def perform (session : Session) : Command → Reply × Session
  | .push payload times =>
      session.onProducer fun channel =>
        let (outcomes, pushed) := channel.pushTimes session.now payload times
        (.outcomes outcomes, pushed)
  | .reserve need => session.onProducer fun channel => (.position (channel.reserve need), channel)
  | .producer =>
      session.onProducer fun channel =>
        (.producer
          { dropping := channel.page.isDropping
            capacity := channel.capacity
            maxPayload := channel.maxPayload
            used := channel.page.used
            free := channel.free
            rate := channel.rate }, channel)
  | .read number => session.readOnce number
  | .poll number => session.readAll number
  | .reader number => (session.describeReader number, session)
  | .openReader view missing => session.openReader view missing
  | .advanceTail position =>
      session.onChannel fun channel =>
        let (result, moved) := channel.advanceTail session.now position
        (replyTo result, moved)
  | .advanceBy distance =>
      session.onChannel fun channel =>
        let position := (Int.ofNat channel.page.tail.toNat + distance) % UInt64.size
        let (result, moved) := channel.advanceTail session.now (UInt64.ofNat position.toNat)
        (replyTo result, moved)
  | .setWatermarks hi lo =>
      session.onChannel fun channel =>
        let (result, changed) := channel.setWatermarks hi lo
        (replyTo result, changed)
  | .setRate rate =>
      session.onChannel fun channel =>
        let (result, changed) := channel.setRate rate
        (replyTo result, changed)
  | .reset => session.onChannel fun channel => (.done, channel.reset)
  | .control =>
      session.onChannel fun channel =>
        (.control
          { page := channel.page
            capacity := channel.capacity
            order := channel.capacity.toNat.log2
            rate := channel.rate
            fresh := channel.page.head == 0 && channel.page.tail == 0 &&
              decide (channel.tallies = {}) }, channel)
  | .bind binding => session.bind binding
  | .drainBell number =>
      session.onChannel fun channel =>
        match channel.bells[number]? with
        | none => (.noSuchHandle, channel)
        | some target =>
            match target.drain with
            | .ok (count, after) =>
                (.drained count, { channel with bells := channel.bells.setIfInBounds number after })
            | .error error => (.refused (.failure (.system error)), channel)
  | .waitReady timeout delay payload times => session.waitReady timeout delay payload times
  | .peek offset length =>
      match session.file? with
      | none => (.noSuchHandle, session)
      | some file => (.bytes (Buffer.read file.bytes offset length), session)
  | .page =>
      match session.file?.bind RingFile.fields? with
      | some page => (.page page, session)
      | none => (.noSuchHandle, session)
  | .poke offset bytes =>
      match session.file? with
      | none => (.noSuchHandle, session)
      | some file => (.done, session.withFile (file.poke offset bytes))
  | .setFields fields =>
      match session.file? with
      | none => (.noSuchHandle, session)
      | some file => (.done, session.withFile (file.setFields fields))
  | .makeGenerator size => session.makeGenerator size
  | .endGenerator =>
      match session.seat with
      | .generator _ => (.done, { session with seat := .producer })
      | _ => (.noProducer, session)
  | .tick times =>
      session.onGenerator fun generator channel =>
        let (outcomes, next, pushed) := generator.tickTimes channel session.now times
        (.ticked outcomes next.sequence (LoadGenerator.intervalMillis pushed.rate), next, pushed)
  | .interval =>
      session.onGenerator fun generator channel =>
        (.interval (LoadGenerator.intervalMillis channel.rate) generator.sequence channel.rate,
          generator, channel)
  | .run sleeps disturbances =>
      match session.seat, session.channel? with
      | .generator generator, some channel =>
          let run := generator.runUntil channel session.now sleeps disturbances
          (.ran run,
            { session.withChannel run.channel with
              seat := .generator run.generator, now := run.now })
      | _, _ => (.noProducer, session)

/-- Set the clock, then carry out a command. Without a time of its own, a command comes a
microsecond after the one before it. -/
def step (session : Session) (time : Option UInt64) (command : Command) : Reply × Session :=
  { session with now := time.getD (session.now + 1000) }.perform command

end Session

end RecordRing
