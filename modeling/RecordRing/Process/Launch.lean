import RecordRing.Descriptors
import RecordRing.Log.Line
import RecordRing.Process.ConsumerRun
import RecordRing.Process.FailureReport
import RecordRing.Process.FileTree
import RecordRing.Process.ProducerRun
import RecordRing.Settings

set_option autoImplicit false

namespace RecordRing

/-- What a program finds when it starts, and what others do while it runs. -/
structure Host where
  files : FileTree
  fedPath : String
  feed : Feed := {}
  /-- The clock at the start, in nanoseconds. -/
  start : Nat := 0
  /-- Payloads that the generator pushes in each sleep of the reporting thread. -/
  ticks : Nat := 1
  /-- The value of the variable that names an inherited descriptor. -/
  inherited : Option String := none
  /-- The number of the descriptor that is open for it, and what it refers to. -/
  doorbell : Option (Nat × EventTarget) := none
  /-- How the process that is started shows its number. -/
  childProcess : String := "?"

inductive Ending where
  | finished
  | failed (report : FailureReport)
  | endless
  deriving DecidableEq, Repr

/-- What a run leaves behind. -/
structure RunOutcome where
  ending : Ending
  log : List String := []
  /-- What was said of directives of the log filter that are left out. -/
  complaints : List String := []
  /-- The stream for errors is open to the end, so a failure is heard of. -/
  heard : Bool := true
  /-- The lengths of the main thread's idles. -/
  idles : Array Nat := #[]
  files : FileTree

namespace RunOutcome

def exitStatus (outcome : RunOutcome) : Nat :=
  match outcome.ending with
  | .failed _ => 1
  | _ => 0

def errorText (outcome : RunOutcome) : String :=
  let complaints := String.join (outcome.complaints.map (· ++ "\n"))
  match outcome.ending with
  | .failed report => complaints ++ (if outcome.heard then report.text else "")
  | _ => complaints

end RunOutcome

/-- A failure to find settings, with its causes. -/
def Settings.LoadError.report (error : Settings.LoadError) : FailureReport :=
  match error with
  | .unreadable _ cause => ⟨error.message, [cause.message]⟩
  | .malformed text fault => ⟨error.message, [fault.report text]⟩
  | _ => ⟨error.message, []⟩

namespace Host

def settings (host : Host) (arguments : List String) : Except FailureReport Settings :=
  (Settings.loadOrDefault (arguments[0]?.map fun path => (path, host.files.read path))).mapError
    fun error => error.report.within "loading config"

/-- The whole seconds that the second argument gives, if there is one. -/
def lifetime (arguments : List String) : Except NumberText.Fault (Option Nat) :=
  match arguments[1]? with
  | none => .ok none
  | some text => (NumberText.unsigned (UInt64.size - 1) text.toList).map some

def fedLocation (host : Host) : List String :=
  match host.files.place host.fedPath with
  | .ok place => place.location
  | .error _ => []

def surroundings (host : Host) : Surroundings :=
  host.feed.surroundings host.fedLocation

/-- How often a consumer has to look at the ring. Once the last entry of the feed has passed, an idle
brings nothing new, and between two idles there is at most one poll that reads. -/
def enoughPolls (host : Host) : Nat :=
  2 * host.feed.last + 4

/-- Start the program that consumes, with a fresh counter as its doorbell and as the notifier. -/
def launchConsumer (host : Host) (program : String) (channel : Channel) (now : UInt64) :
    Except FailureReport Channel :=
  match host.files.launch program with
  | .error failure => .error ⟨s!"launching consumer {program}", [failure.message]⟩
  | .ok () =>
      let belled := { channel with bells := channel.bells.push (.counter 0) }
      let (_, bound) := belled.bindNotifier now (some (.descriptor channel.bells.size))
      .ok (bound.log (.consumerLaunched program host.childProcess))

def eventsOf (channel : Channel) : List Event :=
  channel.trace.toList.filterMap fun effect =>
    match effect with
    | .logged event => some event
    | _ => none

/-- A producer that has its settings and made its ring. -/
def feedRing (host : Host) (settings : Settings) (seconds : Option Nat) (location : List String)
    (channel : Channel) : RunOutcome :=
  let now := UInt64.ofNat host.start
  let filter := LogFilter.ofText settings.logLevel
  let outcome (ending : Ending) (channel : Channel) (idles : Array Nat) (files : FileTree) :
      RunOutcome :=
    { ending
      log := filter.lines (eventsOf channel)
      complaints := LogFilter.complaints settings.logLevel
      idles
      files }
  let early (ending : Ending) (channel : Channel) : RunOutcome :=
    outcome ending channel #[] (Mapping.store ⟨channel.region, some location⟩ host.files)
  let started := channel.log
    (.producerStarted settings.ringPath channel.capacity settings.rate settings.payloadSize)
  let launched : Except FailureReport Channel := match settings.consumerProgram with
    | none => .ok started
    | some program => host.launchConsumer program started now
  match launched with
  | .error report => early (.failed report) started
  | .ok channel =>
      match LoadGenerator.make channel.maxPayload settings.payloadSize, seconds with
      | .error fault, _ => early (.failed ⟨fault.message, []⟩) channel
      | .ok _, none => early .endless channel
      | .ok generator, some seconds =>
          let (run, done) := ProducerRun.runFor generator channel host.files location host.start
            host.surroundings host.ticks seconds
          outcome (if done then .finished else .endless) run.load.channel run.idles
            (run.mapping.store run.files)

def runProducer (host : Host) (arguments : List String) : RunOutcome :=
  let failed (report : FailureReport) : RunOutcome := { ending := .failed report, files := host.files }
  match host.settings arguments with
  | .error report => failed report
  | .ok settings =>
      match lifetime arguments with
      | .error fault => failed ⟨"duration must be whole seconds", [fault.message]⟩
      | .ok seconds =>
          let refused (report : FailureReport) : RunOutcome :=
            { failed report with complaints := LogFilter.complaints settings.logLevel }
          let creating := s!"creating ring at {settings.ringPath}"
          match settings.plan, host.files.creatable settings.ringPath with
          | .error error, _ => refused ⟨error.message, []⟩
          | .ok _, .error failure => refused ⟨creating, [failure.message]⟩
          | .ok plan, .ok (location, before) =>
              match Channel.create settings.ringPath before plan with
              | .error error => refused ⟨creating, [error.message]⟩
              | .ok channel => host.feedRing settings seconds location channel

/-- The number of the stream for errors; those of the other standard streams are below it. -/
def errorStream : Nat := 2

/-- The number of the ring file while a consumer has it mapped: the first one after the standard
streams. -/
def ringDescriptor : Nat := errorStream + 1

/-- The numbers that are open in a consumer that is attached. -/
def isOpen (host : Host) (number : Nat) : Bool :=
  number ≤ ringDescriptor || (host.doorbell.map Prod.fst) == some number

def consumerOutcome (settings : Settings) (ending : Ending) (run : ConsumerRun) (files : FileTree) :
    RunOutcome :=
  { ending
    log := (LogFilter.ofText settings.logLevel).lines run.events.toList
    complaints := LogFilter.complaints settings.logLevel
    idles := run.idles
    files }

/-- A run of a consumer from where it is attached to the ring. A descriptor that it adopted is closed
at the end of the run, and before a failure is told. -/
def drainRing (host : Host) (settings : Settings) (run : ConsumerRun) (mapping : Mapping)
    (capacity : UInt64) (lastError : SystemError) : RunOutcome :=
  let attached := run.log
    [.attached settings.ringPath capacity, .consumerAttached settings.ringPath capacity]
  match Descriptors.adopt host.inherited host.isOpen lastError with
  | .error failure =>
      let report : FailureReport := ⟨"adopting inherited eventfd", [failure.message]⟩
      consumerOutcome settings (.failed report) attached (mapping.store attached.files)
  | .ok adopted =>
      let (how, ready) := match adopted with
        | some _ => (ConsumerRun.Idle.doorbell, attached.log [.waitingOnDescriptor])
        | none => (ConsumerRun.Idle.sleep (settings.pollInterval.toNat * 1000), attached)
      let reader : Reader := { capacity, inProcess := false }
      let loop : ConsumerRun.Loop := { run := ready, mapping, reader, lastReport := ready.now }
      let (ending, last) := match loop.iterations host.surroundings how host.enoughPolls with
        | .failed error last => (Ending.failed ⟨error.message, []⟩, last)
        | .goOn last => (Ending.endless, last)
      let outcome := consumerOutcome settings ending last.run (last.mapping.store last.run.files)
      { outcome with heard := adopted != some errorStream }

def runConsumer (host : Host) (arguments : List String) : RunOutcome :=
  match host.settings arguments with
  | .error report => { ending := .failed report, files := host.files }
  | .ok settings =>
      let run : ConsumerRun :=
        { files := host.files, bell := host.doorbell.map Prod.snd, now := host.start }
      let lastError := match host.files.openMapped settings.ringPath with
        | .error (.system error) => error
        | _ => .none
      match run.openRing host.surroundings settings.ringPath with
      | (.error report, waited) =>
          consumerOutcome settings (.failed report) waited waited.files
      | (.ok (mapping, capacity), waited) =>
          host.drainRing settings waited mapping capacity lastError

end Host

end RecordRing
