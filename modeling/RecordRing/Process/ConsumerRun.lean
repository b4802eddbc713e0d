import RecordRing.EventTarget
import RecordRing.LoadPattern
import RecordRing.Log.Event
import RecordRing.Process.FailureReport
import RecordRing.Process.Feed
import RecordRing.Reader

set_option autoImplicit false

namespace RecordRing

structure ConsumerTally where
  packets : UInt64 := 0
  bad : UInt64 := 0
  episodes : UInt64 := 0
  lastSequence : Option UInt64 := none
  /-- Nanoseconds from filling to pushing, over all packets. -/
  latency : UInt64 := 0
  deriving DecidableEq, Repr

namespace ConsumerTally

/-- The later moment less the earlier one, or zero. -/
def lapse (earlier later : UInt64) : UInt64 :=
  if earlier ≤ later then later - earlier else 0

/-- Count a record, and tell what is remarkable about it. -/
def take (tally : ConsumerTally) (record : Record) : List Event × ConsumerTally :=
  match record with
  | .packet header payload =>
      match LoadPattern.verify (.ofBytes payload) with
      | .ok (timestamp, sequence) =>
          let remarks := match tally.lastSequence with
            | some previous =>
                if sequence ≤ previous then [.sequenceWentBack sequence previous] else []
            | none => []
          (remarks,
            { tally with
              packets := tally.packets + 1
              latency := tally.latency + lapse timestamp header.timestamp
              lastSequence := some sequence })
      | .error fault =>
          ([.payloadRejected fault.message], { tally with bad := tally.bad + 1 })
  | .drop _ summary =>
      ([.recordsLost summary.lost (lapse summary.start summary.finish)],
        { tally with episodes := tally.episodes + 1 })

def takeAll (tally : ConsumerTally) : List Record → List Event × ConsumerTally
  | [] => ([], tally)
  | record :: rest =>
      let (remarks, counted) := tally.take record
      let (others, last) := counted.takeAll rest
      (remarks ++ others, last)

end ConsumerTally

/-- Where a consumer process stands. Time is virtual; it moves only while the consumer idles. -/
structure ConsumerRun where
  /-- The files as others leave them. -/
  files : FileTree
  /-- The doorbell that it was handed. -/
  bell : Option EventTarget := none
  /-- The clock, in nanoseconds. -/
  now : Nat
  idles : Array Nat := #[]
  events : Array Event := #[]

namespace ConsumerRun

/-- How long a consumer waits for the ring file. -/
def openTimeout : Nat := 10000000000

/-- How long it sleeps between two attempts to attach. -/
def openInterval : Nat := 10000000

/-- How often it reports, and how long it waits for the doorbell. -/
def reportInterval : Nat := 1000000000

def log (run : ConsumerRun) (events : List Event) : ConsumerRun :=
  { run with events := run.events ++ events }

def nextIdle (run : ConsumerRun) : Nat :=
  run.idles.size + 1

/-- Idle for a length, or until the end of the idle; others may ring the doorbell in it. -/
def beginIdle (run : ConsumerRun) (others : Surroundings) (length : Nat) : ConsumerRun :=
  let rung := run.bell.map fun bell =>
    (others.signals run.nextIdle).repeat (fun held => (held.signal).toOption.getD held) bell
  { run with bell := rung, idles := run.idles.push length }

def sleep (run : ConsumerRun) (others : Surroundings) (length : Nat) : ConsumerRun :=
  { run.beginIdle others length with now := run.now + length }

/-- Wait for the doorbell. If it was rung, no time passes, and it is quiet afterwards. -/
def waitForBell (run : ConsumerRun) (others : Surroundings) : ConsumerRun :=
  let fed := run.beginIdle others reportInterval
  match fed.bell with
  | some bell =>
      if bell.isReady then
        { fed with bell := some (match bell.drain with
          | .ok (_, quiet) => quiet
          | .error _ => bell) }
      else
        { fed with now := fed.now + reportInterval }
  | none => { fed with now := fed.now + reportInterval }

/-- Attach to the file that the path leads to now. -/
def attach (run : ConsumerRun) (path : String) : Except RingError (Mapping × UInt64) :=
  match run.files.openMapped path with
  | .error failure => .error (.failure failure)
  | .ok (location, bytes) => do
      let capacity ← RingFile.capacityIn bytes.size (Region.pageOf? bytes) none
      return ({ region := .ofBytes bytes, location := some location }, capacity)

/-- Sleep between two attempts to attach. -/
def sleepUnattached (run : ConsumerRun) (others : Surroundings) : ConsumerRun :=
  { run.sleep others openInterval with files := others.change run.nextIdle run.files }

@[simp] theorem sleepUnattached_now (run : ConsumerRun) (others : Surroundings) :
    (run.sleepUnattached others).now = run.now + openInterval := rfl

/-- An attempt to attach: when it is made, and what comes of it. -/
structure Attempt where
  moment : Nat
  outcome : Except RingError (Mapping × UInt64)

/-- A wait for the ring: the attempts in order, what came of the last one, and where that leaves the
process. -/
structure Wait where
  attempts : List Attempt
  outcome : Except RingError (Mapping × UInt64)
  run : ConsumerRun

def Wait.prepend (wait : Wait) (attempt : Attempt) : Wait :=
  { wait with attempts := attempt :: wait.attempts }

/-- Attach as soon as that is possible. At the deadline the last attempt is made, and its error is
the one that counts. -/
def awaitRing (run : ConsumerRun) (others : Surroundings) (path : String) (deadline : Nat) : Wait :=
  let attempt : Attempt := ⟨run.now, run.attach path⟩
  match attempt.outcome with
  | .ok attached => ⟨[attempt], .ok attached, run⟩
  | .error error =>
      if run.now < deadline then
        ((run.sleepUnattached others).awaitRing others path deadline).prepend attempt
      else
        ⟨[attempt], .error error, run⟩
termination_by deadline - run.now
decreasing_by
  simp only [sleepUnattached_now, openInterval]
  omega

/-- The wait within the time that there is for it. -/
def openWait (run : ConsumerRun) (others : Surroundings) (path : String) : Wait :=
  run.awaitRing others path (run.now + openTimeout)

/-- Attach, or tell why that was not possible in the end. -/
def openRing (run : ConsumerRun) (others : Surroundings) (path : String) :
    Except FailureReport (Mapping × UInt64) × ConsumerRun :=
  let wait := run.openWait others path
  (wait.outcome.mapError fun error => ⟨s!"opening ring at {path}", [error.message]⟩, wait.run)

/-- How a consumer idles when the ring is empty. -/
inductive Idle where
  | doorbell
  | sleep (length : Nat)
  deriving DecidableEq, Repr

structure Loop where
  run : ConsumerRun
  mapping : Mapping
  reader : Reader
  tally : ConsumerTally := {}
  lastReport : Nat

inductive Outcome where
  | goOn (loop : Loop)
  | failed (error : RingError) (loop : Loop)

namespace Loop

def report (loop : Loop) : Loop :=
  if loop.lastReport + reportInterval ≤ loop.run.now then
    let tally := loop.tally
    let average := tally.latency / (max tally.packets 1)
    let stats := Event.consumerStats tally.packets loop.reader.lost tally.episodes tally.bad average
      loop.mapping.region.page.used
    { loop with run := loop.run.log [stats], lastReport := loop.run.now }
  else
    loop

/-- Let an idle pass: what others do to the files in it, and what becomes of the rest. -/
def pass (loop : Loop) (others : Surroundings) (after : ConsumerRun) : Loop :=
  let (files, mapping) := loop.mapping.afterIdle others loop.run.nextIdle loop.run.files
  { loop with run := { after with files }, mapping }

/-- Idle once. A ring that is ready does not wait for the doorbell. -/
def idle (loop : Loop) (others : Surroundings) (how : Idle) : Loop :=
  match how with
  | .sleep length => loop.pass others (loop.run.sleep others length)
  | .doorbell =>
      if loop.reader.isReady loop.mapping.region.page then loop
      else loop.pass others (loop.run.waitForBell others)

/-- Poll once, report if it is time to, and idle if there was nothing to read. -/
def iterate (loop : Loop) (others : Surroundings) (how : Idle) : Outcome :=
  let (ended, records, reader, rest) := loop.reader.poll loop.mapping.region
  let (remarks, tally) := loop.tally.takeAll records
  let mapping := { loop.mapping with region := rest }
  let polled := { loop with run := loop.run.log remarks, mapping, reader, tally }
  match ended with
  | .corrupted place =>
      .failed (.corrupted place) { polled with run := polled.run.log [.desynchronised place] }
  | .overrun => .failed (.failure (.system .badAddress)) polled
  | .drained =>
      let reported := polled.report
      .goOn (if records.isEmpty then reported.idle others how else reported)

/-- Iterate until something fails, at most `fuel` times. -/
def iterations (loop : Loop) (others : Surroundings) (how : Idle) : Nat → Outcome
  | 0 => .goOn loop
  | fuel + 1 =>
      match loop.iterate others how with
      | .goOn next => next.iterations others how fuel
      | failed => failed

end Loop

end ConsumerRun

end RecordRing
