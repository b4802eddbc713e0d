import RecordRing.LoadGenerator
import RecordRing.Process.Feed

set_option autoImplicit false

namespace RecordRing

/-- Where a producer process stands. Time is virtual, and the threads take turns: the generator works
while the reporting thread sleeps. -/
structure ProducerRun where
  load : LoadGenerator.Run
  /-- The clock in nanoseconds. The generator sees it as a word. -/
  now : Nat
  files : FileTree
  /-- Where the ring's file lies, unless another one has taken its place. -/
  location : Option (List String)
  reported : Tallies := {}
  idles : Array Nat := #[]

namespace ProducerRun

def reportInterval : Nat := 1000000000

def log (run : ProducerRun) (event : Event) : ProducerRun :=
  { run with load := { run.load with channel := run.load.channel.log event } }

/-- The generator pushes `ticks` payloads and sleeps after each. -/
def work (run : ProducerRun) (ticks : Nat) : ProducerRun :=
  { run with load := run.load.cycles (fun _ => {}) 0 ticks }

def mapping (run : ProducerRun) : Mapping :=
  ⟨run.load.channel.region, run.location⟩

/-- What others do to the files in the sleep that ends. The ring stays mapped, whatever happens to
its file. -/
def changedBy (run : ProducerRun) (others : Surroundings) : ProducerRun :=
  let (files, mapping) := run.mapping.afterIdle others (run.idles.size + 1) run.files
  let channel := { run.load.channel with region := mapping.region }
  { run with load := { run.load with channel }, files, location := mapping.location }

/-- How long the generator has slept by itself since an earlier point of the run. -/
def workedSince (run earlier : ProducerRun) : Nat :=
  (run.load.slept.toList.drop earlier.load.slept.size).foldr (· + ·) 0

/-- One sleep of the reporting thread. It does not end before its time, and not before the generator
has taken its turn. -/
def sleep (run : ProducerRun) (others : Surroundings) (ticks : Nat) : ProducerRun :=
  let changed := (run.work ticks).changedBy others
  let now := run.now + max (changed.workedSince run) reportInterval
  { changed with
    load := { changed.load with now := UInt64.ofNat now }
    now
    idles := run.idles.push reportInterval }

def report (run : ProducerRun) : ProducerRun :=
  let channel := run.load.channel
  let tallies := channel.tallies
  let stats := Event.ringStats (tallies.records - run.reported.records)
    (tallies.drops - run.reported.drops) channel.page.used tallies.drops channel.page.isDropping
  { run.log stats with reported := tallies }

/-- Sleep and report until `lifetime` nanoseconds have passed since `start`, at most `fuel` times.
The second part tells whether the time was up. -/
def reports (run : ProducerRun) (others : Surroundings) (ticks start lifetime : Nat) :
    Nat → ProducerRun × Bool
  | 0 => (run, false)
  | fuel + 1 =>
      let told := (run.sleep others ticks).report
      if lifetime ≤ told.now - start then (told, true)
      else told.reports others ticks start lifetime fuel

/-- Stop the generator, and report what it did. -/
def stop (run : ProducerRun) : ProducerRun :=
  let totals := run.load.totals
  (run.log (.generatorStopped totals.written totals.dropped)).log
    (.producerFinished totals.written totals.dropped)

def begin (generator : LoadGenerator) (channel : Channel) (files : FileTree) (location : List String)
    (start : Nat) : ProducerRun :=
  let size := UInt64.ofNat generator.buffer.size
  let started := channel.log (.generatorStarted size channel.rate)
  { load := { generator, channel := started, now := UInt64.ofNat start }
    now := start
    files
    location := some location
    reported := channel.tallies }

def stopDue : ProducerRun × Bool → ProducerRun × Bool
  | (done, true) => (done.stop, true)
  | unfinished => unfinished

/-- A whole run of a number of seconds. Every sleep takes a second or more, so so many sleeps are
enough, and there is at least one. -/
def runFor (generator : LoadGenerator) (channel : Channel) (files : FileTree)
    (location : List String) (start : Nat) (others : Surroundings) (ticks seconds : Nat) :
    ProducerRun × Bool :=
  let run := begin generator channel files location start
  stopDue (run.reports others ticks start (seconds * reportInterval) (seconds + 1))

end ProducerRun

end RecordRing
