import RecordRing.Channel.Control
import RecordRing.Channel.Producer
import RecordRing.LoadPattern

set_option autoImplicit false

namespace RecordRing

/-- Pushes numbered payloads of one size. -/
structure LoadGenerator where
  /-- The payload pushed last, to be overwritten by the next one. -/
  buffer : Buffer
  /-- Payloads pushed so far. -/
  sequence : UInt64 := 0

/-- How many payloads of a run were written and dropped. -/
structure LoadTotals where
  written : UInt64 := 0
  dropped : UInt64 := 0
  deriving DecidableEq, Repr

namespace LoadTotals

def count (totals : LoadTotals) : PushOutcome → LoadTotals
  | .written => { totals with written := totals.written + 1 }
  | .dropped => { totals with dropped := totals.dropped + 1 }
  | .tooLarge => totals

end LoadTotals

namespace LoadGenerator

/-- A payload size that a generator refuses, and the largest one it would accept. -/
structure SizeFault where
  size : UInt64
  largest : UInt64
  deriving DecidableEq, Repr

def SizeFault.message (fault : SizeFault) : String :=
  s!"payload size {fault.size} outside {LoadPattern.minPayload}..={fault.largest}"

/-- A generator for payloads of a size that the pattern and the ring allow. -/
def make (largest size : UInt64) : Except SizeFault LoadGenerator :=
  if size.toNat < LoadPattern.minPayload || size > largest then
    .error ⟨size, largest⟩
  else
    .ok { buffer := .zeros size.toNat }

def payload (generator : LoadGenerator) (filled : UInt64) : Buffer :=
  LoadPattern.fill generator.buffer filled (generator.sequence + 1)

/-- Push the next payload. The clock is read to fill it, and again by the push. -/
def tickAt (generator : LoadGenerator) (channel : Channel) (filled now : UInt64) :
    PushOutcome × LoadGenerator × Channel :=
  let buffer := generator.payload filled
  let (outcome, pushed) := channel.push now buffer.toBytes
  (outcome, { buffer, sequence := generator.sequence + 1 }, pushed)

/-- Push the next payload while the clock stands still. -/
def tick (generator : LoadGenerator) (channel : Channel) (now : UInt64) :
    PushOutcome × LoadGenerator × Channel :=
  generator.tickAt channel now now

/-- Push a number of payloads while the clock stands still. -/
def tickTimes (generator : LoadGenerator) (channel : Channel) (now : UInt64) :
    Nat → List PushOutcome × LoadGenerator × Channel
  | 0 => ([], generator, channel)
  | times + 1 =>
      let (outcome, next, pushed) := generator.tick channel now
      let (outcomes, last, done) := next.tickTimes pushed now times
      (outcome :: outcomes, last, done)

/-- Milliseconds between two pushes at a rate, never less than one. -/
def intervalMillis (rate : UInt32) : Nat :=
  max (1000 / max rate.toNat 1) 1

def intervalNanos (rate : UInt32) : Nat :=
  intervalMillis rate * 1000000

/-- What happens to the channel while the generator sleeps. -/
structure Disturbance where
  rate : Option UInt32 := none
  drain : Bool := false

/-- Let the disturbance happen; a rate that is refused changes nothing. -/
def Disturbance.apply (disturbance : Disturbance) (channel : Channel) (now : UInt64) : Channel :=
  let rated := match disturbance.rate with
    | none => channel
    | some rate => (channel.setRate rate).2
  if disturbance.drain then (rated.advanceTail now rated.page.head).2 else rated

structure Run where
  generator : LoadGenerator
  channel : Channel
  now : UInt64
  totals : LoadTotals := {}
  /-- The lengths of the sleeps so far, in nanoseconds. -/
  slept : Array Nat := #[]

/-- One cycle: push, then sleep for the interval of the rate as it is then. -/
def Run.cycle (run : Run) (disturbance : Disturbance) : Run :=
  let (outcome, generator, pushed) := run.generator.tick run.channel run.now
  let interval := intervalNanos pushed.rate
  let now := run.now + UInt64.ofNat interval
  { generator
    channel := disturbance.apply pushed now
    now
    totals := run.totals.count outcome
    slept := run.slept.push interval }

/-- Cycles until the generator is stopped in one of its sleeps, counted from `done + 1`. -/
def Run.cycles (run : Run) (disturbances : Nat → Disturbance) (done : Nat) : Nat → Run
  | 0 => run
  | left + 1 =>
      (run.cycle (disturbances (done + 1))).cycles disturbances (done + 1) left

/-- A whole run, stopped in the sleep of the given number, or before it starts if that is zero. -/
def runUntil (generator : LoadGenerator) (channel : Channel) (now : UInt64) (sleeps : Nat)
    (disturbances : Nat → Disturbance) : Run :=
  let started := channel.log
    (.generatorStarted (UInt64.ofNat generator.buffer.size) channel.rate)
  let run : Run := { generator, channel := started, now }
  let finished := run.cycles disturbances 0 sleeps
  { finished with
    channel := finished.channel.log
      (.generatorStopped finished.totals.written finished.totals.dropped) }

end LoadGenerator

end RecordRing
