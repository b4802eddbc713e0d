import RecordRing.ByteRing
import RecordRing.Log.Event
import RecordRing.EventTarget
import RecordRing.Region
import RecordRing.Watermark

set_option autoImplicit false

namespace RecordRing

/-- What a notifier does, once it is signalled, besides counting. -/
inductive Reaction where
  | nothing
  | fail
  | drain
  | reset
  deriving DecidableEq, Repr

inductive Notifier where
  /-- Counts its signals under a number of its own. -/
  | counting (number : Nat) (reaction : Reaction)
  | descriptor (bell : Nat)
  deriving DecidableEq, Repr

/-- The bound notifier, and the signals it has not had yet. -/
structure NotifierSlot where
  bound : Option Notifier := none
  pending : Nat := 0
  deriving DecidableEq, Repr

/-- What an operation makes visible outside the ring. -/
inductive Effect where
  | logged (event : Event)
  /-- A notifier was asked to signal. -/
  | signalled (notifier : Notifier)
  /-- Whoever waits for readiness in this process was woken. -/
  | woken
  deriving DecidableEq, Repr

/-- Counters since creation or the last reset. -/
structure Tallies where
  /-- Pushes lost to a full ring. -/
  drops : UInt64 := 0
  /-- Records written, drop summaries included. -/
  records : UInt64 := 0
  /-- Bytes written, headers included. -/
  bytes : UInt64 := 0
  /-- When the fill last rose to the high watermark. -/
  highCrossed : UInt64 := 0
  lowCrossed : UInt64 := 0
  deriving DecidableEq, Repr

/-- A ring with its producing side. -/
structure Channel where
  region : Region
  capacity : UInt64
  rate : UInt32
  tallies : Tallies := {}
  latched : Bool := false
  slot : NotifierSlot := {}
  /-- How often each counting notifier was signalled. -/
  counts : Array Nat := #[]
  bells : Array EventTarget := #[]
  /-- What the operations made visible, oldest first. -/
  trace : Array Effect := #[]

namespace Channel

/-- Lay a ring out in fresh memory. -/
def ofMemory (memory : Buffer) (plan : RingPlan) : Channel where
  region := Region.init memory plan
  capacity := plan.capacity
  rate := plan.rate

def anonymous (plan : RingPlan) : Except RingError Channel := do
  plan.validate
  let length := (bytesForRing plan.capacity).toNat
  (MappedFile.checkMemoryLength length).mapError .failure
  let memory := Buffer.zeros length
  let channel := ofMemory memory plan
  return { channel with trace := #[.logged (.anonymousRingCreated plan.capacity)] }

/-- A ring in a file, which is made, or emptied first if it is there. -/
def create (path : String) (before : Option Buffer) (plan : RingPlan) : Except RingError Channel := do
  plan.validate
  let length := (bytesForRing plan.capacity).toNat
  (MappedFile.checkFileLength length).mapError .failure
  let memory := MappedFile.create before length
  let channel := ofMemory memory plan
  return { channel with trace := #[.logged (.ringCreated path plan.capacity)] }

def page (channel : Channel) : ControlPage :=
  channel.region.page

def modifyPage (channel : Channel) (change : ControlPage → ControlPage) : Channel :=
  { channel with region := { channel.region with page := change channel.region.page } }

def log (channel : Channel) (event : Event) : Channel :=
  { channel with trace := channel.trace.push (.logged event) }

def utilization (channel : Channel) : UInt32 :=
  RecordRing.utilization channel.page.used channel.capacity

def isReady (channel : Channel) : Bool :=
  channel.page.hi ≤ channel.utilization

/-- The largest payload a push can carry. -/
def maxPayload (channel : Channel) : UInt64 :=
  RecordRing.maxPayload channel.capacity

def free (channel : Channel) : UInt64 :=
  if channel.page.used ≤ channel.capacity then channel.capacity - channel.page.used else 0

end Channel

end RecordRing
