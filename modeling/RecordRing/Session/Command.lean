import RecordRing.LoadGenerator
import RecordRing.Reader

set_option autoImplicit false

namespace RecordRing

/-- What to bind as the notifier. -/
inductive Binding where
  | nothing
  | counting (reaction : Reaction)
  | target (target : EventTarget)

/-- What a handle of the session can be asked to do. -/
inductive Command where
  | push (payload : Bytes) (times : Nat)
  | reserve (need : UInt64)
  | producer
  | read (reader : Nat)
  | poll (reader : Nat)
  | reader (reader : Nat)
  | openReader (view : Option UInt64) (missing : Bool)
  | advanceTail (position : UInt64)
  | advanceBy (distance : Int)
  | setWatermarks (hi lo : UInt32)
  | setRate (rate : UInt32)
  | reset
  | control
  | bind (binding : Binding)
  | drainBell (bell : Nat)
  | waitReady (timeout : Option Nat) (delay : Nat) (payload : Bytes) (times : Nat)
  | peek (offset length : Nat)
  | page
  | poke (offset : Nat) (bytes : Bytes)
  | setFields (fields : List (ControlPage.Field × UInt64))
  | makeGenerator (size : UInt64)
  | endGenerator
  | tick (times : Nat)
  | interval
  | run (sleeps : Nat) (disturbances : Nat → LoadGenerator.Disturbance)

/-- What the pushing end tells of itself. -/
structure ProducerView where
  dropping : Bool
  capacity : UInt64
  maxPayload : UInt64
  used : UInt64
  free : UInt64
  rate : UInt32

structure ReaderView where
  page : ControlPage
  reader : Reader
  ready : Bool

structure ControlView where
  page : ControlPage
  capacity : UInt64
  order : Nat
  rate : UInt32
  /-- All counters and cursors are zero. -/
  fresh : Bool

structure CreationView where
  capacity : UInt64
  maxPayload : UInt64
  isEmpty : Bool
  fileSize : Option Nat

inductive Reply where
  | done
  | created (view : CreationView)
  | found
  | outcomes (outcomes : List PushOutcome)
  | position (position : Option UInt64)
  | producer (view : ProducerView)
  | read (outcome : ReadOutcome)
  | polled (ended : PollEnd) (records : List Record)
  | reader (view : ReaderView)
  | opened (reader : Nat)
  | control (view : ControlView)
  | bound (previous : Bool)
  | drained (count : Nat)
  | ready (ready : Bool)
  | bytes (bytes : Bytes)
  | page (page : ControlPage)
  | ticked (outcomes : List PushOutcome) (sequence : UInt64) (interval : Nat)
  | interval (interval : Nat) (sequence : UInt64) (rate : UInt32)
  | ran (run : LoadGenerator.Run)
  | refused (error : RingError)
  | sizeRefused (fault : LoadGenerator.SizeFault)
  | noProducer
  | noSuchHandle

end RecordRing
