import RecordRing.RingError

set_option autoImplicit false

namespace RecordRing

inductive Level where
  | error
  | warn
  | info
  | debug
  | trace
  deriving DecidableEq, Repr

namespace Level

def name : Level → String
  | error => "ERROR"
  | warn => "WARN"
  | info => "INFO"
  | debug => "DEBUG"
  | trace => "TRACE"

/-- How many levels matter at least as much. -/
def depth : Level → Nat
  | error => 1
  | warn => 2
  | info => 3
  | debug => 4
  | trace => 5

end Level

/-- The value of a field: written as it is, or as a quoted text. -/
inductive FieldText where
  | plain (text : String)
  | quoted (text : String)
  deriving DecidableEq, Repr

/-- What the parties of a ring log. -/
inductive Event where
  | ringCreated (path : String) (capacity : UInt64)
  | anonymousRingCreated (capacity : UInt64)
  | attached (path : String) (capacity : UInt64)
  | crossedHigh (used : UInt64) (hi : UInt32)
  | drainedToLow (used : UInt64) (lo : UInt32)
  | ringFull (need used : UInt64)
  | episodeEnded (lost duration : UInt64)
  | desynchronised (place : Corruption)
  | watermarksUpdated (hi lo : UInt32)
  | notifierRebound (bound : Bool)
  | signalFailed (cause : Failure)
  | ringReset
  | rateUpdated (rate : UInt32)
  | generatorStarted (payload : UInt64) (rate : UInt32)
  | generatorStopped (written dropped : UInt64)
  | producerStarted (path : String) (capacity : UInt64) (rate : UInt32) (payload : UInt64)
  | consumerLaunched (program process : String)
  | ringStats (records drops used total : UInt64) (dropping : Bool)
  | producerFinished (written dropped : UInt64)
  | consumerAttached (path : String) (capacity : UInt64)
  | waitingOnDescriptor
  | sequenceWentBack (sequence previous : UInt64)
  | payloadRejected (reason : String)
  | recordsLost (lost : UInt32) (duration : UInt64)
  | consumerStats (packets lost episodes bad latency used : UInt64)
  deriving DecidableEq, Repr

namespace Event

def level : Event → Level
  | ringFull .. | desynchronised .. | signalFailed .. | sequenceWentBack .. | payloadRejected .. =>
      .warn
  | episodeEnded .. | ringReset | generatorStarted .. | generatorStopped .. | producerStarted ..
  | consumerLaunched .. | ringStats .. | producerFinished .. | consumerAttached ..
  | waitingOnDescriptor | recordsLost .. | consumerStats .. => .info
  | _ => .debug

/-- The part of the program an event comes from. -/
def target : Event → String
  | ringCreated .. | anonymousRingCreated .. | crossedHigh .. | drainedToLow .. =>
      "basalt_ring::channel"
  | attached .. | desynchronised .. => "basalt_ring::consumer"
  | ringFull .. | episodeEnded .. => "basalt_ring::producer"
  | watermarksUpdated .. | notifierRebound .. | ringReset | rateUpdated .. => "basalt_ring::control"
  | signalFailed .. => "basalt_ring::notify"
  | generatorStarted .. | generatorStopped .. => "basalt_loadgen"
  | producerStarted .. | consumerLaunched .. | ringStats .. | producerFinished .. =>
      "basalt_producer"
  | consumerAttached .. | waitingOnDescriptor | sequenceWentBack .. | payloadRejected ..
  | recordsLost .. | consumerStats .. => "basalt_consumer"

def message : Event → String
  | ringCreated .. => "created ring"
  | anonymousRingCreated .. => "created anonymous ring"
  | attached .. => "attached to ring"
  | crossedHigh .. => "ring crossed high watermark"
  | drainedToLow .. => "ring drained to low watermark"
  | ringFull .. => "ring full, dropping"
  | episodeEnded .. => "drop episode ended"
  | desynchronised .. => "ring desynchronised, consumer stopped"
  | watermarksUpdated .. => "watermarks updated"
  | notifierRebound .. => "notifier rebound"
  | signalFailed .. => "notifier signal failed"
  | ringReset => "ring reset"
  | rateUpdated .. => "producer rate updated"
  | generatorStarted .. => "load generator started"
  | generatorStopped .. => "load generator stopped"
  | producerStarted .. => "producer started"
  | consumerLaunched .. => "consumer launched with eventfd"
  | ringStats .. => "ring stats"
  | producerFinished .. => "producer finished"
  | consumerAttached .. => "consumer attached"
  | waitingOnDescriptor => "waiting on inherited eventfd"
  | sequenceWentBack .. => "sequence went backwards"
  | payloadRejected .. => "payload failed verification"
  | recordsLost .. => "producer dropped records"
  | consumerStats .. => "consumer stats"

/-- The named values of an event, in the order in which they are written. -/
def fields : Event → List (String × FieldText)
  | ringCreated path capacity => [("path", .plain path), number "capacity" capacity.toNat]
  | anonymousRingCreated capacity => [number "capacity" capacity.toNat]
  | attached path capacity => [("path", .plain path), number "capacity" capacity.toNat]
  | crossedHigh used hi => [number "used" used.toNat, number "hi" hi.toNat]
  | drainedToLow used lo => [number "used" used.toNat, number "lo" lo.toNat]
  | ringFull need used => [number "need" need.toNat, number "used" used.toNat]
  | episodeEnded lost duration => [number "lost" lost.toNat, number "duration_ns" duration.toNat]
  | desynchronised place =>
      [number "tail" place.tail.toNat, number "head" place.head.toNat,
        number "record_len" place.length.toNat]
  | watermarksUpdated hi lo => [number "hi_pct" hi.toNat, number "lo_pct" lo.toNat]
  | notifierRebound bound => [truth "bound" bound]
  | signalFailed cause => [("error", .plain cause.message)]
  | ringReset => []
  | rateUpdated rate => [number "hz" rate.toNat]
  | generatorStarted payload rate =>
      [number "payload" payload.toNat, number "rate_hz" rate.toNat]
  | generatorStopped written dropped =>
      [number "written" written.toNat, number "dropped" dropped.toNat]
  | producerStarted path capacity rate payload =>
      [("path", .plain path), number "capacity" capacity.toNat, number "rate_hz" rate.toNat,
        number "payload" payload.toNat]
  | consumerLaunched program process => [("bin", .quoted program), ("pid", .plain process)]
  | ringStats records drops used total dropping =>
      [number "records_per_s" records.toNat, number "drops_per_s" drops.toNat,
        number "used" used.toNat, number "drops" total.toNat, truth "dropping" dropping]
  | producerFinished written dropped =>
      [number "written" written.toNat, number "dropped" dropped.toNat]
  | consumerAttached path capacity => [("path", .plain path), number "capacity" capacity.toNat]
  | waitingOnDescriptor => []
  | sequenceWentBack sequence previous =>
      [number "seq" sequence.toNat, number "prev" previous.toNat]
  | payloadRejected reason => [("error", .plain reason)]
  | recordsLost lost duration => [number "lost" lost.toNat, number "duration_ns" duration.toNat]
  | consumerStats packets lost episodes bad latency used =>
      [number "packets" packets.toNat, number "lost" lost.toNat, number "episodes" episodes.toNat,
        number "bad" bad.toNat, number "avg_fill_to_push_ns" latency.toNat,
        number "used" used.toNat]
where
  number (name : String) (value : Nat) : String × FieldText := (name, .plain (toString value))
  truth (name : String) (value : Bool) : String × FieldText :=
    (name, .plain (if value then "true" else "false"))

end Event

end RecordRing
