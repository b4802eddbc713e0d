import RecordRing.LoadPattern
import RecordRing.RingPlan
import RecordRing.Toml.Document
import RecordRing.Toml.Reading

set_option autoImplicit false

namespace RecordRing

/-- What the programs are told. -/
structure Settings where
  ringPath : String := "/tmp/basalt_ring"
  logLevel : String := "info"
  /-- The data ring holds two to this power of bytes. -/
  ringOrder : UInt32 := 20
  rate : UInt32 := 2000
  hi : UInt32 := 50
  lo : UInt32 := 30
  payloadSize : UInt64 := 256
  /-- Microseconds a consumer sleeps between empty polls. -/
  pollInterval : UInt64 := 100
  /-- The program that consumes, if the producer is to start it. -/
  consumerProgram : Option String := none
  deriving DecidableEq, Repr

namespace Settings

inductive Fault where
  | ringOrder (order : UInt32)
  | rate (rate : UInt32)
  | watermarks (hi lo : UInt32)
  | payloadSize (size largest capacity : UInt64)
  deriving DecidableEq, Repr

inductive LoadError where
  | unreadable (path : String) (cause : Failure)
  /-- The text is no document that gives settings. -/
  | malformed (text : String) (fault : Toml.Fault)
  | invalid (fault : Fault)
  deriving DecidableEq, Repr

def minOrder : UInt32 := 6

def maxOrder : UInt32 := 30

def Fault.message : Fault → String
  | ringOrder order => s!"ring_order {order} outside {minOrder}..={maxOrder}"
  | rate hertz => s!"rate_hz {hertz} outside 1..=100000"
  | watermarks hi lo => s!"watermarks hi={hi} lo={lo}, need lo <= hi <= 100"
  | payloadSize size largest capacity =>
      s!"payload_size {size} outside {LoadPattern.minPayload}..={largest} for a {capacity} byte ring"

def LoadError.message : LoadError → String
  | unreadable path _ => s!"failed to read '{path}'"
  | malformed .. => "failed to parse config"
  | invalid fault => s!"invalid config: {fault.message}"

def capacity (settings : Settings) : UInt64 :=
  1 <<< settings.ringOrder.toUInt64

/-- The largest payload that a push to a ring of this capacity can carry. -/
def largestIn (capacity : UInt64) : UInt64 :=
  if capacity < 52 then 0 else capacity - 52

def maxPayload (settings : Settings) : UInt64 :=
  largestIn settings.capacity

/-- Every setting is checked; the first fault found is reported. What a bit becomes that is shifted to
the left by the order is asked only where the payload is checked. -/
def checkWith {m : Type → Type} [Monad m] (shift : UInt32 → m UInt64) (settings : Settings) :
    m (Except Fault Unit) :=
  if settings.ringOrder < minOrder || settings.ringOrder > maxOrder then
    pure (.error (.ringOrder settings.ringOrder))
  else if settings.rate == 0 || settings.rate > 100000 then
    pure (.error (.rate settings.rate))
  else if settings.hi > 100 || settings.lo > settings.hi then
    pure (.error (.watermarks settings.hi settings.lo))
  else do
    let capacity ← shift settings.ringOrder
    if settings.payloadSize.toNat < LoadPattern.minPayload ||
        settings.payloadSize > largestIn capacity then
      return .error (.payloadSize settings.payloadSize (largestIn capacity) capacity)
    else
      return .ok ()

def validate (settings : Settings) : Except Fault Unit :=
  Id.run (settings.checkWith fun order => pure (1 <<< order.toUInt64))

/-- Set what one entry of a table says. An entry under another key is ignored, if it can be read at
all. -/
def set (settings : Settings) (entry : String × Toml.Span × Toml.Value) :
    Except Toml.Fault Settings := do
  let (key, span, value) := entry
  let word (_ : Unit) : Except Toml.Fault UInt32 := do
    return UInt32.ofNat (← value.asNumber UInt32.size "u32" span)
  match key with
  | "shm_file_path" => return { settings with ringPath := ← value.asText span }
  | "log_level" => return { settings with logLevel := ← value.asText span }
  | "ring_order" => return { settings with ringOrder := ← word () }
  | "rate_hz" => return { settings with rate := ← word () }
  | "hi_watermark_pct" => return { settings with hi := ← word () }
  | "lo_watermark_pct" => return { settings with lo := ← word () }
  | "payload_size" =>
      let size ← value.asNumber UInt64.size "usize" span
      return { settings with payloadSize := UInt64.ofNat size }
  | "poll_interval_us" =>
      let interval ← value.asNumber UInt64.size "u64" span
      return { settings with pollInterval := UInt64.ofNat interval }
  | "consumer_bin" => return { settings with consumerProgram := some (← value.asText span) }
  | _ => do
      value.check span
      return settings

/-- The settings that a table gives, with defaults for what it leaves out. A setting of the wrong
kind spoils the whole table; of several, the one whose key comes first is told. -/
def ofEntries (entries : Toml.Entries) : Except Toml.Fault Settings :=
  entries.foldlM set {}

/-- The settings in a text, as `read` finds them there. -/
def parseWith (read : String → Except Toml.Fault Settings) (text : String) :
    Except LoadError Settings :=
  match read text with
  | .error fault => .error (.malformed text fault)
  | .ok settings =>
      match settings.validate with
      | .error fault => .error (.invalid fault)
      | .ok () => .ok settings

def loadWith (read : String → Except Toml.Fault Settings) (path : String)
    (contents : Except Failure Bytes) : Except LoadError Settings :=
  match contents with
  | .error cause => .error (.unreadable path cause)
  | .ok bytes =>
      match String.fromUTF8? (ByteArray.mk bytes.toArray) with
      | none => .error (.unreadable path .notText)
      | some text => parseWith read text

/-- The settings of a file, or the defaults where no file is named. -/
def loadOrDefaultWith (read : String → Except Toml.Fault Settings)
    (file : Option (String × Except Failure Bytes)) : Except LoadError Settings :=
  match file with
  | none => .ok {}
  | some (path, contents) => loadWith read path contents

/-- Settings are written as a TOML document. -/
def ofDocument (text : String) : Except Toml.Fault Settings :=
  (Toml.parse text).bind ofEntries

def parse (text : String) : Except LoadError Settings :=
  parseWith ofDocument text

def load (path : String) (contents : Except Failure Bytes) : Except LoadError Settings :=
  loadWith ofDocument path contents

def loadOrDefault (file : Option (String × Except Failure Bytes)) : Except LoadError Settings :=
  loadOrDefaultWith ofDocument file

def plan (settings : Settings) : Except RingError RingPlan := do
  let plan ← RingPlan.ofOrder settings.ringOrder
  let marked ← plan.withWatermarks settings.hi settings.lo
  marked.withRate settings.rate

end Settings

end RecordRing
