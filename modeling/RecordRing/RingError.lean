import RecordRing.SystemError

set_option autoImplicit false

namespace RecordRing

/-- What is wrong with a control page found in an existing region. -/
inductive LayoutFault where
  | capacityNotPowerOfTwo
  | watermarksCrossed
  | cursorsOutOfRange
  deriving DecidableEq, Repr

namespace LayoutFault

def message : LayoutFault → String
  | capacityNotPowerOfTwo => "capacity must be power of two"
  | watermarksCrossed => "low watermark above high watermark"
  | cursorsOutOfRange => "cursors out of range"

end LayoutFault

/-- The cursors and the length at which a reader lost the record boundaries. -/
structure Corruption where
  tail : UInt64
  head : UInt64
  length : UInt64
  deriving DecidableEq, Repr

/-- A quantity outside the range it must lie in. -/
inductive RangeFault where
  | order (bits : UInt32)
  | watermarks (hi lo : UInt32)
  | rate (hertz : UInt32)
  deriving DecidableEq, Repr

namespace RangeFault

def message : RangeFault → String
  | order bits => s!"ring order out of range: {bits} does not fit in usize"
  | watermarks hi lo => s!"watermarks out of range: hi={hi} lo={lo}, need lo <= hi <= 100"
  | rate hertz => s!"rate out of range: {hertz} Hz, need 1..=100000"

end RangeFault

inductive RingError where
  | capacityNotPowerOfTwo (capacity : UInt64)
  | capacityTooSmall (capacity least : UInt64)
  | invalidRange (fault : RangeFault)
  | outOfRange (requested tail head : UInt64)
  | viewTooLarge (requested available : UInt64)
  | viewTooSmall (length required : UInt64)
  | badLayout (fault : LayoutFault)
  | corrupted (place : Corruption)
  | failure (cause : Failure)
  deriving DecidableEq, Repr

namespace RingError

def message : RingError → String
  | capacityNotPowerOfTwo capacity => s!"ring capacity {capacity} is not a power of two"
  | capacityTooSmall capacity least =>
      s!"ring capacity {capacity} is below the minimum of {least} bytes"
  | invalidRange fault => fault.message
  | outOfRange requested tail head => s!"tail {requested} outside [{tail}, {head}]"
  | viewTooLarge requested available =>
      s!"requested view of {requested} bytes exceeds the {available}-byte region"
  | viewTooSmall length required =>
      s!"view of {length} bytes cannot hold a ring needing {required} bytes"
  | badLayout fault => s!"bad ring layout: {fault.message}"
  | corrupted place =>
      s!"corrupted record at tail {place.tail} (head {place.head}, record length {place.length})"
  | failure cause => cause.message

end RingError

end RecordRing
