set_option autoImplicit false

namespace RecordRing

structure Usage where
  /-- The most memory it ever held, in bytes. -/
  peakMemory : Int64 := 0
  minorFaults : Int64 := 0
  majorFaults : Int64 := 0
  voluntarySwitches : Int64 := 0
  involuntarySwitches : Int64 := 0
  deriving DecidableEq, Repr

namespace Usage

/-- The counters from a report of the system, which counts memory in KiB. -/
def ofReport (report : Usage) : Usage :=
  { report with peakMemory := report.peakMemory * 1024 }

/-- What was counted since an earlier moment; the peak of memory stays as it is. -/
def since (now earlier : Usage) : Usage where
  peakMemory := now.peakMemory
  minorFaults := now.minorFaults - earlier.minorFaults
  majorFaults := now.majorFaults - earlier.majorFaults
  voluntarySwitches := now.voluntarySwitches - earlier.voluntarySwitches
  involuntarySwitches := now.involuntarySwitches - earlier.involuntarySwitches

end Usage

end RecordRing
