import RecordRing.Measure.ByteSize
import RecordRing.Measure.Table
import RecordRing.Measure.Usage
import RecordRing.Record
import RecordRing.RingPlan

set_option autoImplicit false

namespace RecordRing

namespace Report

def banner : String :=
  let bar := Table.line '═' 90
  s!"\n{bar}\n  BASALT PERFORMANCE REPORT\n" ++
    s!"  single-thread push/read + cross-thread latency\n{bar}\n"

/-- What a record with a payload of some size takes. -/
def layoutLine (payload : Nat) : String :=
  let span := RecordHeader.size + payload
  let fitting := 1024 * 1024 / span
  "  " ++ Table.alignRight 5 (toString payload) ++ " B payload -> " ++
    Table.alignRight 5 (toString span) ++ " B record, " ++
    Table.alignRight 6 (toString fitting) ++ " per 1 MiB ring\n"

def layout : String :=
  Table.sectionHead "RECORD LAYOUT" ++
    s!"  control page:        {controlPageSize} B\n" ++
    s!"  record header:       {RecordHeader.size} B\n" ++
    s!"  drop-summary record: {DropSummary.recordSize} B\n" ++
    String.join ([16, 64, 256, 1024].map layoutLine)

/-- What the process has used. -/
def resources (usage : Usage) : String :=
  let peak : UInt64 := if usage.peakMemory < 0 then 0 else usage.peakMemory.toUInt64
  let peakText := ByteSize.text peak
  let minor := usage.minorFaults.toInt
  let major := usage.majorFaults.toInt
  let voluntary := usage.voluntarySwitches.toInt
  let involuntary := usage.involuntarySwitches.toInt
  Table.sectionHead "RESOURCE USAGE" ++
    s!"  max RSS:          {peakText}\n" ++
    s!"  minor faults:     {minor}\n" ++
    s!"  major faults:     {major}\n" ++
    s!"  ctx switches:     {voluntary} voluntary, {involuntary} involuntary\n"

/-- The file of a ring that a measurement uses, in the directory for temporary files. -/
def ringFilePath (directory label process : String) : String :=
  s!"{directory}/basalt-perf-{label}-{process}"

end Report

end RecordRing
