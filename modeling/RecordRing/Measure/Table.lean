import RecordRing.Measure.Timing

set_option autoImplicit false

namespace RecordRing

namespace Table

/-- A character a number of times. -/
def line (character : Char) (count : Nat) : String :=
  String.ofList (List.replicate count character)

/-- A text with blanks after it, up to a width in characters. -/
def alignLeft (width : Nat) (text : String) : String :=
  text ++ line ' ' (width - text.length)

def alignRight (width : Nat) (text : String) : String :=
  line ' ' (width - text.length) ++ text

/-- Characters in a rule. -/
def ruleWidth : Nat := 96

def sectionHead (title : String) : String :=
  let rule := line '─' ruleWidth
  s!"\n{rule}\n  {title}\n{rule}\n"

/-- A row of cells: a label, the six figures and the unit. -/
def cells (label : String) (figures : List String) (unit : String) : String :=
  let aligned := figures.map fun figure => " " ++ alignRight 8 figure
  "  " ++ alignLeft 34 label ++ String.join aligned ++ "  " ++ unit ++ "\n"

def columns : String :=
  cells "operation" ["min", "p50", "p90", "p99", "p99.9", "max"] "unit"

def row (label unit : String) (min p50 p90 p99 p999 max : UInt64) : String :=
  cells label ([min, p50, p90, p99, p999, max].map fun figure => toString figure.toNat) unit

def rowOf (measurement : Measurement) : String :=
  let summary := measurement.summary
  row measurement.label measurement.unit summary.min summary.p50 summary.p90 summary.p99
    summary.p999 summary.max

end Table

end RecordRing
