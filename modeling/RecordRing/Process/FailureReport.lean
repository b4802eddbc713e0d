import RecordRing.Text.Pieces

set_option autoImplicit false

namespace RecordRing

/-- A failure with the causes behind it, outermost first. -/
structure FailureReport where
  message : String
  causes : List String := []
  deriving DecidableEq, Repr

namespace FailureReport

/-- A text whose lines after the first are indented. -/
def indent (blanks : String) (text : String) : String :=
  ("\n" ++ blanks).intercalate (pieces text '\n')

/-- One of several causes, with its number. -/
def numbered (place : Nat) (cause : String) : String :=
  s!"    {place}: " ++ indent "       " cause

def text (report : FailureReport) : String :=
  let head := "Error: " ++ report.message ++ "\n"
  match report.causes with
  | [] => head
  | [cause] => head ++ "\nCaused by:\n    " ++ indent "    " cause ++ "\n"
  | causes =>
      let lines := causes.mapIdx fun place cause => numbered place cause ++ "\n"
      head ++ "\nCaused by:\n" ++ String.join lines

/-- Say what was being done when a report came up. -/
def within (report : FailureReport) (message : String) : FailureReport :=
  ⟨message, report.message :: report.causes⟩

end FailureReport

end RecordRing
