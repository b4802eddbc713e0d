import RecordRing.Log.Filter
import RecordRing.Text.Quoted

set_option autoImplicit false

namespace RecordRing

namespace FieldText

def shown : FieldText → String
  | plain text => text
  | quoted text => quotedText text

end FieldText

namespace Event

def line (event : Event) : String :=
  let fields := event.fields.map fun (name, value) => " " ++ name ++ "=" ++ value.shown
  s!"{event.level.name} {event.target}: {event.message}" ++ String.join fields

end Event

namespace LogFilter

def lines (filter : LogFilter) (events : List Event) : List String :=
  (events.filter filter.allows).map Event.line

end LogFilter

end RecordRing
