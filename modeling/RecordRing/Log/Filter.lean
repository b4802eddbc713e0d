import RecordRing.Log.Directive
import RecordRing.Log.Event

set_option autoImplicit false

namespace RecordRing

/-- A rule for events: those of the target that have all the fields are logged up to a depth of
levels. -/
structure EventRule where
  target : Option String := none
  fields : List String := []
  depth : Nat
  deriving DecidableEq, Repr

namespace EventRule

/-- The rule that a directive makes for events, if it makes one. -/
def ofDirective? (directive : Directive) : Option EventRule :=
  if directive.span.isSome || directive.fields.any (·.value.isSome) then none
  else
    some {
      target := directive.target
      fields := directive.fields.map (·.name)
      depth := directive.depth }

/-- The rule speaks of this event. Its message is one of the fields that an event has. -/
def concerns (rule : EventRule) (event : Event) : Bool :=
  let targeted := match rule.target with
    | none => true
    | some start => start.toList.isPrefixOf event.target.toList
  let present := "message" :: event.fields.map Prod.fst
  targeted && rule.fields.all fun field => present.contains field

/-- How specific the target is. -/
def weight (rule : EventRule) : Nat :=
  match rule.target with
  | none => 0
  | some start => start.utf8ByteSize + 1

/-- The order of rules by how specific they are. Rules of one rank stand in the order of their
texts. -/
def order (rule other : EventRule) : Ordering :=
  (compare rule.weight other.weight).then <|
    (compare rule.fields.length other.fields.length).then <|
      (compare (rule.target.getD "") (other.target.getD "")).then <|
        compare rule.fields other.fields

end EventRule

/-- The rules for events, the most specific one first. -/
structure LogFilter where
  rules : List EventRule
  deriving DecidableEq, Repr

namespace LogFilter

/-- Put a rule in its place. It takes the place of a rule that speaks of the same events. -/
def insert (rules : List EventRule) (rule : EventRule) : List EventRule :=
  match rules with
  | [] => [rule]
  | first :: rest =>
      match rule.order first with
      | .gt => rule :: first :: rest
      | .eq => rule :: rest
      | .lt => first :: insert rest rule

def words (text : String) : List String :=
  (pieces text ',').filter fun word => !word.isEmpty

/-- The filter that directives make. Directives without conditions on spans come first. -/
def ofDirectives (directives : List Directive) : LogFilter :=
  let (spans, plain) := directives.partition Directive.concernsSpans
  let rules := (plain ++ spans).filterMap EventRule.ofDirective?
  if directives.isEmpty then ⟨[{ depth := 1 }]⟩ else ⟨rules.foldl insert []⟩

def ofText (text : String) : LogFilter :=
  ofDirectives ((words text).filterMap fun word => (Directive.ofText word).toOption)

/-- What is said of the directives that are left out. -/
def complaints (text : String) : List String :=
  (words text).filterMap fun word =>
    match Directive.ofText word with
    | .error fault => some ("ignoring \x60" ++ word ++ "\x60: " ++ fault.message)
    | .ok _ => none

/-- How many levels are logged of what an event is one of. -/
def depthFor (filter : LogFilter) (event : Event) : Nat :=
  match filter.rules.find? (·.concerns event) with
  | none => 0
  | some rule => rule.depth

def allows (filter : LogFilter) (event : Event) : Bool :=
  event.level.depth ≤ filter.depthFor event

end LogFilter

end RecordRing
