/-!
# Log events

What happens during a run is noted as events: a level, the part of the program that notes it, a
message, and named values.
-/

namespace LintReport

/-- How important an event is, the most important first. -/
inductive Level where
  | error
  | warn
  | info
  | debug
  | trace
  deriving DecidableEq, Repr

namespace Level

/-- The place of a level in the order, from one for the most important. -/
def rank : Level → Nat
  | error => 1
  | warn => 2
  | info => 3
  | debug => 4
  | trace => 5

/-- The name that opens a line of the log. -/
def name : Level → String
  | error => "ERROR"
  | warn => "WARN"
  | info => "INFO"
  | debug => "DEBUG"
  | trace => "TRACE"

end Level

/-- The part of the program that notes an event. -/
inductive Area where
  | start
  | settings
  | reportCommand
  | updateCommand
  | finding
  | reporting
  | comparing
  | resolving
  | discovery
  | loading
  deriving DecidableEq, Repr

/-- The name by which a log filter selects the events of a part of the program. -/
def Area.target : Area → String
  | start => "hintpane::logging"
  | settings => "hintpane::settings"
  | reportCommand => "hintpane::report"
  | updateCommand => "hintpane::update"
  | finding => "hintpane_diagnostics::diagnostic"
  | reporting => "hintpane_diagnostics::reporter"
  | comparing => "hintpane_version::compare"
  | resolving => "hintpane_version::status"
  | discovery => "hintpane_config::discover"
  | loading => "hintpane_config::loader"

/-- Something that happened, with named values. -/
structure Event where
  level : Level
  area : Area
  message : String
  fields : List (String × String)
  deriving DecidableEq, Repr

/-- The line of the log that an event makes, without time and place. -/
def Event.line (event : Event) : String :=
  event.level.name ++ " " ++ event.message ++
    String.join (event.fields.map fun field => " " ++ field.1 ++ "=" ++ field.2)

end LintReport
