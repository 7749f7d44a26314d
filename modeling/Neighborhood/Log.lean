import Neighborhood.Text.Quoted

/-!
# Log events

* `LogEvent.line` — the level, the target, the message and the fields of an event on one line
-/

namespace Neighborhood

/-- How grave an event is. -/
inductive LogLevel where
  | error
  | warn
  | info
  | debug
  | trace
deriving DecidableEq

namespace LogLevel

def label : LogLevel → String
  | error => "ERROR"
  | warn => "WARN"
  | info => "INFO"
  | debug => "DEBUG"
  | trace => "TRACE"

/-- The place from one on, the gravest level first. -/
def rank : LogLevel → Nat
  | error => 1
  | warn => 2
  | info => 3
  | debug => 4
  | trace => 5

end LogLevel

structure LogEvent where
  level : LogLevel
  /-- The part of the program that speaks. -/
  target : String
  message : String
  fields : List (String × String) := []
deriving DecidableEq

namespace LogEvent

def line (e : LogEvent) : String :=
  e.level.label ++ " " ++ e.target ++ ": " ++ e.message ++
    String.join (e.fields.map fun (name, value) => " " ++ name ++ "=" ++ value)

end LogEvent

end Neighborhood
