import ObjectRuntime.Text.Blank
import ObjectRuntime.Text.Case
/-!
# Severity

How severe an event is, and which severities a threshold lets through.
-/

namespace ObjectRuntime

/-- How severe an event is, from the most severe to the least. -/
inductive Level where
  | error
  | warn
  | info
  | debug
  | trace
  deriving DecidableEq, Repr

namespace Level

def verbosity : Level → Nat
  | error => 1
  | warn => 2
  | info => 3
  | debug => 4
  | trace => 5

/-- Whether a threshold lets a level through. -/
def admits (threshold level : Level) : Bool := level.verbosity ≤ threshold.verbosity

def name : Level → String
  | error => "ERROR"
  | warn => "WARN"
  | info => "INFO"
  | debug => "DEBUG"
  | trace => "TRACE"

/-- The level that a word names, in any letter case and with white space around it. -/
def parse? (s : String) : Option Level :=
  match String.ofList ((Text.strip s.toList).flatMap Text.lower) with
  | "trace" => some trace
  | "debug" => some debug
  | "info" => some info
  | "warn" => some warn
  | "error" => some error
  | _ => none

end Level

end ObjectRuntime
