import ObjectRuntime.Journal.Event
import ObjectRuntime.Text.Quoted
/-!
# Written events

An event as a record of named values, and as a line of a log file.
-/

namespace ObjectRuntime

inductive Scalar where
  | number (n : Nat)
  | text (s : String)
  deriving DecidableEq, Repr

/-- An event as it is shown to a host. -/
structure Record where
  level : Level
  target : String
  fields : List (String × Scalar)
  deriving DecidableEq, Repr

/-- How an address is written where it is of no use to the reader. -/
def hiddenAddress : String := "0x?"

namespace FieldValue

/-- The value of a field, with addresses as the given text. -/
def toScalar (address : Address → String) : FieldValue → Scalar
  | number n => .number n
  | text s | bare s => .text s
  | .address a => .text (address a)

/-- The value of a field as it stands in a log file: texts in quotes, addresses hidden. -/
def toLog : FieldValue → String
  | number n => toString n
  | text s => Text.quote s
  | bare s => s
  | .address _ => hiddenAddress

end FieldValue

namespace Event

variable {κ : Type}

def toRecord (address : Address → String) (e : Event κ) : Record where
  level := e.level
  target := e.target
  fields :=
    (e.message.toList.map fun m => ("message", .text m)) ++
      e.fields.map fun (name, value) => (name, value.toScalar address)

/-- The event as a line of a log file, after the time. -/
def toLine (e : Event κ) : String :=
  let fields := e.fields.map fun (name, value) => name ++ "=" ++ value.toLog
  e.level.name ++ " " ++ e.target ++ ": " ++ " ".intercalate (e.message.toList ++ fields)

end Event

end ObjectRuntime
