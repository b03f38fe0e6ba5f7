import ObjectRuntime.Journal.Level
import ObjectRuntime.Settings.CallDepth
/-!
# Settings

What can be set before a runtime starts, and how it is read from the environment.  Each field has
one variable of its own, and a value that is not UTF-8 counts as no value.
-/

namespace ObjectRuntime

/-- The environment variables that are set, with their values as bytes. -/
structure Environment where
  value? : String → Option ByteArray

namespace Environment

def empty : Environment := ⟨fun _ => none⟩

def text? (env : Environment) (name : String) : Option String :=
  (env.value? name).bind String.fromUTF8?

end Environment

/-- Where events go and which. -/
structure LogSettings where
  level : Level := .info
  /-- A file that gets the events in addition to the console. -/
  file : Option String := none
  json : Bool := false
  /-- Whether spans are shown as they open and close. -/
  spans : Bool := false
  deriving DecidableEq, Repr

namespace LogSettings

def standardFile : String := "kindrt.log"

/-- Everything, on the console and in the standard file. -/
def verbose : LogSettings :=
  { level := .trace, file := some standardFile, json := false, spans := true }

def ofEnvironment (env : Environment) : LogSettings where
  level := ((env.text? "KINDRT_LOG_LEVEL").bind Level.parse?).getD .info
  file := (env.text? "KINDRT_LOG_FILE").filter (· ≠ "")
  json := (env.text? "KINDRT_LOG_JSON").isSome
  spans := (env.text? "KINDRT_LOG_SPANS").isSome

end LogSettings

/-- What can be set before a runtime starts. -/
structure Settings where
  maxCallDepth : DepthCap := .standard
  log : LogSettings := {}
  deriving DecidableEq, Repr

namespace Settings

def ofEnvironment (env : Environment) : Settings where
  maxCallDepth := ((env.text? "KINDRT_MAX_CALL_DEPTH").bind DepthCap.parse?).getD .standard
  log := .ofEnvironment env

end Settings

end ObjectRuntime
