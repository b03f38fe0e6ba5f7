import ObjectRuntime.Journal.Event
import ObjectRuntime.Journal.Filter
import ObjectRuntime.Settings
/-!
# The journal

Where events go.  A host may collect them itself, down to a level of its choice.  Otherwise they
go to the console and the log file of the process, which the first initialisation sets up for
good; after a shutdown the file gets nothing more.
-/

namespace ObjectRuntime

/-- What the process records about itself once logging is initialised. -/
structure ProcessLog (κ : Type) where
  filter : Filter
  settings : LogSettings
  /-- Whether the log file, if there is one, still gets events. -/
  fileOpen : Bool := true
  console : Array (Event κ) := #[]
  file : Array (Event κ) := #[]

/-- A collector that the host put in place, with the least severe level that it takes. -/
structure Collector (κ : Type) where
  threshold : Level
  events : Array (Event κ) := #[]

/-- Where events go. -/
structure Journal (κ : Type) where
  collector : Option (Collector κ) := none
  process : Option (ProcessLog κ) := none

namespace ProcessLog

variable {κ : Type}

/-- Records an event that gets through the filter. -/
def record (p : ProcessLog κ) (e : Event κ) : ProcessLog κ :=
  if p.filter.admits e.target e.fieldNames e.level then
    { p with
      console := p.console.push e
      file := if p.settings.file.isSome ∧ p.fileOpen then p.file.push e else p.file }
  else p

end ProcessLog

namespace Collector

variable {κ : Type}

def record (c : Collector κ) (e : Event κ) : Collector κ :=
  if c.threshold.admits e.level then { c with events := c.events.push e } else c

end Collector

namespace Journal

variable {κ : Type}

instance : EmptyCollection (Journal κ) := ⟨{}⟩

def emit (j : Journal κ) (e : Event κ) : Journal κ :=
  match j.collector with
  | some c => { j with collector := some (c.record e) }
  | none => { j with process := j.process.map (·.record e) }

def isInitialized (j : Journal κ) : Bool := j.process.isSome

/-- Initialises logging; only the first call has an effect.  A filter of the environment, if there
is one, takes the place of the level in the settings. -/
def start (j : Journal κ) (settings : LogSettings) (override : Option Filter) : Journal κ :=
  match j.process with
  | some _ => j
  | none =>
    { j with process := some { filter := override.getD (.atLevel settings.level), settings } }

def withoutCollector (j : Journal κ) : Journal κ := { j with collector := none }

def closeFile (j : Journal κ) : Journal κ :=
  { j with process := j.process.map ({ · with fileOpen := false }) }

/-! ## Whether logging was initialised -/

@[simp] theorem isInitialized_emit (j : Journal κ) (e : Event κ) :
    (j.emit e).isInitialized = j.isInitialized := by
  unfold emit
  split
  · rfl
  · simp [isInitialized]

@[simp] theorem isInitialized_start (j : Journal κ) (settings : LogSettings)
    (override : Option Filter) : (j.start settings override).isInitialized = true := by
  unfold start
  split
  next h => simp [isInitialized, h]
  · rfl

@[simp] theorem isInitialized_closeFile (j : Journal κ) :
    j.closeFile.isInitialized = j.isInitialized := by
  simp [closeFile, isInitialized]

end Journal

end ObjectRuntime
