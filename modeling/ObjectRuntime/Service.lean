import ObjectRuntime.Request
import ObjectRuntime.Operation
/-!
# Services of the process

What a host can have without a runtime: storage, logging, the end of the process, and a look at
the memory of objects.
-/

namespace ObjectRuntime

variable {κ : Type}

namespace World

/-- Reports a fatal error, closes the log file and aborts. -/
def fatal (w : World κ) (message : String) : World κ × Turn κ :=
  let w := w.emit (.fatal message)
  ({ w with journal := w.journal.closeFile }, .halt (.aborted message))

@[simp] theorem heap_fatal (w : World κ) (message : String) :
    (w.fatal message).1.heap = w.heap := rfl

@[simp] theorem runtimes_fatal (w : World κ) (message : String) :
    (w.fatal message).1.runtimes = w.runtimes := rfl

def stopLogging (w : World κ) : World κ := { w with journal := w.journal.closeFile }

def startLogging (w : World κ) (settings : LogSettings) : World κ :=
  { w with journal := w.journal.start settings w.filter }

/-- Replaces the installed pair and reports it. -/
def install (w : World κ) (pair : Pair) : World κ × Pair :=
  let (allocator, replaced) := w.allocator.install pair
  ({ w with allocator }.emit .allocatorReplaced, replaced)

/-- Writes bytes over an array from `start` on, as far as it goes. -/
def overwrite (start : Nat) (bytes : List UInt8) (content : Array UInt8) : Array UInt8 :=
  (bytes.foldl (fun (state : Array UInt8 × Nat) b => (state.1.setIfInBounds state.2 b, state.2 + 1))
    (content, start)).1

/-- Writes into what follows a header, if that is a payload. -/
def writeBody (start : Nat) (bytes : List UInt8) : Body κ → Body κ
  | .payload content => .payload (overwrite start bytes content)
  | body => body

/-- Whether storage was served and given back. -/
def isReleased (w : World κ) : Address → Bool
  | .object r => (w.heap.cell? r).any (·.released)
  | .block b => w.heap.blocks[b]? == some true

/-- A reply that depends on an object whose storage was not given back. -/
def inspect (w : World κ) (r : Ref) (f : Cell κ → Value κ) : World κ × Turn κ :=
  match w.heap.live? r with
  | some cell => (w, .done (.ok (f cell)))
  | none => (w, .halt .fault)

/-- A change of an object whose storage was not given back. -/
def amend (w : World κ) (r : Ref) (f : Cell κ → Cell κ) : World κ × Turn κ :=
  match w.heap.live? r with
  | some _ => ({ w with heap := w.heap.update r f }, .done (.ok .unit))
  | none => (w, .halt .fault)

def runtimeReply : Except Failure RuntimeId → Turn κ
  | .ok i => .done (.ok (.runtime i))
  | .error e => .done (.error e)

def serve (w : World κ) : Service κ → World κ × Turn κ
  | .startRuntime cap =>
    let (w, started) := w.startRuntime cap
    (w, runtimeReply started)
  | .requireRuntime cap => (w, .next (.service (.startRuntime cap)) .orFatal)
  | .sharedRuntime =>
    match w.sharedRuntime with
    | (w, .ok i) => (w, .done (.ok (.runtime i)))
    | (w, .error e) => w.fatal e.message
  | .createObject kind payload =>
    let (w, object) := w.createObject kind payload
    (w, objectReply object)
  | .createFunction code =>
    let (w, object) := w.createFunction code
    (w, objectReply object)
  | .freeObject none => (w, .done (.ok .unit))
  | .freeObject (some r) => w.orFault ((w.freeObject r).map (·, .done (.ok .unit)))
  | .allocate size =>
    let (w, block) := w.allocateBlock size
    (w, .done (.ok (.block block)))
  | .freeBlock none => (w, .done (.ok .unit))
  | .freeBlock (some b) => w.orFault ((w.freeBlock b).map (·, .done (.ok .unit)))
  | .install pair =>
    let (w, replaced) := w.install pair
    (w, .done (.ok (.name replaced.name)))
  | .installed => (w, .done (.ok (.name w.allocator.installed.name)))
  | .traffic pair => (w, .done (.ok (.traffic (w.allocator.trafficOf pair))))
  | .startLogging => (w.startLogging w.settings.log, .done (.ok .unit))
  | .startLoggingWith settings => (w.startLogging settings, .done (.ok .unit))
  | .stopLogging => (w.stopLogging, .done (.ok .unit))
  | .loggingStarted => (w, .done (.ok (.flag w.journal.isInitialized)))
  | .fatal message => w.fatal message
  | .isReleased address => (w, .done (.ok (.flag (w.isReleased address))))
  | .count r => w.inspect r fun cell => .count cell.count
  | .kind r => w.inspect r fun cell => .kind cell.kind
  | .setCount r count => w.amend r ({ · with count })
  | .payload r => w.inspect r fun cell =>
    .payload (match cell.body with
      | .payload bytes => some bytes
      | _ => none)
  | .write r start bytes => w.amend r fun cell =>
    { cell with body := writeBody start bytes cell.body }

end World

end ObjectRuntime
