import ObjectRuntime.Journal.LogFile
import ObjectRuntime.Journal.Record
import ObjectRuntime.Scenario.Execution
/-!
# Transcripts

What a scenario shows when it is played: after the set-up and after each of its own steps what
changed, and, for a scenario with a process of its own, how that process ended and what it wrote.
-/

namespace ObjectRuntime.Scenario

/-- Under which conditions a scenario is played. -/
structure Setup where
  interface : Interface := .direct
  /-- The cap of the runtime that is there from the start, if one is. -/
  runtime : Option DepthCap := some .standard
  collected : Option Level := none
  isolated : Bool := false
  environment : Environment := .empty

/-- What is shown of an object. -/
inductive Standing where
  | count (n : Int)
  | released
  deriving DecidableEq, Repr

/-- What changed since the last time. -/
structure Changes where
  counters : Option (Nat × Nat) := none
  standings : List (Ref × Standing) := []
  records : List Record := []

/-- What a process shows on its console. -/
inductive Console where
  | records (l : List Record)
  | levels (l : List Level)

/-- How a process ended and what it wrote. -/
structure Closing where
  panic : Option String
  console : Console
  /-- The log file below the working directory, with its lines. -/
  file : Option (String × List String)

/-- What a scenario shows. -/
structure Transcript where
  start : Changes
  steps : List (StepReport × Changes)
  closing : Option Closing

/-- A scenario between two steps. -/
structure Stage where
  world : World Program
  session : Session := {}
  counters : Nat × Nat := (0, 0)
  standings : Table Ref Standing := ∅

namespace Stage

def standing (w : World Program) (r : Ref) : Standing :=
  match w.heap.live? r with
  | some cell => .count cell.count
  | none => .released

/-- Shows what changed, and remembers it as shown. -/
def observe (s : Stage) : Changes × Stage :=
  let counters := (s.world.allocator.live, s.world.allocator.total)
  let standings := s.session.tracked.filterMap fun r =>
    let now := standing s.world r
    if s.standings.get? r = some now then none else some (r, now)
  let journal := s.world.journal
  let records := (journal.collector.map (·.events.toList)).getD []
  ({ counters := if counters = s.counters then none else some counters
     standings
     records := records.map (·.toRecord namedAddress) },
    { s with
      world := { s.world with
        journal := { journal with collector := journal.collector.map ({ · with events := #[] }) } }
      counters
      standings := standings.foldl (fun t (r, now) => t.insert r now) s.standings })

/-- How many moments a step may take. -/
def patience : Nat := 1000000000000000000

abbrev Waiting := Procedure.Waiting Program Session

/-- The host that runs the programs of a scenario. -/
def host : Host Program Session Waiting := Procedure.toHost playProgram

/-- Makes a step, for which no host code is running. -/
def advance (s : Stage) (step : Step) : Moment Program Session Waiting :=
  let whole : Play Answer := do
    let report ← step.play
    modify ({ · with report := some report })
    return .ok none
  let (state, move) := whole.toMove { s.session with report := none }
  (Moment.start s.world state move).run host patience

/-- Makes steps until they are done or the run ends; in that case also says how. -/
def playAll : List Step → Stage → List (StepReport × Changes) →
    List (StepReport × Changes) × Stage × Option Ending
  | [], s, shown => (shown.reverse, s, none)
  | step :: rest, s, shown =>
    let m := s.advance step
    let s := { s with world := m.world, session := m.state }
    match m.control, m.state.report with
    | .ended ending, _ => (shown.reverse, s, some ending)
    | _, some report =>
      let (changes, s) := s.observe
      playAll rest s ((report, changes) :: shown)
    | _, none => (shown.reverse, s, some .endless)

/-- The stage on which a scenario begins. -/
def ofSetup (setup : Setup) : Stage :=
  let world : World Program :=
    { allocator := { installed := ordinaryPair }
      journal := { collector := setup.collected.map fun threshold => { threshold } }
      settings := .ofEnvironment setup.environment
      filter := (setup.environment.text? "RUST_LOG").bind Filter.parse? }
  let session : Session := { interface := setup.interface }
  match setup.runtime with
  | none => { world, session }
  | some cap =>
    { world := (world.startRuntime cap).1
      session := { session with runtimes := 1, tracked := [.nil 0] } }

/-- What the process wrote that a scenario ran in. -/
def close (s : Stage) (ending : Option Ending) : Closing :=
  let panic := match ending with
    | none => none
    | some (.aborted message) => some message
    | some .endless | some .fault => some ""
  -- A process that ends by itself has its allocator restored on the way out, when events are no
  -- longer collected.
  let world :=
    if ending.isNone then
      (({ s.world with journal := s.world.journal.withoutCollector } : World Program).install
        .system).1
    else s.world
  match world.journal.process with
  | none => { panic, console := .levels [], file := none }
  | some log =>
    { panic
      console :=
        if log.settings.json then
          .records (log.console.toList.map (·.toRecord fun _ => hiddenAddress))
        else .levels (log.console.toList.map (·.level))
      file := (log.settings.file.bind LogFile.place).map fun place =>
        (place, log.file.toList.map (·.toLine)) }

end Stage

/-- Plays a scenario. -/
def play (setup : Setup) (steps : List Step) : Transcript :=
  let (start, stage) := (Stage.ofSetup setup).observe
  let (shown, stage, ending) := stage.playAll steps []
  { start
    steps := shown
    closing := if setup.isolated then some (stage.close ending) else none }

end ObjectRuntime.Scenario
