import ObjectRuntime.Scenario.Transcript
/-!
# Scenarios on a bare registry

A registry without a runtime around it: kinds are registered and their slots written, and
questions are answered.  Runtimes can be started beside it, but everything else needs a runtime to
belong to.
-/

namespace ObjectRuntime.Scenario.Bare

/-- A registry, and the stage on which it reports. -/
structure State where
  registry : Registry Program := ∅
  stage : Stage

/-- Writes the registry, unless the change failed. -/
def write (s : State) : Except Failure (Registry Program) → State × Outcome
  | .ok registry => ({ s with registry }, .ok .unit)
  | .error e => (s, .error e)

def emit (s : State) (e : Event Program) : State :=
  { s with stage := { s.stage with world := s.stage.world.emit e } }

def perform (s : State) : Action → State × Outcome
  | .register kind =>
    match s.registry.register kind with
    | .ok registry => (emit { s with registry } (.kindRegistered kind), .ok .unit)
    | .error e => (s, .error e)
  | .setDestructor kind slot => write s (s.registry.setDestructor kind slot.toDestructor)
  | .setApply kind slot => write s (s.registry.setApply kind slot.toApply)
  | .query .cap => (s, .skip .noRuntime)
  | .query q =>
    match ({ registry := s.registry, cap := none } : Runtime Program).answer q with
    | .ok value => (s, .ok (toResult value))
    | .error e => (s, .error e)
  | _ => (s, .skip .noRuntime)

/-- Makes steps in a row and shows what each of them changed. -/
def playAll : List Step → State → List (StepReport × Changes)
  | [], _ => []
  | step :: rest, s =>
    if step.action.standsAlone then
      let (shown, stage, ending) := s.stage.playAll [step] []
      if ending.isSome then shown else shown ++ playAll rest { s with stage }
    else
      let (s, outcome) := perform s step.action
      let (changes, stage) := s.stage.observe
      (.mk outcome [], changes) :: playAll rest { s with stage }

/-- Plays a scenario on an empty registry. -/
def play (collected : Option Level) (steps : List Step) : Transcript :=
  let (start, stage) := (Stage.ofSetup { runtime := none, collected }).observe
  { start, steps := playAll steps { stage }, closing := none }

end ObjectRuntime.Scenario.Bare
