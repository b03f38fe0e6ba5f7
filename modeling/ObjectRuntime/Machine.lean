import ObjectRuntime.Foreign
import ObjectRuntime.Handles
/-!
# Runs

A `Host` is known by what it asks for next, given what it got so far; nothing else about it
matters.  A `run` alternates between the runtime and the host: the runtime performs a request, host
code that it enters may make requests of its own, and replies go back to whoever is waiting.
-/

namespace ObjectRuntime

variable {κ σ φ : Type}

namespace World

def perform (w : World κ) : Request κ → World κ × Turn κ
  | .on i op =>
    match w.runtimes[i]? with
    | some rt => w.operate i rt op
    | none => (w, .halt .fault)
  | .query i query =>
    match w.runtimes[i]? with
    | some rt => (w, .done (rt.answer query))
    | none => (w, .halt .fault)
  | .handle op => w.operateHandle op
  | .foreign call => w.call call
  | .service service => w.serve service

/-- Does what was left to do until an inner request got its reply. -/
def resume (w : World κ) (reply : Reply κ) : Pending κ → World κ × Turn κ
  | .releaseMethod i method => (w, .next (.on i (.release (some method))) (.keep reply))
  | .keep kept =>
    match reply with
    | .ok _ => (w, .done kept)
    | .error e => (w, .done (.error e))
  | .adopt i operation =>
    match reply with
    | .ok (.object (some r)) => w.adopt i r
    | .ok _ => (w, .done (.error (.nullObject operation)))
    | .error e => (w, .done (.error e))
  | .orFatal =>
    match reply with
    | .ok value => (w, .done (.ok value))
    | .error e => w.fatal e.message

end World

/-- What host code does next: ask for something and wait in a frame for the reply, or end. -/
inductive Move (κ φ : Type) where
  | ask (request : Request κ) (frame : φ)
  | finish (answer : Answer)

/-- A host: how its code begins and how it goes on after a reply, with a state of its own that all
of its code shares. -/
structure Host (κ σ φ : Type) where
  enter : Invocation κ → σ → σ × Move κ φ
  resume : φ → Reply κ → σ → σ × Move κ φ

/-- Who waits for a reply. -/
inductive Frame (κ φ : Type) where
  | pending (p : Pending κ)
  /-- Host code: the run that it belongs to, if the runtime started it, and where it stands. -/
  | host (invocation : Option (Invocation κ)) (frame : φ)

/-- What happens next. -/
inductive Control (κ : Type) where
  | perform (request : Request κ)
  | reply (reply : Reply κ)
  | ended (ending : Ending)

/-- A moment of a run.  The innermost frame comes first. -/
structure Moment (κ σ φ : Type) where
  world : World κ
  state : σ
  stack : List (Frame κ φ) := []
  control : Control κ

namespace Moment

/-- Goes on as host code says, which is not on the stack at the moment. -/
def move (m : Moment κ σ φ) (invocation : Option (Invocation κ)) : Move κ φ → Moment κ σ φ
  | .ask request frame =>
    { m with stack := .host invocation frame :: m.stack, control := .perform request }
  | .finish answer =>
    match invocation with
    | some invocation => { m with control := .reply (invocation.role.reply answer) }
    | none => { m with control := .reply (answer.map .object) }

/-- The moment at which a host begins with its first move. -/
def start (world : World κ) (state : σ) (first : Move κ φ) : Moment κ σ φ :=
  ({ world, state, control := .reply (.ok .unit) } : Moment κ σ φ).move none first

def turn (host : Host κ σ φ) (m : Moment κ σ φ) : Turn κ → Moment κ σ φ
  | .done reply => { m with control := .reply reply }
  | .next request p => { m with stack := .pending p :: m.stack, control := .perform request }
  | .halt ending => { m with control := .ended ending }
  | .enter invocation =>
    let (state, move) := host.enter invocation m.state
    { m with state }.move (some invocation) move

/-- Whether nothing happens next: the run ended, or a reply is there and nobody waits for it. -/
def isFinal (m : Moment κ σ φ) : Bool :=
  match m.control, m.stack with
  | .ended _, _ => true
  | .reply _, [] => true
  | _, _ => false

def step (host : Host κ σ φ) (m : Moment κ σ φ) : Moment κ σ φ :=
  match m.control with
  | .ended _ => m
  | .perform request =>
    let (world, turn) := m.world.perform request
    { m with world }.turn host turn
  | .reply reply =>
    match m.stack with
    | [] => m
    | .pending p :: stack =>
      let (world, turn) := m.world.resume reply p
      { m with world, stack }.turn host turn
    | .host invocation frame :: stack =>
      let (state, move) := host.resume frame reply m.state
      { m with state, stack }.move invocation move

/-- The moment of a run after so many steps, or the last one if it comes before. -/
def run (host : Host κ σ φ) : Nat → Moment κ σ φ → Moment κ σ φ
  | 0, m => m
  | n + 1, m => if m.isFinal then m else run host n (m.step host)

end Moment

end ObjectRuntime
