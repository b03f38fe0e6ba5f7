import ObjectRuntime.Procedure
import ObjectRuntime.Scenario.Report
import ObjectRuntime.Scenario.Syntax
/-!
# Sessions

What the steps of a scenario share: registers, handles by name, fields, counters, and what the
running host code was given.  A step works on this state and on the runtime, and may stop early.
-/

namespace ObjectRuntime.Scenario

/-- Through which interface a scenario calls the runtime. -/
inductive Interface where
  | direct
  | foreign
  deriving DecidableEq, Repr

/-- What running host code was given. -/
structure Scope where
  receiver : Ref
  args : List Pointer

/-- What the steps of a scenario share. -/
structure Session where
  interface : Interface := .direct
  registers : Table String (Option Address) := ∅
  handles : Table String HandleId := ∅
  fields : Table (Ref × Nat) Pointer := ∅
  /-- The counters of guards. -/
  guards : Table String Nat := ∅
  starts : Table String Nat := ∅
  /-- What the running host code was given, if any is running. -/
  scope : Option Scope := none
  current : RuntimeId := 0
  runtimes : Nat := 0
  /-- The host code that ran during the current step, the latest first. -/
  calls : List CallReport := []
  /-- The objects whose counts are shown, the latest first. -/
  tracked : List Ref := []
  ration : Nat := 0
  limit : UInt64 := 0x4000000
  /-- What the latest finished step of the scenario itself came to. -/
  report : Option StepReport := none

/-- Why a step stops early. -/
inductive Stop where
  | skip (reason : Skip)
  | error (e : Failure)

/-- Steps of a scenario that cannot stop early. -/
abbrev Play := Procedure Program Session

abbrev Act := ExceptT Stop Play

/-- Makes a request; an error stops the step. -/
def request (r : Request Program) : Act (Value Program) :=
  ExceptT.mk (.ask r fun
    | .ok value => .done (.ok value)
    | .error e => .done (.error (.error e)))

/-- Stops the step without a request. -/
def skip {α : Type} (reason : Skip) : Act α := throw (.skip reason)

def service (s : Service Program) : Act (Value Program) := request (.service s)

def isReleased (a : Address) : Act Bool := do
  match ← service (.isReleased a) with
  | .flag b => return b
  | _ => return false

/-! ## Operands -/

/-- The number of an argument register. -/
def argumentNumber? (name : String) : Option Nat :=
  match name.toList with
  | 'a' :: 'r' :: 'g' :: digits => Text.readDigits? digits
  | _ => none

/-- Whether a register belongs to the running host code and cannot be bound. -/
def isReserved (name : String) : Bool := name == "self" || (argumentNumber? name).isSome

/-- What a register stands for; nothing if it is unbound. -/
def Session.register? (s : Session) (name : String) : Option (Option Address) :=
  if name = "self" then some (s.scope.map fun scope => .object scope.receiver)
  else
    match argumentNumber? name with
    | some n => (s.scope.bind fun scope => scope.args[n]?).map (·.map .object)
    | none => s.registers.get? name

/-- What an operand stands for, which must not have been given back. -/
def operand (o : Operand) : Act (Option Address) := do
  match o with
  | none => return none
  | some name =>
    match (← get).register? name with
    | none => skip .unbound
    | some none => return none
    | some (some a) =>
      if ← isReleased a then skip .freed
      return some a

/-- The object that an operand stands for, or null. -/
def pointer (o : Operand) : Act Pointer := do
  match ← operand o with
  | none => return none
  | some (.object r) => return some r
  | some (.block _) => skip .notAnObject

def object (o : Operand) : Act Ref := do
  match ← pointer o with
  | some r => return r
  | none => skip .null

def pointers (l : List Operand) : Act (List Pointer) := l.mapM pointer

def handle (name : String) : Act HandleId := do
  match (← get).handles.get? name with
  | none => skip .unbound
  | some h =>
    match ← request (.handle (.object h)) with
    | .object (some r) => if ← isReleased (.object r) then skip .freed
    | _ => pure ()
    return h

/-- Binds a register to what a step came to. -/
def Session.bind (s : Session) (register : Option String) (result : Result) : Session :=
  match register with
  | none => s
  | some name =>
    if isReserved name then s
    else
      match result with
      | .object p => { s with registers := s.registers.insert name (p.map .object) }
      | .block b => { s with registers := s.registers.insert name (b.map .block) }
      | _ => s

/-- Shows the count of an object from now on. -/
def track (r : Ref) : Act Unit :=
  modify fun s => if s.tracked.contains r then s else { s with tracked := r :: s.tracked }

end ObjectRuntime.Scenario
