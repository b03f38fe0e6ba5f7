import ObjectRuntime.Request
/-!
# Reports

What a scenario shows of its steps: what they gave back, and the host code that ran on the way.
-/

namespace ObjectRuntime.Scenario

inductive Skip where
  | unbound
  | freed
  | null
  | noPayload
  | outOfRange
  | badCount
  | noRuntime
  | notABlock
  | notAnObject
  deriving DecidableEq, Repr

namespace Skip

def reason : Skip → String
  | unbound => "unbound"
  | freed => "freed"
  | null => "null"
  | noPayload => "no payload"
  | outOfRange => "out of range"
  | badCount => "bad field argc"
  | noRuntime => "no runtime"
  | notABlock => "not a block"
  | notAnObject => "not an object"

end Skip

structure HandleInfo where
  object : Ref
  count : Int
  kind : KindId
  runtime : RuntimeId
  deriving DecidableEq, Repr

/-- What a step that succeeded gave back. -/
inductive Result where
  | unit
  | object (pointer : Pointer)
  /-- An object that is only named: no register can be bound to it and no program hands it back. -/
  | named (pointer : Pointer)
  | block (block : Option BlockId)
  | number (n : Int)
  | numberOrNull (n : Option Nat)
  | flag (b : Bool)
  | text (s : String)
  | texts (l : List String)
  | bytes (l : Array UInt8)
  | header (count : Int) (kind : KindId)
  | handle (info : HandleInfo)
  | destructorSlot (isEmpty : Bool) (described : String)
  | applySlot (isDirect : Bool) (described : String)
  | traffic (l : List (String × Traffic))

inductive Outcome where
  | ok (result : Result)
  | error (e : Failure)
  | skip (reason : Skip)

mutual

/-- A step that was made: how it ended and which host code ran, in the order in which it ended. -/
inductive StepReport where
  | mk (outcome : Outcome) (calls : List CallReport)

/-- A run of host code: its name, what it was given, its steps, what it handed back, and the
runtime that a closure got. -/
inductive CallReport where
  | mk (name : String) (receiver : Ref) (args : List Pointer) (steps : List StepReport)
    (answer : Answer) (runtime : Option RuntimeId)

end

namespace StepReport

def outcome : StepReport → Outcome
  | mk outcome _ => outcome

def calls : StepReport → List CallReport
  | mk _ calls => calls

end StepReport

/-! ## Names -/

def refName : Ref → String
  | .nil i => "nil" ++ toString i
  | .object n => "o" ++ toString (n + 1)

def addressName : Address → String
  | .object r => refName r
  | .block b => "b" ++ toString (b + 1)

/-- How an address is shown that is known by name. -/
def namedAddress (a : Address) : String := "<" ++ addressName a ++ ">"

/-- How a handle is shown, on one line. -/
def HandleInfo.describe (h : HandleInfo) : String :=
  "ObjRef \x7b address: " ++ namedAddress (.object h.object) ++ ", kind: " ++ toString h.kind ++
    ", ref_count: " ++ toString h.count ++ " \x7d"

/-- How a handle is shown, on one line for each field. -/
def HandleInfo.describeTall (h : HandleInfo) : String :=
  "ObjRef \x7b\n    address: " ++ namedAddress (.object h.object) ++ ",\n    kind: " ++
    toString h.kind ++ ",\n    ref_count: " ++ toString h.count ++ ",\n\x7d"

end ObjectRuntime.Scenario
