import ObjectRuntime.Request
/-!
# Scenarios

A scenario is a host program in steps.  Steps name objects by register, and the programs that they
put into slots and function objects are again lists of steps.
-/

namespace ObjectRuntime.Scenario

/-- A register, or `none` for the null pointer. -/
abbrev Operand := Option String

/-- A member name in a step. -/
inductive NameOperand where
  | text (s : String)
  | bytes (content : ByteArray)
  /-- A null pointer with a length. -/
  | null (length : UInt64)

/-- The arguments in a step: the array, unless it is null, and the count where it is not its
length. -/
structure ArgsOperand where
  array : Option (List Operand)
  count : Option Int

inductive Return where
  | register (name : Operand)
  /-- The object or the error of the program's last step. -/
  | lastOutcome
  | error (e : Failure)

mutual

inductive SlotOperand where
  | empty
  | stock
  | native (program : Program)
  | closure (program : Program)

/-- Host code: its name, its steps, what it hands back, and whether it goes unreported. -/
inductive Program where
  | mk (name : String) (steps : List Step) (result : Return) (quiet : Bool)

inductive Action where
  | register (kind : KindId)
  | setDestructor (kind : KindId) (slot : SlotOperand)
  | setApply (kind : KindId) (slot : SlotOperand)
  | query (query : Query)
  | setMember (kind : KindId) (name : NameOperand) (object : Operand)
  | newObject (kind : KindId) (payload : UInt64)
  /-- Makes an object of a kind that need not be registered. -/
  | createObject (kind : KindId) (payload : UInt64)
  /-- Makes kinds one above the other, each with one object, of which each is called by applying
  the one above it, and the topmost by applying `last`. -/
  | chain (base : KindId) (length : Nat) (last : Operand)
  | nil
  | retain (object : Operand) (times : Nat)
  | release (object : Operand) (times : Nat)
  | count (object : Operand)
  | kind (object : Operand)
  | header (object : Operand)
  | lookup (object : Operand) (name : NameOperand)
  | apply (object : Operand) (args : ArgsOperand)
  | methodCall (object : Operand) (name : NameOperand) (args : ArgsOperand)
  | freeObject (object : Operand)
  | startRuntime (cap : DepthCap)
  | requireRuntime (cap : DepthCap)
  | adopt (object : Operand) (handle : String)
  | borrow (object : Operand) (handle : String)
  | nilHandle (handle : String)
  | clone (source handle : String)
  | drop (handle : String)
  | intoPointer (handle : String)
  | inspectHandle (handle : String)
  | describeHandle (handle : String)
  | sameObject (a b : String)
  | lookupHandle (source name handle : String)
  | callHandle (source : String) (args : List String) (handle : String)
  | methodCallHandle (source name : String) (args : List String) (handle : String)
  | createFunction (program : Option Program)
  | copy (object : Operand)
  | setCount (object : Operand) (count : Int)
  | payload (object : Operand)
  | write (object : Operand) (start : Nat) (bytes : List UInt8)
  | setField (object : Operand) (index : Nat) (value : Operand)
  | getField (object : Operand) (index : Nat)
  | startsOf (program : String)
  | allocate (size : UInt64)
  | freeBlock (block : Operand)
  | install (pair : String) (bound : Option Nat)
  | installed
  | traffic
  /-- Whether the platform heap serves a request of this size. -/
  | probeSystem (size : UInt64)
  | loggingStarted
  | startLogging
  | stopLogging
  | fatal (message : String)
  | panic (message : Option (List UInt8))
  | startUp
  | cleanup
  /-- Counts under a key, and leaves the rest of the program out once the count is above a bound.
  -/
  | guard (key : String) (bound : Nat)

/-- A step: what it does, the register that gets the resulting object, and the runtime that it is
for. -/
inductive Step where
  | mk (action : Action) (register : Option String) (runtime : Option RuntimeId)

end

namespace Program

def name : Program → String
  | mk name _ _ _ => name

def steps : Program → List Step
  | mk _ steps _ _ => steps

def result : Program → Return
  | mk _ _ result _ => result

def quiet : Program → Bool
  | mk _ _ _ quiet => quiet

end Program

namespace Step

def action : Step → Action
  | mk action _ _ => action

def register : Step → Option String
  | mk _ register _ => register

def runtime : Step → Option RuntimeId
  | mk _ _ runtime => runtime

end Step

end ObjectRuntime.Scenario
