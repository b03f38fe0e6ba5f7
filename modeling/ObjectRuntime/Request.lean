import ObjectRuntime.World
/-!
# Requests

What a host can ask for (`Request`), what it gets back (`Reply`), and how an operation can go on
(`Turn`): it may be done, hand over to host code, or continue with another request first.
-/

namespace ObjectRuntime

/-! ## What can be asked for -/

/-- An operation of one runtime. -/
inductive Operation (κ : Type) where
  | register (kind : KindId)
  | setDestructor (kind : KindId) (slot : Destructor κ)
  | setApply (kind : KindId) (slot : Apply κ)
  | setMember (kind : KindId) (name : String) (value : Pointer)
  | newObject (kind : KindId) (payload : UInt64)
  /-- A new reference to the runtime's nil. -/
  | nil
  | retain (object : Pointer)
  | release (object : Pointer)
  | lookup (object : Pointer) (name : String)
  | apply (callee : Pointer) (args : List Pointer)
  | methodCall (object : Pointer) (name : String) (args : List Pointer)

/-- A question about one runtime. -/
inductive Query where
  | contains (kind : KindId)
  | size
  | isEmpty
  | memberNames (kind : KindId)
  | member (kind : KindId) (name : String)
  | destructor (kind : KindId)
  | apply (kind : KindId)
  | cap
  deriving DecidableEq, Repr

/-- An operation on owned handles. -/
inductive HandleOperation where
  | adopt (runtime : RuntimeId) (object : Pointer)
  | borrow (runtime : RuntimeId) (object : Pointer)
  | nil (runtime : RuntimeId)
  | object (handle : HandleId)
  | runtime (handle : HandleId)
  | clone (handle : HandleId)
  | drop (handle : HandleId)
  /-- Gives the handle up and keeps its reference. -/
  | intoPointer (handle : HandleId)
  | lookup (handle : HandleId) (name : String)
  | call (handle : HandleId) (args : List HandleId)
  | methodCall (handle : HandleId) (name : String) (args : List HandleId)
  deriving DecidableEq, Repr

/-- A member name as the C interface gets it: a pointer that may be null, and a length. -/
inductive RawName where
  | null (length : UInt64)
  | bytes (content : ByteArray)

/-- An argument list as the C interface gets it: a count, and an array that may be null. -/
structure RawArgs where
  count : Int
  array : Option (List Pointer)
  deriving DecidableEq, Repr

/-- A call through the C interface. -/
inductive ForeignCall (κ : Type) where
  | register (kind : KindId)
  | setDestructor (kind : KindId) (entry : Option (Native κ))
  | setApply (kind : KindId) (entry : Option (Native κ))
  | setMember (kind : KindId) (name : RawName) (value : Pointer)
  | newObject (kind : KindId) (payload : UInt64)
  | nil
  | retain (object : Pointer)
  | release (object : Pointer)
  | lookup (object : Pointer) (name : RawName)
  | apply (callee : Pointer) (args : RawArgs)
  | methodCall (object : Pointer) (name : RawName) (args : RawArgs)
  | createFunction (entry : Option κ)
  | count (object : Pointer)
  | kind (object : Pointer)
  /-- Aborts with a message, which ends at its first zero byte. -/
  | panic (message : Option (List UInt8))
  /-- Starts the shared runtime and logging. -/
  | startUp
  /-- Shuts logging down. -/
  | cleanup

/-- A service of the process, or an access to memory that is the host's own business. -/
inductive Service (κ : Type) where
  | startRuntime (cap : DepthCap)
  /-- As `startRuntime`, but a failure is fatal. -/
  | requireRuntime (cap : DepthCap)
  | sharedRuntime
  /-- Makes an object of a kind that need not be registered. -/
  | createObject (kind : KindId) (payload : UInt64)
  | createFunction (code : κ)
  | freeObject (object : Pointer)
  | allocate (size : UInt64)
  | freeBlock (block : Option BlockId)
  | install (pair : Pair)
  | installed
  | traffic (pair : String)
  | startLogging
  | startLoggingWith (settings : LogSettings)
  | stopLogging
  | loggingStarted
  | fatal (message : String)
  | isReleased (address : Address)
  | count (object : Ref)
  | kind (object : Ref)
  | setCount (object : Ref) (count : Int)
  | payload (object : Ref)
  | write (object : Ref) (start : Nat) (bytes : List UInt8)

/-- Something that a host asks for. -/
inductive Request (κ : Type) where
  | on (runtime : RuntimeId) (operation : Operation κ)
  | query (runtime : RuntimeId) (query : Query)
  | handle (operation : HandleOperation)
  | foreign (call : ForeignCall κ)
  | service (service : Service κ)

/-! ## What comes back -/

/-- What a successful request gives back. -/
inductive Value (κ : Type) where
  | unit
  | object (pointer : Pointer)
  | block (block : Option BlockId)
  | handle (handle : Option HandleId)
  | runtime (id : RuntimeId)
  | count (n : Int)
  | kind (kind : KindId)
  | size (n : Nat)
  | flag (b : Bool)
  | name (s : String)
  | names (l : List String)
  | cap (cap : DepthCap)
  | destructor (slot : Destructor κ)
  | apply (slot : Apply κ)
  | traffic (t : Traffic)
  | payload (bytes : Option (Array UInt8))

/-- What a request gives back. -/
abbrev Reply (κ : Type) := Except Failure (Value κ)

/-! ## How an operation goes on -/

/-- In which place host code runs. -/
inductive Role where
  | nativeDestructor
  | nativeApply
  /-- A closure gets the runtime that runs it. -/
  | closureDestructor (runtime : RuntimeId)
  | closureApply (runtime : RuntimeId)
  deriving DecidableEq, Repr

def Role.isDestructor : Role → Bool
  | .nativeDestructor | .closureDestructor _ => true
  | .nativeApply | .closureApply _ => false

/-- A run of host code. -/
structure Invocation (κ : Type) where
  code : κ
  role : Role
  receiver : Ref
  args : List Pointer := []
  deriving Repr

/-- What host code hands back when it ends. -/
abbrev Answer := Except Failure Pointer

/-- What an operation gets from the host code that it ran.  Destructors hand back nothing, and
native code cannot return errors: where a closure would, it returns null. -/
def Role.reply {κ : Type} (role : Role) (answer : Answer) : Reply κ :=
  match role, answer with
  | .nativeDestructor, _ | .closureDestructor _, _ => .ok .unit
  | .nativeApply, .ok p | .closureApply _, .ok p => .ok (.object p)
  | .nativeApply, .error _ => .ok (.object none)
  | .closureApply _, .error e => .error e

/-- What is left to do once the reply to an inner request is there. -/
inductive Pending (κ : Type) where
  /-- Release the method that was called, and give its result back. -/
  | releaseMethod (runtime : RuntimeId) (method : Ref)
  | keep (reply : Reply κ)
  /-- Make a handle of the resulting reference; null is an error of the named operation. -/
  | adopt (runtime : RuntimeId) (operation : String)
  | orFatal

/-- How a run ends before its time. -/
inductive Ending where
  | aborted (message : String)
  /-- An application without a cap never comes to an end. -/
  | endless
  /-- Storage that was given back, or was never there, is touched. -/
  | fault
  deriving DecidableEq, Repr

/-- The line that an ending leaves on the error stream, if it leaves one. -/
def Ending.diagnostic : Ending → Option String
  | .aborted message => some ("Panic: " ++ message)
  | .endless | .fault => none

/-- How an operation goes on. -/
inductive Turn (κ : Type) where
  | done (reply : Reply κ)
  | enter (invocation : Invocation κ)
  | next (request : Request κ) (pending : Pending κ)
  | halt (ending : Ending)

end ObjectRuntime
