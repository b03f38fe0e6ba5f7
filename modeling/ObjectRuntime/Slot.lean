/-!
# The slots of a kind

A kind says what happens when the last reference to one of its objects goes away and what happens
when one of its objects is applied.  Host code is known by a label: native code is called through
the C convention and cannot return errors; a closure can, and is handed the runtime that runs it.
-/

namespace ObjectRuntime

/-- Code that is called through the C convention: the routine that the runtime brings along for
the place where the code stands, or the host's. -/
inductive Native (κ : Type) where
  | stock
  | host (code : κ)
  deriving Repr, DecidableEq

/-- What runs when the last reference to an object goes away.  The stock routine gives the storage
back and does nothing else. -/
inductive Destructor (κ : Type) where
  | empty
  | native (entry : Native κ)
  | closure (code : κ)
  deriving Repr, DecidableEq

/-- What an application can be handed to.  The stock routine forwards it to the code that the
receiver, a function object, wraps. -/
inductive Callable (κ : Type) where
  | native (entry : Native κ)
  | closure (code : κ)
  deriving Repr, DecidableEq

/-- What happens when an object is applied. -/
inductive Apply (κ : Type) where
  | viaCallMember
  | direct (target : Callable κ)
  deriving Repr, DecidableEq

namespace Destructor

variable {κ : Type}

/-- The slot for a code pointer that may be null. -/
def ofNative : Option (Native κ) → Destructor κ
  | some entry => native entry
  | none => empty

/-- Whether nothing runs. -/
def isEmpty : Destructor κ → Bool
  | empty => true
  | _ => false

/-- How a slot reads in a log line; code addresses are not shown. -/
def describe : Destructor κ → String
  | empty => "Noop"
  | native _ => "Native(0x?)"
  | closure _ => "Custom(..)"

end Destructor

namespace Apply

variable {κ : Type}

/-- The slot for a code pointer that may be null. -/
def ofNative : Option (Native κ) → Apply κ
  | some entry => direct (.native entry)
  | none => viaCallMember

def isDirect : Apply κ → Bool
  | viaCallMember => false
  | direct _ => true

/-- How a slot reads in a log line; code addresses are not shown. -/
def describe : Apply κ → String
  | viaCallMember => "ViaCallMember"
  | direct (.native _) => "Native(0x?)"
  | direct (.closure _) => "Custom(..)"

end Apply

end ObjectRuntime
