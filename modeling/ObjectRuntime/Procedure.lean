import ObjectRuntime.Machine
/-!
# Procedures

Host code written as a tree: it ends, asks for something and goes on with the reply, or looks at
and changes the state that all code of the host shares.  Procedures make a host of their own.
-/

namespace ObjectRuntime

/-- Host code that ends with a value of type `α`. -/
inductive Procedure (κ σ α : Type) where
  | done (value : α)
  | ask (request : Request κ) (next : Reply κ → Procedure κ σ α)
  | get (next : σ → Procedure κ σ α)
  | set (state : σ) (next : Procedure κ σ α)

namespace Procedure

variable {κ σ α β : Type}

/-- Goes on with the value that a procedure ends with. -/
def bind (p : Procedure κ σ α) (f : α → Procedure κ σ β) : Procedure κ σ β :=
  match p with
  | done value => f value
  | ask request next => .ask request fun reply => (next reply).bind f
  | get next => .get fun state => (next state).bind f
  | set state next => .set state (next.bind f)

instance : Monad (Procedure κ σ) where
  pure := done
  bind := bind

instance : MonadStateOf σ (Procedure κ σ) where
  get := .get .done
  set state := .set state (.done ())
  modifyGet f := .get fun state =>
    let (value, state) := f state
    .set state (.done value)

/-- Where the code of a host waits for a reply. -/
abbrev Waiting (κ σ : Type) := Reply κ → Procedure κ σ Answer

/-- Goes on until the procedure asks for something or ends. -/
def toMove : Procedure κ σ Answer → σ → σ × Move κ (Waiting κ σ)
  | done answer, state => (state, .finish answer)
  | ask request next, state => (state, .ask request next)
  | get next, state => (next state).toMove state
  | set state next, _ => next.toMove state

/-- The host whose code is given by procedures. -/
def toHost (code : Invocation κ → Procedure κ σ Answer) : Host κ σ (Waiting κ σ) where
  enter invocation state := (code invocation).toMove state
  resume next reply state := (next reply).toMove state

end Procedure

end ObjectRuntime
