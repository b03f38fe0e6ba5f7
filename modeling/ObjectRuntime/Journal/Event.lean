import ObjectRuntime.Heap
import ObjectRuntime.Journal.Level
import ObjectRuntime.Settings.CallDepth
import ObjectRuntime.Slot
/-!
# Events

What the runtime reports about itself.  An event is its cause with the values that belong to it;
its level, its target and its fields follow from that.
-/

namespace ObjectRuntime

/-- Something that the runtime did. -/
inductive Event (κ : Type) where
  | allocation (size : Nat) (address : Address)
  /-- Storage is about to be given back. -/
  | deallocation (address : Address)
  | allocatorReplaced
  | objectNew (kind : KindId) (size : Nat) (object : Ref)
  /-- The storage of an object is about to be given back. -/
  | objectFree (object : Ref)
  /-- The last reference to an object went away and its destructor is about to run. -/
  | objectDestroy (kind : KindId) (object : Ref)
  | kindRegistered (kind : KindId)
  /-- A name was bound again; the previous occupant keeps its reference. -/
  | memberOverwrite (kind : KindId) (name : String) (replaced : Ref)
  | destructorAttached (kind : KindId) (slot : Destructor κ)
  | applyAttached (kind : KindId) (slot : Apply κ)
  /-- The built-in kinds are registered and nil is made. -/
  | builtinsRegistered (nil : Ref)
  | bootstrapped (kinds : Nat) (cap : DepthCap)
  | lookup (kind : KindId) (name : String)
  /-- A direct slot is about to be started, this many hops from the callee. -/
  | apply (kind : KindId) (args hops : Nat)
  | methodCall (kind : KindId) (name : String) (args : Nat)
  | foreignCall (function : String) (args : Nat)
  | initialized
  | shutdown
  | fatal (reason : String)

/-- The value of a field. -/
inductive FieldValue where
  | number (n : Nat)
  /-- A text that is quoted where values are written out. -/
  | text (s : String)
  /-- A text that is written as it is. -/
  | bare (s : String)
  | address (a : Address)
  deriving DecidableEq, Repr

namespace Event

variable {κ : Type}

def level : Event κ → Level
  | fatal _ => .error
  | memberOverwrite .. => .warn
  | bootstrapped .. | initialized | shutdown => .info
  | kindRegistered _ | destructorAttached .. | applyAttached .. | builtinsRegistered _
  | allocatorReplaced => .debug
  | allocation .. | deallocation _ | objectNew .. | objectFree _ | objectDestroy .. | lookup ..
  | apply .. | methodCall .. | foreignCall .. => .trace

def target : Event κ → String
  | allocation .. | deallocation _ | foreignCall .. | initialized | shutdown => "kindrt::logging"
  | allocatorReplaced => "kindrt::allocator"
  | objectNew .. | objectFree _ => "kindrt::object"
  | objectDestroy .. => "kindrt::runtime::refcount"
  | kindRegistered _ | memberOverwrite .. => "kindrt::kind"
  | destructorAttached .. | applyAttached .. | bootstrapped .. => "kindrt::runtime"
  | builtinsRegistered _ => "kindrt::builtins"
  | lookup .. | apply .. | methodCall .. => "kindrt::dispatch"
  | fatal _ => "kindrt::fatal"

def message : Event κ → Option String
  | allocation .. => some "Memory allocated"
  | deallocation _ => some "Memory deallocated"
  | allocatorReplaced => some "Raw allocator replaced"
  | kindRegistered _ => some "Kind registered"
  | memberOverwrite .. => some "Member replaced without releasing previous value"
  | destructorAttached .. => some "Destructor attached"
  | applyAttached .. => some "Apply attached"
  | builtinsRegistered _ => some "Built-in kinds registered (nil, function)"
  | bootstrapped .. => some "Runtime bootstrapped"
  | foreignCall .. => some "FFI function called"
  | initialized => some "kindrt runtime initializing"
  | shutdown => some "kindrt runtime shutting down"
  | fatal _ => some "Runtime invariant violated"
  | objectNew .. | objectFree _ | objectDestroy .. | lookup .. | apply .. | methodCall .. => none

/-- The fields after the message, in the order in which they are written. -/
def fields : Event κ → List (String × FieldValue)
  | allocation size address =>
    [("event", .text "allocation"), ("size_bytes", .number size), ("address", .address address)]
  | deallocation address => [("event", .text "deallocation"), ("address", .address address)]
  | allocatorReplaced => [("event", .text "allocator_replaced")]
  | objectNew kind size object =>
    [("event", .text "object_new"), ("kind", .number kind.toNat), ("size_bytes", .number size),
      ("address", .address (.object object))]
  | objectFree object => [("event", .text "object_free"), ("address", .address (.object object))]
  | objectDestroy kind object =>
    [("event", .text "object_destroy"), ("kind", .number kind.toNat),
      ("address", .address (.object object)), ("count", .number 0)]
  | kindRegistered kind => [("event", .text "kind_registered"), ("kind", .number kind.toNat)]
  | memberOverwrite kind name replaced =>
    [("event", .text "member_overwrite"), ("kind", .number kind.toNat), ("member", .text name),
      ("replaced", .address (.object replaced))]
  | destructorAttached kind slot =>
    [("kind", .number kind.toNat), ("destructor", .bare slot.describe)]
  | applyAttached kind slot => [("kind", .number kind.toNat), ("apply", .bare slot.describe)]
  | builtinsRegistered nil => [("nil", .address (.object nil))]
  | bootstrapped kinds cap =>
    [("kinds", .number kinds), ("max_call_depth", .bare (match cap with
      | some n => "Some(" ++ toString n ++ ")"
      | none => "None"))]
  | lookup kind name =>
    [("event", .text "lookup"), ("kind", .number kind.toNat), ("member", .text name)]
  | apply kind args hops =>
    [("event", .text "apply"), ("kind", .number kind.toNat), ("args", .number args),
      ("depth", .number hops)]
  | methodCall kind name args =>
    [("event", .text "method_call"), ("kind", .number kind.toNat), ("member", .text name),
      ("args", .number args)]
  | foreignCall function args =>
    [("event", .text "ffi_call"), ("function", .text function), ("args", .number args)]
  | initialized => [("event", .text "runtime_init")]
  | shutdown => [("event", .text "runtime_shutdown")]
  | fatal reason => [("event", .text "fatal"), ("reason", .text reason)]

/-- The names of all that the event says. -/
def fieldNames (e : Event κ) : List String :=
  (e.message.toList.map fun _ => "message") ++ e.fields.map (·.1)

end Event

end ObjectRuntime
