/-!
# Failures

Every way in which an operation can fail, with the numbers and names that identify the failure,
and the one line that reports it.
-/

namespace ObjectRuntime

/-- The tag that selects the behaviour of an object. -/
abbrev KindId := UInt64

/-- A violated rule of the runtime, with what identifies the violation. -/
inductive Failure where
  | unregisteredKind (kind : KindId)
  | unregisteredMember (kind : KindId) (name : String)
  /-- A release left this count, which is below zero. -/
  | countUnderflow (kind : KindId) (count : Int)
  | uncallable (kind : KindId)
  | duplicateKind (kind : KindId)
  | callDepthExceeded (depth : UInt64)
  /-- A null pointer where the named operation needs an object. -/
  | nullObject (operation : String)
  /-- The bytes of a member name are not UTF-8, or there is no name to read. -/
  | invalidName
  | invalidArgCount (count : Int)
  | allocationFailed (size : UInt64)
  deriving DecidableEq, Repr

namespace Failure

def message : Failure → String
  | unregisteredKind kind => "Unregistered kind: " ++ toString kind
  | unregisteredMember kind name =>
    "Kind " ++ toString kind ++ " has no member '" ++ name ++ "'"
  | countUnderflow kind count =>
    "Negative reference count! (kind " ++ toString kind ++ ", count " ++ toString count ++ ")"
  | uncallable kind => "Object of kind " ++ toString kind ++ " is not callable"
  | duplicateKind kind => "Kind " ++ toString kind ++ " is already registered"
  | callDepthExceeded depth => "__call__ chain exceeded depth " ++ toString depth
  | nullObject operation => "Null object passed to " ++ operation
  | invalidName => "Member name is not valid UTF-8"
  | invalidArgCount count => "Invalid argument count: " ++ toString count
  | allocationFailed size => "Allocation of " ++ toString size ++ " bytes failed"

end Failure

end ObjectRuntime
