import ObjectRuntime.Scenario.Pairs
/-!
# Steps

What each step does: it resolves its operands, which may end it, makes its requests, and says what
came of them.
-/

namespace ObjectRuntime.Scenario

/-! ## Requests by way of the session's interface -/

/-- Makes a request of the current runtime, or the call that stands for it at the C interface. -/
def operate (op : Operation Program) (call : ForeignCall Program) : Act (Value Program) := do
  let s ← get
  match s.interface with
  | .direct => request (.on s.current op)
  | .foreign => request (.foreign call)

def toPointer : Value Program → Pointer
  | .object p => p
  | _ => none

/-- A new object, whose count is shown from now on. -/
def newlyMade (v : Value Program) : Act Result := do
  if let some r := toPointer v then track r
  return .object (toPointer v)

namespace NameOperand

/-- The name that a step passes to a runtime. -/
def toName : NameOperand → String
  | text s => s
  | bytes _ | null _ => ""

/-- The pointer and length that a step passes to the C interface. -/
def toRaw : NameOperand → RawName
  | text s => .bytes s.toUTF8
  | bytes content => .bytes content
  | null length => .null length

end NameOperand

/-- The receiver and the arguments of a step, and the argument list for the C interface.
Arguments come first there, and their count must not be above their number. -/
def receiverAndArgs (receiver : Operand) (args : ArgsOperand) :
    Act (Pointer × List Pointer × RawArgs) := do
  match (← get).interface with
  | .direct =>
    let r ← pointer receiver
    let list ← pointers (args.array.getD [])
    return (r, list, ⟨list.length, some list⟩)
  | .foreign =>
    let list ← pointers (args.array.getD [])
    let count := args.count.getD list.length
    if args.array.isSome ∧ count > list.length then skip .badCount
    let r ← pointer receiver
    return (r, list, ⟨count, args.array.map fun _ => list⟩)

namespace SlotOperand

def toDestructor : SlotOperand → Destructor Program
  | empty => .empty
  | stock => .native .stock
  | native program => .native (.host program)
  | closure program => .closure program

def toApply : SlotOperand → Apply Program
  | empty | stock => .viaCallMember
  | native program => .direct (.native (.host program))
  | closure program => .direct (.closure program)

def toNative : SlotOperand → Option (Native Program)
  | empty | closure _ => none
  | stock => some .stock
  | native program => some (.host program)

end SlotOperand

/-! ## Single steps -/

/-- Releases an object so many times, as long as it is there. -/
def releaseTimes (p : Pointer) : Nat → Act Result
  | 0 => return .unit
  | n + 1 => do
    let _ ← operate (.release p) (.release p)
    if n ≠ 0 then
      if let some r := p then
        if ← isReleased (.object r) then skip .freed
    releaseTimes p n

/-- Retains an object so many times. -/
def retainTimes (p : Pointer) : Nat → Act Result
  | 0 => return .unit
  | n + 1 => do
    let _ ← operate (.retain p) (.retain p)
    retainTimes p n

/-- Makes kinds from `base + n - 1` down to `base`, each with an object, of which each is called
by applying the one made before it, and the first by applying `last`. -/
def buildChain (i : RuntimeId) (base : KindId) : Nat → Pointer → Act Pointer
  | 0, last => return last
  | n + 1, last => do
    let kind := base + UInt64.ofNat n
    let _ ← request (.on i (.register kind))
    let object ← request (.on i (.newObject kind 0))
    let _ ← request (.on i (.setMember kind callMember last))
    buildChain i base n (toPointer object)

def toResult : Value Program → Result
  | .object p => .object p
  | .block b => .block b
  | .count n => .number n
  | .kind k => .number k.toNat
  | .size n | .runtime n => .number n
  | .flag b => .flag b
  | .name s => .text s
  | .names l => .texts l
  | .cap cap => .numberOrNull (cap.map (·.toNat))
  | .destructor slot => .destructorSlot slot.isEmpty slot.describe
  | .apply slot => .applySlot slot.isDirect slot.describe
  | .unit | .handle _ | .traffic _ | .payload _ => .unit

def handleInfo (h : HandleId) : Act HandleInfo := do
  match ← request (.handle (.object h)), ← request (.handle (.runtime h)) with
  | .object (some r), .runtime runtime =>
    match ← service (.count r), ← service (.kind r) with
    | .count n, .kind k => return { object := r, count := n, kind := k, runtime }
    | _, _ => skip .unbound
  | _, _ => skip .unbound

/-- Makes a request whose reply is a handle, and keeps the handle under a name. -/
def keepHandle (name : String) (op : HandleOperation) : Act Result := do
  match ← request (.handle op) with
  | .handle (some h) =>
    modify fun s => { s with handles := s.handles.insert name h }
    return .named (toPointer (← request (.handle (.object h))))
  | _ => return .named none

def forgetHandle (name : String) : Act Unit :=
  modify fun s => { s with handles := s.handles.erase name }

/-- The number of a new runtime, whose nil is shown from now on. -/
def newRuntime (v : Value Program) : Act Result := do
  match v with
  | .runtime i =>
    modify fun s => { s with runtimes := s.runtimes + 1 }
    track (.nil i)
    return .number i
  | _ => return .unit

def payloadOf (r : Ref) : Act (Array UInt8) := do
  match ← service (.payload r) with
  | .payload (some bytes) => return bytes
  | _ => skip .noPayload

/-- Whether a step can do without a runtime. -/
def Action.standsAlone : Action → Bool
  | .startRuntime _ | .requireRuntime _ => true
  | _ => false

def perform : Action → Act Result
  | .register kind => do
    let _ ← operate (.register kind) (.register kind)
    return .unit
  | .setDestructor kind slot => do
    let _ ← operate (.setDestructor kind slot.toDestructor) (.setDestructor kind slot.toNative)
    return .unit
  | .setApply kind slot => do
    let _ ← operate (.setApply kind slot.toApply) (.setApply kind slot.toNative)
    return .unit
  | .query q => do
    let s ← get
    match s.interface with
    | .direct => return toResult (← request (.query s.current q))
    | .foreign =>
      match ← service .sharedRuntime with
      | .runtime i => return toResult (← request (.query i q))
      | _ => return .unit
  | .setMember kind name o => do
    let p ← pointer o
    let _ ← operate (.setMember kind name.toName p) (.setMember kind name.toRaw p)
    return .unit
  | .newObject kind payload => do
    newlyMade (← operate (.newObject kind payload) (.newObject kind payload))
  | .createObject kind payload => do newlyMade (← service (.createObject kind payload))
  | .chain base length last => do
    let last ← pointer last
    return .object (← buildChain (← get).current base length last)
  | .nil => do newlyMade (← operate .nil .nil)
  | .retain o times => do retainTimes (← pointer o) times
  | .release o times => do releaseTimes (← pointer o) times
  | .count o => do
    match (← get).interface with
    | .direct => return toResult (← service (.count (← object o)))
    | .foreign => return toResult (← request (.foreign (.count (← pointer o))))
  | .kind o => do
    match (← get).interface with
    | .direct => return toResult (← service (.kind (← object o)))
    | .foreign => return toResult (← request (.foreign (.kind (← pointer o))))
  | .header o => do
    let r ← object o
    match ← service (.count r), ← service (.kind r) with
    | .count n, .kind k => return .header n k
    | _, _ => return .unit
  | .lookup o name => do
    let p ← pointer o
    return toResult (← operate (.lookup p name.toName) (.lookup p name.toRaw))
  | .apply o args => do
    let (r, list, raw) ← receiverAndArgs o args
    return toResult (← operate (.apply r list) (.apply r raw))
  | .methodCall o name args => do
    let (r, list, raw) ← receiverAndArgs o args
    return toResult
      (← operate (.methodCall r name.toName list) (.methodCall r name.toRaw raw))
  | .freeObject o => do
    let _ ← service (.freeObject (← pointer o))
    return .unit
  | .startRuntime cap => do newRuntime (← service (.startRuntime cap))
  | .requireRuntime cap => do newRuntime (← service (.requireRuntime cap))
  | .adopt o name => do keepHandle name (.adopt (← get).current (← pointer o))
  | .borrow o name => do keepHandle name (.borrow (← get).current (← pointer o))
  | .nilHandle name => do keepHandle name (.nil (← get).current)
  | .clone source name => do keepHandle name (.clone (← handle source))
  | .drop name => do
    let h ← handle name
    forgetHandle name
    let _ ← request (.handle (.drop h))
    return .unit
  | .intoPointer name => do
    let h ← handle name
    forgetHandle name
    return toResult (← request (.handle (.intoPointer h)))
  | .inspectHandle name => do return .handle (← handleInfo (← handle name))
  | .describeHandle name => do
    let info ← handleInfo (← handle name)
    return .texts [info.describe, info.describeTall]
  | .sameObject a b => do
    let b ← handleInfo (← handle b)
    let a ← handleInfo (← handle a)
    return .flag (a.object = b.object)
  | .lookupHandle source name target => do keepHandle target (.lookup (← handle source) name)
  | .callHandle source args target => do
    let args ← args.mapM handle
    keepHandle target (.call (← handle source) args)
  | .methodCallHandle source name args target => do
    let args ← args.mapM handle
    keepHandle target (.methodCall (← handle source) name args)
  | .createFunction program => do
    match (← get).interface, program with
    | .direct, some program => newlyMade (← service (.createFunction program))
    | .direct, none => return .object none
    | .foreign, program => newlyMade (← request (.foreign (.createFunction program)))
  | .copy o => do
    match ← operand o with
    | some (.block b) => return .block (some b)
    | some (.object r) => return .object (some r)
    | none => return .object none
  | .setCount o count => do
    let _ ← service (.setCount (← object o) count)
    return .unit
  | .payload o => do return .bytes (← payloadOf (← object o))
  | .write o start bytes => do
    let r ← object o
    let content ← payloadOf r
    if content.size < start + bytes.length then skip .outOfRange
    let _ ← service (.write r start bytes)
    return .unit
  | .setField o index value => do
    let r ← object o
    let p ← pointer value
    modify fun s => { s with fields := s.fields.insert (r, index) p }
    return .unit
  | .getField o index => do
    let r ← object o
    return .object (((← get).fields.get? (r, index)).getD none)
  | .startsOf program => do return .number (((← get).starts.get? program).getD 0 : Nat)
  | .allocate size => do return toResult (← service (.allocate size))
  | .freeBlock o => do
    match ← operand o with
    | none =>
      let _ ← service (.freeBlock none)
      return .unit
    | some (.block b) =>
      let _ ← service (.freeBlock (some b))
      return .unit
    | some (.object _) => skip .notABlock
  | .install name bound => do
    setBound name bound
    let replaced ← service (.install ((← get).pair name))
    match (← get).interface with
    | .direct => return toResult replaced
    | .foreign => return .unit
  | .installed => do return toResult (← service .installed)
  | .traffic => do return .traffic (← pairNames.mapM fun name => return (name, ← trafficOf name))
  | .probeSystem size => return .numberOrNull (if Pair.system.serves 0 size then some 0 else none)
  | .loggingStarted => do return toResult (← service .loggingStarted)
  | .startLogging => do return toResult (← service .startLogging)
  | .stopLogging => do return toResult (← service .stopLogging)
  | .fatal message => do return toResult (← service (.fatal message))
  | .panic message => do return toResult (← request (.foreign (.panic message)))
  | .startUp => do return toResult (← request (.foreign .startUp))
  | .cleanup => do return toResult (← request (.foreign .cleanup))
  | .guard key bound => do
    let s ← get
    let n := (s.guards.get? key).getD 0 + 1
    set { s with guards := s.guards.insert key n }
    return .text (if n > bound then "stop" else "go")

/-- How a step ends. -/
def attempt (a : Action) : Play Outcome := do
  let s ← get
  if s.interface = .direct ∧ s.runtimes = 0 ∧ ¬a.standsAlone then return .skip .noRuntime
  match ← (perform a).run with
  | .ok result => return .ok result
  | .error (.skip reason) => return .skip reason
  | .error (.error e) => return .error e

/-! ## Steps in a row -/

/-- Makes a step: its runtime is the current one while it runs, and its object is bound at the
end. -/
def Step.play (step : Step) : Play StepReport := do
  let before ← get
  let current := match step.runtime with
    | some i => min i (before.runtimes - 1)
    | none => before.current
  set { before with current, calls := [] }
  let outcome ← attempt step.action
  let after ← get
  let bound := match outcome with
    | .ok result => after.bind step.register result
    | _ => after
  set { bound with current := before.current, calls := before.calls }
  return .mk outcome after.calls.reverse

/-- Makes steps in a row, up to a guard that stops; also gives the outcome of the last one that is
no guard. -/
def playSteps : List Step → Option Outcome → Play (List StepReport × Option Outcome)
  | [], last => return ([], last)
  | step :: rest, last => do
    let report ← step.play
    match step.action, report.outcome with
    | .guard .., .ok (.text "stop") => return ([report], last)
    | .guard .., _ =>
      let (reports, last) ← playSteps rest last
      return (report :: reports, last)
    | _, outcome =>
      let (reports, last) ← playSteps rest (some outcome)
      return (report :: reports, last)

/-- What a program hands back, given the outcome of its last step. -/
def Return.evaluate (result : Return) (last : Option Outcome) : Play Answer := do
  match result with
  | .error e => return .error e
  | .lastOutcome =>
    match last with
    | some (.ok (.object p)) => return .ok p
    | some (.error e) => return .error e
    | _ => return .ok none
  | .register o =>
    match ← (pointer o).run with
    | .ok p => return .ok p
    | .error _ => return .ok none

/-- The runtime that host code is handed. -/
def handedRuntime : Role → Option RuntimeId
  | .closureDestructor i | .closureApply i => some i
  | .nativeDestructor | .nativeApply => none

/-- Runs a program as host code. -/
def playProgram (run : Invocation Program) : Play Answer := do
  let program := run.code
  let before ← get
  let runtime := handedRuntime run.role
  let started := (before.starts.get? program.name).getD 0 + 1
  set { before with
    scope := some ⟨run.receiver, run.args⟩
    current := runtime.getD before.current
    starts := before.starts.insert program.name started }
  let (reports, last) ← playSteps program.steps none
  let answer ← program.result.evaluate last
  let after ← get
  let report := CallReport.mk program.name run.receiver run.args reports answer runtime
  set { after with
    scope := before.scope
    current := before.current
    calls := if program.quiet then after.calls else report :: after.calls }
  return answer

end ObjectRuntime.Scenario
