import ObjectRuntime.Operation
import ObjectRuntime.Service
import ObjectRuntime.Text.Utf8
/-!
# The C interface

Calls with raw names and argument arrays.  They are decoded first, the name before the arguments,
and then performed on the one runtime of the process, which starts when a call first needs it
(`onShared`).  There is no way to hand an error back, so every error is fatal (`Pending.orFatal`).
-/

namespace ObjectRuntime

variable {κ : Type}

/-- The name that a pointer and a length denote. -/
def RawName.decode : RawName → Except Failure String
  | .null 0 => .ok ""
  | .null _ => .error .invalidName
  | .bytes content =>
    match String.fromUTF8? content with
    | some name => .ok name
    | none => .error .invalidName

def RawArgs.decode (args : RawArgs) : Except Failure (List Pointer) :=
  if args.count < 0 then .error (.invalidArgCount args.count)
  else
    match args.array with
    | some array => .ok (array.take args.count.toNat)
    | none => if args.count = 0 then .ok [] else .error (.nullObject "argument array")

namespace World

/-- Performs an operation on the shared runtime; errors are fatal. -/
def onShared (w : World κ) (op : Operation κ) : World κ × Turn κ :=
  match w.sharedRuntime with
  | (w, .ok i) => (w, .next (.on i op) .orFatal)
  | (w, .error e) => w.fatal e.message

def onSharedWith {α : Type} (w : World κ) (decoded : Except Failure α)
    (op : α → Operation κ) : World κ × Turn κ :=
  match decoded with
  | .ok a => w.onShared (op a)
  | .error e => w.fatal e.message

def call (w : World κ) : ForeignCall κ → World κ × Turn κ
  | .register kind => w.onShared (.register kind)
  | .setDestructor kind entry => w.onShared (.setDestructor kind (.ofNative entry))
  | .setApply kind entry => w.onShared (.setApply kind (.ofNative entry))
  | .setMember kind name value => w.onSharedWith name.decode (.setMember kind · value)
  | .newObject kind payload => w.onShared (.newObject kind payload)
  | .nil => w.onShared .nil
  | .retain object => w.onShared (.retain object)
  | .release object => w.onShared (.release object)
  | .lookup object name => w.onSharedWith name.decode (.lookup object)
  | .apply callee args =>
    match args.decode with
    | .error e => w.fatal e.message
    | .ok args => (w.emit (.foreignCall "obj_apply" args.length)).onShared (.apply callee args)
  | .methodCall object name args =>
    match name.decode with
    | .error e => w.fatal e.message
    | .ok name =>
      match args.decode with
      | .error e => w.fatal e.message
      | .ok args =>
        (w.emit (.foreignCall "obj_method_call" args.length)).onShared
          (.methodCall object name args)
  | .createFunction none => w.fatal (Failure.nullObject "create_native_function").message
  | .createFunction (some code) => (w, .next (.service (.createFunction code)) .orFatal)
  | .count none => (w, .done (.ok (.count 0)))
  | .count (some r) => w.inspect r fun cell => .count cell.count
  | .kind none => (w, .done (.ok (.kind 0)))
  | .kind (some r) => w.inspect r fun cell => .kind cell.kind
  | .panic none => w.fatal "(no message)"
  | .panic (some message) => w.fatal (Text.terminated message)
  | .startUp =>
    match w.sharedRuntime with
    | (w, .ok _) => ((w.startLogging w.settings.log).emit .initialized, .done (.ok .unit))
    | (w, .error e) => w.fatal e.message
  | .cleanup => ((w.emit .shutdown).stopLogging, .done (.ok .unit))

/-! ## How calls go on -/

theorem onShared_cases (w : World κ) (op : Operation κ) :
    (∃ i, w.sharedRuntime.2 = .ok i ∧
        w.onShared op = (w.sharedRuntime.1, .next (.on i op) .orFatal)) ∨
      ∃ e, w.sharedRuntime.2 = .error e ∧ w.onShared op = w.sharedRuntime.1.fatal e.message := by
  unfold onShared
  rcases w.sharedRuntime with ⟨w', e | i⟩
  · exact .inr ⟨e, rfl, rfl⟩
  · exact .inl ⟨i, rfl, rfl⟩

end World

end ObjectRuntime
