import ObjectRuntime.Dispatch
import ObjectRuntime.Lifetime
/-!
# Operations of a runtime

What each operation (`operate`) and each question (`Runtime.answer`) of a runtime does.  A failed
one leaves the world as it was, except that a release counts even when it fails.
-/

namespace ObjectRuntime

variable {κ : Type}

namespace World

/-- Goes on with a world if there is one; otherwise storage that was given back was touched. -/
def orFault (w : World κ) (next : Option (World κ × Turn κ)) : World κ × Turn κ :=
  next.getD (w, .halt .fault)

/-- Replaces the registry of a runtime and reports it, unless the change failed. -/
def writeRegistry (w : World κ) (i : RuntimeId) (e : Event κ)
    (change : Except Failure (Registry κ)) : World κ × Turn κ :=
  match change with
  | .ok registry => ((w.setRegistry i registry).emit e, .done (.ok .unit))
  | .error e => (w, .done (.error e))

/-- Reports the previous occupant of a name that was bound again, if there is one. -/
def reportOverwrite (w : World κ) (kind : KindId) (name : String) : Option Ref → World κ
  | some old => w.emit (.memberOverwrite kind name old)
  | none => w

/-- Binds a member, which the table takes a reference to. -/
def setMember (w : World κ) (i : RuntimeId) (registry : Registry κ) (kind : KindId)
    (name : String) (value : Pointer) : World κ × Turn κ :=
  match value with
  | none => (w, .done (.error (.nullObject "set_member")))
  | some r =>
    match registry.setMember kind name r with
    | .error e => (w, .done (.error e))
    | .ok (registry, replaced) =>
      let w := (w.setRegistry i registry).reportOverwrite kind name replaced
      w.orFault ((w.retain r).map (·, .done (.ok .unit)))

def objectReply : Except Failure Ref → Turn κ
  | .ok r => .done (.ok (.object (some r)))
  | .error e => .done (.error e)

/-- Performs an operation of runtime `i`, whose state is `rt`. -/
def operate (w : World κ) (i : RuntimeId) (rt : Runtime κ) : Operation κ → World κ × Turn κ
  | .register kind => w.writeRegistry i (.kindRegistered kind) (rt.registry.register kind)
  | .setDestructor kind slot =>
    w.writeRegistry i (.destructorAttached kind slot) (rt.registry.setDestructor kind slot)
  | .setApply kind slot =>
    w.writeRegistry i (.applyAttached kind slot) (rt.registry.setApply kind slot)
  | .setMember kind name value => w.setMember i rt.registry kind name value
  | .newObject kind payload =>
    if rt.registry.contains kind then
      let (w, object) := w.createObject kind payload
      (w, objectReply object)
    else (w, .done (.error (.unregisteredKind kind)))
  | .nil => w.orFault ((w.retain (.nil i)).map (·, .done (.ok (.object (some (.nil i))))))
  | .retain none => (w, .done (.ok .unit))
  | .retain (some r) => w.orFault ((w.retain r).map (·, .done (.ok .unit)))
  | .release none => (w, .done (.ok .unit))
  | .release (some r) => w.release i rt.registry r
  | .lookup none _ => (w, .done (.error (.nullObject "lookup")))
  | .lookup (some r) name =>
    w.orFault ((w.lookup rt.registry r name).map fun (w, member) => (w, objectReply member))
  | .apply callee args => w.apply i rt callee args
  | .methodCall object name args => w.methodCall i rt.registry object name args

/-! ## How operations go on -/

@[simp] theorem heap_reportOverwrite (w : World κ) (kind : KindId) (name : String)
    (replaced : Option Ref) : (w.reportOverwrite kind name replaced).heap = w.heap := by
  cases replaced <;> rfl

@[simp] theorem runtimes_reportOverwrite (w : World κ) (kind : KindId) (name : String)
    (replaced : Option Ref) : (w.reportOverwrite kind name replaced).runtimes = w.runtimes := by
  cases replaced <;> rfl

@[simp] theorem heap_writeRegistry (w : World κ) (i : RuntimeId) (e : Event κ)
    (change : Except Failure (Registry κ)) : (w.writeRegistry i e change).1.heap = w.heap := by
  unfold writeRegistry
  split <;> rfl

theorem setMember_cases (w : World κ) (i : RuntimeId) (g : Registry κ) (kind : KindId)
    (name : String) (value : Pointer) :
    (∃ e, w.setMember i g kind name value = (w, .done (.error e))) ∨
      ∃ r g' replaced w', value = some r ∧ g.setMember kind name r = .ok (g', replaced) ∧
        w' = (w.setRegistry i g').reportOverwrite kind name replaced ∧
        (w'.retain r = none ∧ w.setMember i g kind name value = (w', .halt .fault) ∨
          ∃ w'', w'.retain r = some w'' ∧
            w.setMember i g kind name value = (w'', .done (.ok .unit))) := by
  unfold setMember
  cases value with
  | none => exact .inl ⟨_, rfl⟩
  | some r =>
    cases hg : g.setMember kind name r with
    | error e => exact .inl ⟨e, by simp [hg]⟩
    | ok result =>
      refine .inr ⟨r, result.1, result.2, _, rfl, hg, rfl, ?_⟩
      cases hr : ((w.setRegistry i result.1).reportOverwrite kind name result.2).retain r with
      | none => exact .inl ⟨rfl, by simp [hg, hr, orFault]⟩
      | some w'' => exact .inr ⟨w'', rfl, by simp [hg, hr, orFault]⟩

/-- Only a method call leaves something to be done: the method is applied, and then released. -/
theorem operate_next {w : World κ} {i : RuntimeId} {rt : Runtime κ} {op : Operation κ}
    {request : Request κ} {p : Pending κ} (h : (w.operate i rt op).2 = .next request p) :
    ∃ object name args method, op = .methodCall object name args ∧
      request = .on i (.apply (some method) args) ∧ p = .releaseMethod i method := by
  have hwrite : ∀ e change, (w.writeRegistry i e change).2 ≠ .next request p := fun e change => by
    cases change <;> simp [writeRegistry]
  cases op with
  | register | setDestructor | setApply => exact absurd h (hwrite _ _)
  | setMember kind name value =>
    rcases w.setMember_cases i rt.registry kind name value with ⟨e, he⟩ |
      ⟨r, g', replaced, w', -, -, -, ⟨-, hw⟩ | ⟨w'', -, hw⟩⟩ <;> simp_all [operate]
  | newObject kind payload =>
    simp only [operate] at h
    split at h
    · generalize (w.createObject kind payload).2 = result at h
      cases result <;> cases h
    · cases h
  | nil =>
    simp only [operate, orFault] at h
    cases hr : w.retain (.nil i) <;> simp [hr] at h
  | retain object =>
    cases object with
    | none => cases h
    | some r =>
      simp only [operate, orFault] at h
      cases hr : w.retain r <;> simp [hr] at h
  | release object =>
    cases object with
    | none => cases h
    | some r =>
      cases hc : w.heap.live? r with
      | none => simp [operate, release, hc] at h
      | some c =>
        rcases w.release_cases i rt.registry r hc with ⟨⟨reply, hw⟩, -⟩ | ⟨run, hw, -⟩ <;>
          simp [operate, hw] at h
  | lookup object name =>
    cases object with
    | none => cases h
    | some r =>
      simp only [operate, orFault] at h
      rcases hl : w.lookup rt.registry r name with _ | ⟨w', _ | _⟩ <;> simp [hl, objectReply] at h
  | apply callee args => exact absurd h ((w.apply_frame i rt callee args).2.1 request p)
  | methodCall object name args =>
    rcases w.methodCall_cases i rt.registry object name args with hw | ⟨e, hw⟩ |
      ⟨r, c, method, w', -, -, -, -, hw⟩
    · simp [operate, hw] at h
    · simp [operate, hw] at h
    · simp only [operate, hw] at h
      cases h
      exact ⟨object, name, args, method, rfl, rfl, rfl⟩

end World

def Runtime.answer (rt : Runtime κ) : Query → Reply κ
  | .contains kind => .ok (.flag (rt.registry.contains kind))
  | .size => .ok (.size rt.registry.size)
  | .isEmpty => .ok (.flag (rt.registry.size == 0))
  | .memberNames kind => (rt.registry.memberNames kind).map .names
  | .member kind name => (rt.registry.member kind name).map fun r => .object (some r)
  | .destructor kind => (rt.registry.destructor kind).map .destructor
  | .apply kind => (rt.registry.apply kind).map .apply
  | .cap => .ok (.cap rt.cap)

end ObjectRuntime
