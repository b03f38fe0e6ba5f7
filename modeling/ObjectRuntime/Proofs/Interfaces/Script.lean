import ObjectRuntime.Foreign
import ObjectRuntime.Proofs.Interfaces.Twin
import ObjectRuntime.Proofs.Run
/-!
# Scripts for both interfaces

The calls of the C interface that a runtime has as operations of its own, what they are there
(`ForeignCall.direct?`), and how a call finds its way to the operation: the runtime behind the C
interface is started by the first call that needs it (`Unborn`), and from then on the two worlds
are twins.
-/

namespace ObjectRuntime

variable {κ σ φ : Type}

/-- What a call asks for on a runtime of one's own, if a runtime has such an operation and the name
and the arguments can be read. -/
def ForeignCall.direct? (i : RuntimeId) : ForeignCall κ → Option (Request κ)
  | .register k => some (.on i (.register k))
  | .setDestructor k entry => some (.on i (.setDestructor k (.ofNative entry)))
  | .setApply k entry => some (.on i (.setApply k (.ofNative entry)))
  | .setMember k name value =>
    name.decode.toOption.map fun name => .on i (.setMember k name value)
  | .newObject k payload => some (.on i (.newObject k payload))
  | .nil => some (.on i .nil)
  | .retain object => some (.on i (.retain object))
  | .release object => some (.on i (.release object))
  | .lookup object name => name.decode.toOption.map fun name => .on i (.lookup object name)
  | .apply callee args => args.decode.toOption.map fun args => .on i (.apply callee args)
  | .methodCall object name args =>
    name.decode.toOption.bind fun name =>
      args.decode.toOption.map fun args => .on i (.methodCall object name args)
  | .createFunction (some code) => some (.service (.createFunction code))
  | .createFunction none | .count _ | .kind _ | .panic _ | .startUp | .cleanup => none

/-- A move that asks a runtime instead of the C interface. -/
def Move.direct (i : RuntimeId) : Move κ φ → Move κ φ
  | .ask (.foreign call) frame => .ask ((call.direct? i).getD (.foreign call)) frame
  | move => move

/-- A move that ends, or makes a call that a runtime has as an operation and waits in a frame from
which the code goes on in the same way. -/
def Move.IsScript (Fit : φ → Prop) : Move κ φ → Prop
  | .ask (.foreign call) frame => (call.direct? 0).isSome = true ∧ Fit frame
  | .ask _ _ => False
  | .finish _ => True

namespace Host

/-- The same code, asking a runtime instead of the C interface. -/
def direct (host : Host κ σ φ) (i : RuntimeId) : Host κ σ φ where
  enter run s := ((host.enter run s).1, (host.enter run s).2.direct i)
  resume frame reply s := ((host.resume frame reply s).1, (host.resume frame reply s).2.direct i)

/-- All code of the host makes only calls that a runtime has as operations; `Fit` says in which
frames it waits. -/
structure IsScript (host : Host κ σ φ) (Fit : φ → Prop) : Prop where
  enter : ∀ run s, (host.enter run s).2.IsScript Fit
  resume : ∀ frame reply s, Fit frame → (host.resume frame reply s).2.IsScript Fit

end Host

namespace World

/-! ## The runtime behind the C interface -/

theorem startRuntime_snd (w : World κ) (cap : DepthCap) : (w.startRuntime cap).2 =
    if w.allocator.installed.serves (w.allocator.trafficOf w.allocator.installed.name).requests
      (UInt64.ofNat headerSize) then .ok w.runtimes.size
    else .error (.allocationFailed (UInt64.ofNat headerSize)) := by
  have hsnd := w.allocator.allocate_snd (UInt64.ofNat headerSize)
  rcases ha : w.allocator.allocate (UInt64.ofNat headerSize) with ⟨allocator, _ | _⟩ <;>
    rw [ha] at hsnd <;> rw [← hsnd] <;> simp [startRuntime, allocate, emit, ha]

@[simp] theorem installed_startRuntime (w : World κ) (cap : DepthCap) :
    (w.startRuntime cap).1.allocator.installed = w.allocator.installed := by
  have h := w.allocator.installed_allocate (UInt64.ofNat headerSize)
  rcases ha : w.allocator.allocate (UInt64.ofNat headerSize) with ⟨allocator, _ | _⟩ <;>
    rw [ha] at h <;> simpa [startRuntime, allocate, emit, ha] using h

/-- Two worlds with the same objects, of which the first has a runtime, and the second is about to
start one like it when it is needed. -/
structure Unborn (w v : World κ) : Prop where
  heap : w.heap = v.heap.addNil { kind := nilKind, body := .nothing }
  nils : v.heap.nils = #[]
  runtimes : w.runtimes = #[{ registry := .builtin, cap := v.settings.maxCallDepth }]
  none : v.runtimes = #[]
  installed : v.allocator.installed = w.allocator.installed
  memoryless : w.allocator.installed.Memoryless
  served : ∀ n, w.allocator.installed.serves n (UInt64.ofNat headerSize) = true
  shared : v.shared = .none

theorem Fresh.unborn {v : World κ} (hv : v.Fresh) (hpair : v.allocator.installed.Memoryless)
    {i : RuntimeId} (hi : (v.startRuntime v.settings.maxCallDepth).2 = .ok i) :
    (v.startRuntime v.settings.maxCallDepth).1.Unborn v := by
  have hserved : v.allocator.installed.serves
      (v.allocator.trafficOf v.allocator.installed.name).requests (UInt64.ofNat headerSize) =
        true := by
    rw [startRuntime_snd] at hi
    split at hi
    · assumption
    · cases hi
  rcases v.startRuntime_cases v.settings.maxCallDepth with ⟨e, he, -⟩ | ⟨-, hheap, hruntimes⟩
  · rw [he] at hi
    cases hi
  · refine ⟨hheap, by rw [hv.heap]; rfl, by rw [hruntimes, hv.runtimes]; rfl, hv.runtimes, ?_, ?_,
      fun n => ?_, hv.shared⟩
    · rw [installed_startRuntime]
    · rwa [installed_startRuntime]
    · rw [installed_startRuntime, ← hserved]
      exact hpair _ _ _

theorem shared_of_sharedRuntime {w : World κ} {i : RuntimeId} (h : w.sharedRuntime.2 = .ok i) :
    w.sharedRuntime.1.shared = some i := by
  unfold sharedRuntime at h ⊢
  cases hs : w.shared with
  | some j =>
    simp only [hs] at h ⊢
    exact congrArg some (Except.ok.inj h)
  | none =>
    simp only [hs] at h ⊢
    rcases hstart : w.startRuntime w.settings.maxCallDepth with ⟨w', e | j⟩
    · rw [hstart] at h
      cases h
    · rw [hstart] at h
      exact congrArg some (Except.ok.inj h)

@[simp] theorem installed_sharedRuntime (w : World κ) :
    w.sharedRuntime.1.allocator.installed = w.allocator.installed := by
  have h := w.installed_startRuntime w.settings.maxCallDepth
  unfold sharedRuntime
  split
  · rfl
  · split <;> simp_all

/-- The runtime is there when it is needed, and the worlds are a `Twin` from then on. -/
theorem sharedRuntime_twin {w v : World κ} (h : w.Twin v ∨ w.Unborn v) :
    ∃ v', v.sharedRuntime = (v', .ok 0) ∧ w.Twin v' := by
  rcases h with h | h
  · exact ⟨v, by simp [sharedRuntime, h.shared], h⟩
  · have hok : (v.startRuntime v.settings.maxCallDepth).2 = .ok 0 := by
      rw [startRuntime_snd, h.installed, h.served, if_pos rfl, h.none]
      rfl
    rcases v.sharedRuntime_cases with ⟨i, hi, -⟩ | ⟨-, ⟨e, he, -⟩ | ⟨hi, hheap, hruntimes⟩⟩
    · rw [h.shared] at hi
      cases hi
    · unfold sharedRuntime at he
      rw [h.shared] at he
      rcases hstart : v.startRuntime v.settings.maxCallDepth with ⟨v', e' | j⟩
      · rw [hstart] at hok
        cases hok
      · rw [hstart] at he
        cases he
    · have hzero : v.sharedRuntime.2 = .ok 0 := by
        rw [hi, h.none]
        rfl
      refine ⟨v.sharedRuntime.1, Prod.ext rfl hzero, ?_, ?_, ?_, h.memoryless,
        shared_of_sharedRuntime hzero⟩
      · rw [hheap, h.heap]
      · rw [hruntimes, h.none, h.runtimes]
        rfl
      · rw [installed_sharedRuntime, h.installed]

/-! ## Calls -/

theorem Unborn.allocate {w v : World κ} (h : w.Unborn v) (size : UInt64) (a : Address) :
    ∃ w' v' served, w.allocate size a = (w', served) ∧ v.allocate size a = (v', served) ∧
      w'.Unborn v' := by
  have hsnd := allocate_snd_congr h.installed h.memoryless size a a
  have hunborn : (w.allocate size a).1.Unborn (v.allocate size a).1 := by
    have hw := w.installed_allocate size a
    have hv := v.installed_allocate size a
    obtain ⟨_, _, hwf⟩ := w.allocate_frame size a
    obtain ⟨_, _, hvf⟩ := v.allocate_frame size a
    rw [hwf] at hw ⊢
    rw [hvf] at hv ⊢
    exact ⟨h.heap, h.nils, h.runtimes, h.none, hv.trans (h.installed.trans hw.symm),
      hw.symm ▸ h.memoryless, hw.symm ▸ h.served, h.shared⟩
  exact ⟨_, _, _, rfl, Prod.ext rfl hsnd, hunborn⟩

theorem Unborn.createFunction {w v : World κ} (h : w.Unborn v) (code : κ) :
    (w.createFunction code).1.Unborn (v.createFunction code).1 ∧
      (v.createFunction code).2 = (w.createFunction code).2 := by
  have hnext : w.heap.nextObject = v.heap.nextObject := by
    rw [h.heap]
    rfl
  simp only [World.createFunction, hnext]
  obtain ⟨w', v', served, hw, hv, hunborn⟩ := h.allocate (UInt64.ofNat functionSize)
    (.object v.heap.nextObject)
  rw [hw, hv]
  cases served with
  | true =>
    dsimp only
    refine ⟨⟨?_, hunborn.nils, hunborn.runtimes, hunborn.none, hunborn.installed,
      hunborn.memoryless, hunborn.served, hunborn.shared⟩, rfl⟩
    rw [hunborn.heap]
    rfl
  | false => exact ⟨hunborn, rfl⟩

theorem onShared_twin {w v : World κ} (h : w.Twin v ∨ w.Unborn v) (op : Operation κ) :
    ∃ v', v.onShared op = (v', .next (.on 0 op) .orFatal) ∧ w.Twin v' := by
  obtain ⟨v', hv', htwin⟩ := sharedRuntime_twin h
  exact ⟨v', by rw [onShared, hv'], htwin⟩

theorem call_direct {w v : World κ} (h : w.Twin v ∨ w.Unborn v) {call : ForeignCall κ}
    {request : Request κ} (hcall : call.direct? 0 = some request) :
    ∃ v', v.call call = (v', .next request .orFatal) ∧
      ((∃ op, request = .on 0 op ∧ w.Twin v') ∨
        (∃ code, request = .service (.createFunction code)) ∧ v' = v) := by
  have hon : ∀ (u : World κ), w.Twin u ∨ w.Unborn u → ∀ op, ∃ v',
      u.onShared op = (v', .next (.on 0 op) .orFatal) ∧
        ((∃ op', (Request.on 0 op : Request κ) = .on 0 op' ∧ w.Twin v') ∨
          (∃ code, (Request.on 0 op : Request κ) = .service (.createFunction code)) ∧ v' = v) :=
    fun u hu op => by
      obtain ⟨v', hv', htwin⟩ := onShared_twin hu op
      exact ⟨v', hv', .inl ⟨op, rfl, htwin⟩⟩
  have hemit : ∀ e, w.Twin (v.emit e) ∨ w.Unborn (v.emit e) := fun e =>
    h.imp (fun h => ⟨h.heap, h.runtimes, h.installed, h.memoryless, h.shared⟩)
      fun h => ⟨h.heap, h.nils, h.runtimes, h.none, h.installed, h.memoryless, h.served, h.shared⟩
  cases call with
  | register | setDestructor | setApply | newObject | nil | retain | release =>
    cases hcall
    exact hon v h _
  | setMember kind name value | lookup object name =>
    cases hname : name.decode with
    | error e => simp [ForeignCall.direct?, hname, Except.toOption] at hcall
    | ok text =>
      simp only [ForeignCall.direct?, hname, Except.toOption, Option.map_some] at hcall
      cases hcall
      simp only [World.call, onSharedWith, hname]
      exact hon v h _
  | apply callee args =>
    cases hargs : args.decode with
    | error e => simp [ForeignCall.direct?, hargs, Except.toOption] at hcall
    | ok list =>
      simp only [ForeignCall.direct?, hargs, Except.toOption, Option.map_some] at hcall
      cases hcall
      simp only [World.call, hargs]
      exact hon _ (hemit _) _
  | methodCall object name args =>
    cases hname : name.decode with
    | error e => simp [ForeignCall.direct?, hname, Except.toOption] at hcall
    | ok text =>
      cases hargs : args.decode with
      | error e => simp [ForeignCall.direct?, hname, hargs, Except.toOption] at hcall
      | ok list =>
        simp only [ForeignCall.direct?, hname, hargs, Except.toOption, Option.bind_some,
          Option.map_some] at hcall
        cases hcall
        simp only [World.call, hname, hargs]
        exact hon _ (hemit _) _
  | createFunction entry =>
    -- The one call that needs no runtime.
    cases entry with
    | none => cases hcall
    | some code =>
      cases hcall
      exact ⟨v, rfl, .inr ⟨⟨code, rfl⟩, rfl⟩⟩
  | count | kind | panic | startUp | cleanup => cases hcall

end World

end ObjectRuntime
