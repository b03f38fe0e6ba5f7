import ObjectRuntime.Procedure
import ObjectRuntime.Proofs.Application.Functions
import ObjectRuntime.Proofs.Application.Invocation
import ObjectRuntime.Proofs.Resolution.Chain
/-!
# What an application does

An application follows the chain of call members to its end, if the cap allows it, and there does
what the kind of the last object says: it fails, or it is left to host code (`LeavesTo`), with the
last object as the receiver and the arguments as they are.
-/

namespace ObjectRuntime

variable {κ σ φ : Type}

/-- Whether a cap lets a chain go on for so many hops. -/
def DepthCap.Allows (cap : DepthCap) (hops : Nat) : Prop :=
  ∀ n, cap = some n → hops ≤ n.toNat

/-- The run of host code that a direct slot leaves an application to.  The stock routine leaves it
to the code that the receiver wraps, if there is any. -/
def Callable.invocation? (target : Callable κ) (i : RuntimeId) (receiver : Ref) (c : Cell κ)
    (args : List Pointer) : Option (Invocation κ) :=
  match target, c.body with
  | .closure code, _ => some { code, role := .closureApply i, receiver, args }
  | .native (.host code), _ => some { code, role := .nativeApply, receiver, args }
  | .native .stock, .code code => some { code, role := .nativeApply, receiver, args }
  | .native .stock, _ => none

theorem Callable.eq_stock_of_invocation? {target : Callable κ} {i : RuntimeId} {receiver : Ref}
    {c : Cell κ} {args : List Pointer} (h : target.invocation? i receiver c args = none) :
    target = .native .stock ∧ ∀ code, c.body ≠ .code code := by
  unfold invocation? at h
  split at h
  · cases h
  · cases h
  · cases h
  next hbody => exact ⟨rfl, hbody⟩

namespace World

variable {w : World κ} {i : RuntimeId} {rt : Runtime κ} {r o : Ref} {c : Cell κ} {j : Nat}
  {args : List Pointer}

theorem start_eq (hc : w.heap.live? o = some c) (hargs : args.length ≤ maxNativeArgs)
    (target : Callable κ) : w.start i target o args =
      match target.invocation? i o c args with
      | some run => .enter run
      | none => .halt .fault := by
  obtain ⟨kind, body, count, released⟩ := c
  cases target with
  | closure code => rfl
  | native entry =>
    cases entry with
    | host code => exact if_pos hargs
    | stock =>
      rw [start, hc]
      cases body with
      | code code => exact if_pos hargs
      | nothing => rfl
      | payload bytes => rfl

/-! ## At the end of the chain -/

theorem resolve_budget (h : Chain.Ends w.heap rt.registry r j o) (hcap : rt.cap.Allows j) :
    resolve w.heap rt.registry rt.hopBudget r 0 = resolve w.heap rt.registry 0 o j := by
  have hbudget : j ≤ rt.hopBudget := by
    unfold Runtime.hopBudget
    split
    next n hn => exact hcap n hn
    · exact h.le_size
  rw [resolve_of_ends h hbudget, Nat.zero_add]

variable (h : Chain.Ends w.heap rt.registry r j o) (hcap : rt.cap.Allows j)
  (hc : w.heap.live? o = some c)
include h hcap hc

theorem apply_of_unregistered (hd : rt.registry.kinds.get? c.kind = none) :
    w.apply i rt (some r) args = (w, .done (.error (.unregisteredKind c.kind))) := by
  simp only [apply, resolve_budget h hcap, resolve_of_unregistered hc hd]

theorem apply_of_uncallable {d : Kind κ} (hd : rt.registry.kinds.get? c.kind = some d)
    (ha : d.apply = .viaCallMember) :
    w.apply i rt (some r) args = (w, .done (.error (.uncallable c.kind))) := by
  -- The chain would go on if the kind had a call member.
  have hmember : d.members.get? callMember = none := by
    have hnone := h.standIn?_eq_none hc
    simpa [Registry.standIn?, hd, ha, Apply.isDirect] using hnone
  simp only [apply, resolve_budget h hcap, resolve_of_uncallable hc hd ha hmember]

theorem apply_of_direct {d : Kind κ} {target : Callable κ}
    (hd : rt.registry.kinds.get? c.kind = some d) (ha : d.apply = .direct target)
    (hargs : args.length ≤ maxNativeArgs) :
    w.apply i rt (some r) args = (w.emit (.apply c.kind args.length j),
      match target.invocation? i o c args with
      | some run => .enter run
      | none => .halt .fault) := by
  simp only [apply, resolve_budget h hcap, resolve_of_direct hc hd ha]
  exact congrArg _ (start_eq (w := w.emit _) hc hargs target)

omit h hcap hc

/-! ## Where the chain does not end -/

theorem apply_of_exceeded {cap : UInt64} (hcap : rt.cap = some cap)
    (h : ∀ j o, Chain.Ends w.heap rt.registry r j o → cap.toNat < j) :
    w.apply i rt (some r) args = (w, .done (.error (.callDepthExceeded cap))) := by
  have hfar : (Chain.object? w.heap rt.registry r (cap.toNat + 1)).isSome := by
    rcases Chain.ends_or_endless w.heap rt.registry r with ⟨j, o, hends⟩ | hall
    · exact Chain.isSome_of_le hends.isSome (h j o hends)
    · exact hall _
  have hbudget : rt.hopBudget = cap.toNat := by rw [Runtime.hopBudget, hcap]
  simp only [apply, hbudget, resolve_of_isSome hfar, Runtime.exhausted, hcap]

theorem apply_of_endless (hcap : rt.cap = none) (h : Chain.Endless w.heap rt.registry r) :
    w.apply i rt (some r) args = (w, .halt .endless) := by
  simp only [apply, resolve_of_isSome (h (rt.hopBudget + 1)), Runtime.exhausted, hcap]

end World

namespace Moment

/-- **An application does what its chain of call members says.**  It fails for the null pointer.
If the chain ends within the cap, it fails with the kind of the last object where that is not
registered or can not be called, and otherwise it is left to the code of that kind's direct slot,
or to the code that a function object wraps: this is entered once, with the last object as the
receiver and the arguments unchanged, and its answer is the reply.  If the chain goes on for longer
than the cap, the application exceeds the cap, and if there is no cap it never ends. -/
theorem apply_follows_chain (host : Host κ σ φ) (w : World κ) (hw : w.Fresh) (s : σ)
    (first : Move κ φ) (n : Nat)
    (hforge : ∀ k < n, ((start w s first).run host k).control.forgesFunction = false)
    (m : Moment κ σ φ) (hm : (start w s first).run host n = m)
    (i : RuntimeId) (rt : Runtime κ) (hrt : m.world.runtimes[i]? = some rt)
    (callee : Pointer) (args : List Pointer) (hargs : args.length ≤ maxNativeArgs)
    (hcontrol : m.control = .perform (.on i (.apply callee args))) :
    (callee = none →
      m.step host = { m with control := .reply (.error (.nullObject "apply")) }) ∧
    ∀ r, callee = some r →
      (∀ j o c, Chain.Ends m.world.heap rt.registry r j o → rt.cap.Allows j →
        m.world.heap.live? o = some c →
        (rt.registry.kinds.get? c.kind = none →
          m.step host = { m with control := .reply (.error (.unregisteredKind c.kind)) }) ∧
        (∀ d, rt.registry.kinds.get? c.kind = some d → d.apply = .viaCallMember →
          m.step host = { m with control := .reply (.error (.uncallable c.kind)) }) ∧
        ∀ d target, rt.registry.kinds.get? c.kind = some d → d.apply = .direct target →
          (m.step host).world = m.world.emit (.apply c.kind args.length j) ∧
          match target.invocation? i o c args with
          | some run => m.LeavesTo host run
          | none => target = .native .stock ∧ c.kind ≠ functionKind ∧
              (m.step host).control = .ended .fault) ∧
      (∀ cap, rt.cap = some cap →
        (∀ j o, Chain.Ends m.world.heap rt.registry r j o → cap.toNat < j) →
        m.step host = { m with control := .reply (.error (.callDepthExceeded cap)) }) ∧
      (rt.cap = none → Chain.Endless m.world.heap rt.registry r →
        m.step host = { m with control := .ended .endless }) := by
  have hperform : ∀ callee, m.world.perform (.on i (.apply callee args)) =
      m.world.apply i rt callee args := fun callee => by
    simp only [World.perform, hrt]
    rfl
  have hfunctions : m.world.heap.FunctionsWrap := by
    subst hm
    refine Heap.FunctionsWrap.run ?_ n hforge
    rw [world_start, hw.heap]
    intro r c hc
    rw [Heap.cell?_empty] at hc
    cases hc
  refine ⟨?_, ?_⟩
  · rintro rfl
    exact step_of_done hcontrol (hperform none)
  rintro r rfl
  refine ⟨fun j o c hends hallows hc => ⟨fun hd => ?_, fun d hd ha => ?_,
    fun d target hd ha => ?_⟩, fun cap hcap hfar => ?_, fun hcap hall => ?_⟩
  · exact step_of_done hcontrol
      ((hperform _).trans (World.apply_of_unregistered hends hallows hc hd))
  · exact step_of_done hcontrol
      ((hperform _).trans (World.apply_of_uncallable hends hallows hc hd ha))
  · have happly := (hperform _).trans
      (World.apply_of_direct (i := i) hends hallows hc hd ha hargs)
    refine ⟨by rw [step_perform host hcontrol, world_turn, happly], ?_⟩
    cases hrun : target.invocation? i o c args with
    | some run => exact leavesTo_of_enter hcontrol (by rw [happly, hrun])
    | none =>
      obtain ⟨hstock, hbody⟩ := Callable.eq_stock_of_invocation? hrun
      refine ⟨hstock, fun hkind => ?_, ?_⟩
      · obtain ⟨code, hcode⟩ := hfunctions o c (Heap.live?_eq_some_iff.1 hc).1 hkind
        exact hbody code hcode
      · rw [step_perform host hcontrol, happly, hrun]
        rfl
  · exact step_of_done hcontrol ((hperform _).trans (World.apply_of_exceeded hcap hfar))
  · exact step_of_halt hcontrol ((hperform _).trans (World.apply_of_endless hcap hall))

/-- A client that binds a function object as the call member of a kind and applies an object of
that kind to itself. -/
def applyFunction : Procedure Unit Unit Answer :=
  .ask (.service (.startRuntime (some 1))) fun _ =>
  .ask (.on 0 (.register 10)) fun _ =>
  .ask (.on 0 (.newObject 10 0)) fun _ =>
  .ask (.service (.createFunction ())) fun _ =>
  .ask (.on 0 (.setMember 10 callMember (some (.object 1)))) fun _ =>
  .ask (.on 0 (.apply (some (.object 0)) [some (.object 0)])) fun _ =>
  .done (.ok none)

theorem apply_follows_chain_function :
    World.Fresh ({} : World Unit) ∧
      (∀ k < 10, ((start {} () (applyFunction.toMove ()).2).run
        (Procedure.toHost fun _ => .done (.ok none)) k).control.forgesFunction = false) ∧
      ((start {} () (applyFunction.toMove ()).2).run
        (Procedure.toHost fun _ => .done (.ok none)) 10).LeavesTo
          (Procedure.toHost fun _ => .done (.ok none))
        { code := (), role := .nativeApply, receiver := .object 1,
          args := [some (.object 0)] } := by
  have hw : World.Fresh ({} : World Unit) := ⟨rfl, rfl, rfl, rfl⟩
  have hforge : ∀ k < 10, ((start {} () (applyFunction.toMove ()).2).run
      (Procedure.toHost fun _ => .done (.ok none)) k).control.forgesFunction = false := by decide
  have happly := (apply_follows_chain _ {} hw () _ 10 hforge _ rfl 0 _ rfl (some (.object 0))
    [some (.object 0)] (by decide) rfl).2 _ rfl
  have hallows : DepthCap.Allows (some 1) 1 := fun n hn => by
    cases hn
    decide
  exact ⟨hw, hforge, ((happly.1 1 (.object 1) _ ⟨rfl, rfl⟩ hallows rfl).2.2 _ _ rfl rfl).2⟩

end Moment

end ObjectRuntime
