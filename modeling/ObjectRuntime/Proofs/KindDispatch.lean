import ObjectRuntime.Proofs.Alone
import ObjectRuntime.Proofs.History.Change
import ObjectRuntime.Proofs.Resolution
/-!
# Dispatch by kind

Of an object, dispatch looks at nothing but its kind.  Of a registry, an application looks at
nothing but the apply slots and the call members of the kinds along its chain; what else those
kinds say, and all that other kinds say, makes no difference (`Registry.AgreeAlong`).  The kinds
along a chain are themselves found by what the registry says, so that two registries are shown to
agree further along hop by hop.
-/

namespace ObjectRuntime

variable {κ σ φ : Type}

/-! ## Two objects of one kind -/

/-- The same for another receiver. -/
def Turn.withReceiver (receiver : Ref) : Turn κ → Turn κ
  | .enter run => .enter { run with receiver }
  | turn => turn

/-- Two applications that a direct slot takes, of objects that look like this: they start the same
code, each with its own receiver and the arguments as they are.  The stock routine starts the code
that its receiver wraps. -/
structure World.StartsAlike (w : World κ) (i : RuntimeId) (target : Callable κ) (a b : Ref)
    (ca cb : Cell κ) (args : List Pointer) : Prop where
  handed : ∀ run, w.start i target a args = .enter run → run.receiver = a ∧ run.args = args
  same : target ≠ .native .stock →
    w.start i target b args = (w.start i target a args).withReceiver b
  stock : target = .native .stock → ∀ code,
    (ca.body = .code code → w.start i target a args = enterNative code a args) ∧
      (cb.body = .code code → w.start i target b args = enterNative code b args)

section Kind

variable {w : World κ} {heap : Heap κ} {g : Registry κ} {a b : Ref} {ca cb : Cell κ}

/-- A kind without a direct slot puts the same call member in the place of both objects, or makes
both fail. -/
theorem resolve_of_kind_eq (ha : heap.live? a = some ca) (hb : heap.live? b = some cb)
    (hkind : cb.kind = ca.kind) (hdirect : ∀ target, g.apply ca.kind ≠ .ok (.direct target))
    (budget hops : Nat) : resolve heap g budget b hops = resolve heap g budget a hops := by
  rw [resolve, resolve, ha, hb]
  dsimp only
  rw [hkind]
  cases hhop : g.hop ca.kind with
  | land target => exact absurd (Registry.apply_of_hop hhop) (hdirect target)
  | fail e => rfl
  | via next => rfl

namespace World

theorem lookup_of_kind_eq (ha : w.heap.live? a = some ca) (hb : w.heap.live? b = some cb)
    (hkind : cb.kind = ca.kind) (g : Registry κ) (name : String) :
    w.lookup g b name = w.lookup g a name := by
  simp only [lookup, ha, hb, Option.bind_some, hkind]

theorem apply_of_kind_eq {i : RuntimeId} {rt : Runtime κ} (ha : w.heap.live? a = some ca)
    (hb : w.heap.live? b = some cb) (hkind : cb.kind = ca.kind)
    (hdirect : ∀ target, rt.registry.apply ca.kind ≠ .ok (.direct target)) (args : List Pointer) :
    w.apply i rt (some b) args = w.apply i rt (some a) args := by
  simp only [apply, resolve_of_kind_eq ha hb hkind hdirect]

theorem apply_of_slot {i : RuntimeId} {rt : Runtime κ} (ha : w.heap.live? a = some ca)
    {target : Callable κ} (htarget : rt.registry.apply ca.kind = .ok (.direct target))
    (args : List Pointer) : w.apply i rt (some a) args =
      (w.emit (.apply ca.kind args.length 0),
        (w.emit (.apply ca.kind args.length 0)).start i target a args) := by
  have hland : resolve w.heap rt.registry rt.hopBudget a 0 = .land a ca.kind target 0 := by
    rw [resolve, ha]
    dsimp only
    rw [Registry.hop_eq_land_iff.2 htarget]
  simp only [apply, hland]

theorem enterNative_handed {code : κ} {receiver : Ref} {args : List Pointer} {run : Invocation κ}
    (h : enterNative code receiver args = .enter run) :
    run.receiver = receiver ∧ run.args = args := by
  unfold enterNative at h
  split at h
  · cases h
    exact ⟨rfl, rfl⟩
  · cases h

theorem start_stock {i : RuntimeId} {code : κ} (ha : w.heap.live? a = some ca)
    (hcode : ca.body = .code code) (args : List Pointer) :
    w.start i (.native .stock) a args = enterNative code a args := by
  obtain ⟨kind, body, count, released⟩ := ca
  cases hcode
  simp only [start, ha]

theorem startsAlike (ha : w.heap.live? a = some ca) (hb : w.heap.live? b = some cb)
    (i : RuntimeId) (target : Callable κ) (args : List Pointer) :
    w.StartsAlike i target a b ca cb args where
  handed run hrun := by
    unfold start at hrun
    split at hrun
    · cases hrun
      exact ⟨rfl, rfl⟩
    · exact enterNative_handed hrun
    · split at hrun
      · exact enterNative_handed hrun
      · cases hrun
  same htarget := by
    cases target with
    | closure code => rfl
    | native entry =>
      cases entry with
      | stock => exact absurd rfl htarget
      | host code =>
        simp only [start, enterNative]
        split <;> rfl
  stock htarget code := by
    subst htarget
    exact ⟨fun hcode => start_stock ha hcode args, fun hcode => start_stock hb hcode args⟩

end World

end Kind

/-! ## Two registries -/

/-- Two registries that say the same about the application of objects of this kind: whether the kind
is registered, and if it is, its apply slot and its call member. -/
structure Registry.SameCalls (g g' : Registry κ) (kind : KindId) : Prop where
  apply : g'.apply kind = g.apply kind
  call : g'.member kind callMember = g.member kind callMember

/-- Two registries that say the same about all kinds along the chain from `r`, which is found by
what the first one says. -/
def Registry.AgreeAlong (heap : Heap κ) (g g' : Registry κ) (r : Ref) : Prop :=
  ∀ hops kind, Chain.kind? heap g r hops = some kind → g.SameCalls g' kind

theorem Registry.SameCalls.hop {g g' : Registry κ} {kind : KindId} (h : g.SameCalls g' kind) :
    g'.hop kind = g.hop kind := by
  have happly := h.apply
  have hcall := h.call
  unfold Registry.apply at happly
  unfold member at hcall
  unfold Registry.hop
  cases hd : g.find kind with
  | error e =>
    rw [hd] at happly hcall
    cases hd' : g'.find kind with
    | error e' =>
      rw [hd'] at hcall
      cases hcall
      rfl
    | ok d' =>
      rw [hd'] at happly
      cases happly
  | ok d =>
    rw [hd] at happly hcall
    cases hd' : g'.find kind with
    | error e' =>
      rw [hd'] at happly
      cases happly
    | ok d' =>
      rw [hd'] at happly hcall
      have hslot : d'.apply = d.apply := Except.ok.inj happly
      have hmember : d'.members.get? callMember = d.members.get? callMember := by
        dsimp only at hcall
        cases hm : d.members.get? callMember <;> cases hm' : d'.members.get? callMember <;>
          simp_all
      dsimp only
      rw [hslot, hmember]

namespace Registry.AgreeAlong

variable {heap : Heap κ} {g g' : Registry κ} {r next : Ref} {c : Cell κ}

theorem head (h : AgreeAlong heap g g' r) (hc : heap.live? r = some c) : g.SameCalls g' c.kind :=
  h 0 c.kind (by simp [Chain.kind?, Chain.object?, hc])

theorem tail (h : AgreeAlong heap g g' r) (hc : heap.live? r = some c)
    (hnext : g.standIn? c.kind = some next) : AgreeAlong heap g g' next := by
  intro hops kind hkind
  refine h (hops + 1) kind ?_
  rwa [Chain.kind?, Chain.object?_of_standIn? hc hnext]

/-- **Registries that agree along a chain (`Registry.AgreeAlong`) resolve it in the same way.** -/
theorem resolve (h : AgreeAlong heap g g' r) (budget hops : Nat) :
    resolve heap g' budget r hops = resolve heap g budget r hops := by
  induction budget generalizing r hops with
  | zero =>
    rw [ObjectRuntime.resolve, ObjectRuntime.resolve]
    cases hc : heap.live? r with
    | none => rfl
    | some c =>
      dsimp only
      rw [(h.head hc).hop]
  | succ budget ih =>
    rw [ObjectRuntime.resolve, ObjectRuntime.resolve]
    cases hc : heap.live? r with
    | none => rfl
    | some c =>
      dsimp only
      rw [(h.head hc).hop]
      cases hhop : g.hop c.kind with
      | land target => rfl
      | fail e => rfl
      | via next => exact ih (h.tail hc (Registry.hop_eq_via_iff.1 hhop)) (hops + 1)

theorem object? (h : AgreeAlong heap g g' r) (n : Nat) :
    Chain.object? heap g' r n = Chain.object? heap g r n := by
  induction n with
  | zero => rfl
  | succ n ih =>
    have hkind : Chain.kind? heap g' r n = Chain.kind? heap g r n := by
      rw [Chain.kind?, Chain.kind?, ih]
    rw [Chain.object?_succ, Chain.object?_succ, hkind]
    cases hk : Chain.kind? heap g r n with
    | none => rfl
    | some kind =>
      refine Option.ext fun next => ?_
      rw [Option.bind_some, Option.bind_some, ← Registry.hop_eq_via_iff,
        ← Registry.hop_eq_via_iff, (h n kind hk).hop]

/-- Without a cap the budgets can differ, but both are enough for a chain that ends. -/
theorem resolve_hopBudget (h : AgreeAlong heap g g' r) (cap : DepthCap) :
    ObjectRuntime.resolve heap g' (Runtime.hopBudget ⟨g', cap⟩) r 0 =
      ObjectRuntime.resolve heap g (Runtime.hopBudget ⟨g, cap⟩) r 0 := by
  cases cap with
  | some n => exact h.resolve n.toNat 0
  | none =>
    show ObjectRuntime.resolve heap g' g'.size r 0 = ObjectRuntime.resolve heap g g.size r 0
    rcases Chain.ends_or_endless heap g r with ⟨n, o, hends⟩ | hall
    · have hends' : Chain.Ends heap g' r n o :=
        ⟨(h.object? n).trans hends.reached, (h.object? (n + 1)).trans hends.stops⟩
      rw [h.resolve, resolve_of_ends hends hends'.le_size, resolve_of_ends hends hends.le_size]
    · rw [h.resolve, resolve_of_isSome (hall _), resolve_of_isSome (hall _)]

theorem apply {w : World κ} (h : AgreeAlong w.heap g g' r) (i : RuntimeId) (cap : DepthCap)
    (args : List Pointer) :
    w.apply i ⟨g', cap⟩ (some r) args = w.apply i ⟨g, cap⟩ (some r) args := by
  simp only [World.apply, h.resolve_hopBudget cap, Runtime.exhausted]

end Registry.AgreeAlong

/-! ## Runs -/

namespace Moment

/-- **Dispatch depends on the kind alone.**  For two objects of one kind in use, whatever else they
are, every name is looked up in the same way.  If their kind has no direct slot they are applied in
the same way, and the runs are the same from the first step on.  If it has one, the applications are
told in the same way and start the same code, each with its own receiver.  Another registry that
says the same about the kinds along the chain from such an object, under the same cap, resolves its
application to the same object and slot or to the same error. -/
theorem dispatch_by_kind (host : Host κ σ φ) (w : World κ) (i : RuntimeId) (rt : Runtime κ)
    (hrt : w.runtimes[i]? = some rt) (a b : Ref) (ca cb : Cell κ)
    (ha : w.heap.live? a = some ca) (hb : w.heap.live? b = some cb) (hkind : cb.kind = ca.kind) :
    (∀ name, w.perform (.on i (.lookup (some b) name)) =
        w.perform (.on i (.lookup (some a) name))) ∧
      ((∀ target, rt.registry.apply ca.kind ≠ .ok (.direct target)) → ∀ args,
        w.perform (.on i (.apply (some b) args)) = w.perform (.on i (.apply (some a) args)) ∧
        ∀ s n, (alone w s (.on i (.apply (some b) args))).run host (n + 1) =
            (alone w s (.on i (.apply (some a) args))).run host (n + 1) ∧
          (alone w s (.on i (.apply (some b) args))).trace host observation n =
            (alone w s (.on i (.apply (some a) args))).trace host observation n) ∧
      (∀ target, rt.registry.apply ca.kind = .ok (.direct target) → ∀ args,
        let u := w.emit (.apply ca.kind args.length 0)
        w.perform (.on i (.apply (some a) args)) = (u, u.start i target a args) ∧
          w.perform (.on i (.apply (some b) args)) = (u, u.start i target b args) ∧
          u.StartsAlike i target a b ca cb args) ∧
      ∀ g', Registry.AgreeAlong w.heap rt.registry g' a →
        resolve w.heap g' (Runtime.hopBudget ⟨g', rt.cap⟩) a 0 =
            resolve w.heap rt.registry rt.hopBudget a 0 ∧
          ∀ args, w.apply i ⟨g', rt.cap⟩ (some a) args = w.apply i rt (some a) args := by
  have hperform := World.perform_on hrt
  refine ⟨fun name => ?_, fun hdirect args => ?_, fun target htarget args => ⟨?_, ?_, ?_⟩,
    fun g' hagree => ⟨hagree.resolve_hopBudget rt.cap, hagree.apply i rt.cap⟩⟩
  · rw [hperform, hperform]
    simp only [World.operate, World.lookup_of_kind_eq ha hb hkind]
  · have hsame : w.perform (.on i (.apply (some b) args)) =
        w.perform (.on i (.apply (some a) args)) := by
      rw [hperform, hperform]
      exact World.apply_of_kind_eq ha hb hkind hdirect args
    exact ⟨hsame, fun s n => run_of_perform_eq hsame s n⟩
  · rw [hperform]
    exact World.apply_of_slot ha htarget args
  · rw [hperform, ← hkind]
    exact World.apply_of_slot hb (hkind ▸ htarget) args
  · exact World.startsAlike (w := w.emit _) ha hb i target args

/-- What a registry says that leaves kind 10 to an object of kind 11, with more changes. -/
def forwarding (more : List (Change Unit)) : Registry Unit :=
  (Registry.builtin.makeAll ([.register 10, .register 11, .setApply 11 (.direct (.closure ())),
    .setMember 10 callMember (.object 2)] ++ more)).1

/-- Two objects of kind 10 with little in common, and the one that takes their place. -/
def siblings : World Unit where
  heap := {
    objects := #[{ kind := 10, body := .payload #[] },
      { kind := 10, body := .payload #[1, 2], count := 5 }, { kind := 11, body := .payload #[] }] }
  runtimes := #[{ registry := forwarding [], cap := none }]

theorem agreeAlong_forwarding : Registry.AgreeAlong siblings.heap (forwarding [])
    (forwarding [.register 12, .setDestructor 10 (.native .stock),
      .setMember 11 "next" (.object 1)]) (.object 0) := by
  have hfirst : Chain.kind? siblings.heap (forwarding []) (.object 0) 0 = some 10 := rfl
  have hsecond : Chain.kind? siblings.heap (forwarding []) (.object 0) 1 = some 11 := rfl
  have hover : Chain.object? siblings.heap (forwarding []) (.object 0) 2 = none := rfl
  intro hops kind hkind
  match hops with
  | 0 =>
    cases hfirst.symm.trans hkind
    exact ⟨rfl, rfl⟩
  | 1 =>
    cases hsecond.symm.trans hkind
    exact ⟨rfl, rfl⟩
  | hops + 2 =>
    cases ho : Chain.object? siblings.heap (forwarding []) (.object 0) (hops + 2) with
    | none => simp [Chain.kind?, ho] at hkind
    | some o =>
      have hsome := Chain.isSome_of_le (by rw [ho]; rfl) (Nat.le_add_left 2 hops)
      rw [hover] at hsome
      cases hsome

theorem dispatch_by_kind_siblings :
    siblings.perform (.on 0 (.lookup (some (.object 1)) callMember)) =
        siblings.perform (.on 0 (.lookup (some (.object 0)) callMember)) ∧
      siblings.perform (.on 0 (.apply (some (.object 1)) [])) =
        siblings.perform (.on 0 (.apply (some (.object 0)) [])) ∧
      siblings.apply 0 ⟨forwarding [.register 12, .setDestructor 10 (.native .stock),
          .setMember 11 "next" (.object 1)], none⟩ (some (.object 0)) [] =
        siblings.apply 0 ⟨forwarding [], none⟩ (some (.object 0)) [] := by
  let host : Host Unit Unit _ := Procedure.toHost fun _ => .done (.ok none)
  obtain ⟨hlookup, happly, -, hagree⟩ := dispatch_by_kind host siblings 0 ⟨forwarding [], none⟩ rfl
    (.object 0) (.object 1) _ _ rfl rfl rfl
  have hindirect : (forwarding []).apply 10 = .ok .viaCallMember := rfl
  refine ⟨hlookup callMember, (happly (fun target h => ?_) []).1,
    (hagree _ agreeAlong_forwarding).2 []⟩
  cases hindirect.symm.trans h

end Moment

end ObjectRuntime
