import ObjectRuntime.Proofs.Ledger.Discipline
import ObjectRuntime.Proofs.Ledger.Methods
import ObjectRuntime.Proofs.Ledger.Record
/-!
# What is bound stays in use

As long as clients keep to the discipline, whatever was ever bound as a member, and every nil, is
in use with a count of at least 1: the tables, the clients and the method calls in flight never
give back the references that the tables took.  `Moment.Custody` is the invariant, and the ledger
says that it is kept: it always leaves a reference for what it binds (`Ledger.Covers`).
-/

namespace ObjectRuntime

variable {κ σ φ : Type}

/-! ## The world -/

/-- A world in which nothing that a ledger binds was given back, and no nil. -/
structure Ledger.Guards (l : Ledger) (w : World κ) : Prop where
  balance : l.Balances w.heap
  released : ∀ r c, w.heap.cell? r = some c → c.released = true →
    l.bound r = 0 ∧ ∀ i, r ≠ .nil i
  recorded : ∀ r, 0 < l.bound r → ∃ c, w.heap.cell? r = some c
  nils : w.heap.nils.size = w.runtimes.size
  members : ∀ (i : RuntimeId) rt, w.runtimes[i]? = some rt → ∀ kind name r,
    rt.registry.member kind name = .ok r → 0 < l.bound r

namespace Ledger.Guards

variable {l : Ledger} {w w' : World κ} {request : Request κ} {turn : Turn κ}

theorem fresh (hw : w.Fresh) : Guards [] w where
  balance := hw.heap ▸ Balances.empty
  released r c hc := by
    rw [hw.heap, Heap.cell?_empty] at hc
    cases hc
  recorded r hr := absurd hr (Nat.lt_irrefl 0)
  nils := by
    rw [hw.heap, hw.runtimes]
    rfl
  members i rt hrt := by
    rw [hw.runtimes] at hrt
    simp at hrt

theorem live_of_bound (h : l.Guards w) {r : Ref} (hr : 0 < l.bound r) :
    ∃ c, w.heap.live? r = some c := by
  obtain ⟨c, hc⟩ := h.recorded r hr
  refine ⟨c, Heap.live?_eq_some_iff.2 ⟨hc, Bool.eq_false_iff.2 fun hrel => ?_⟩⟩
  have := (h.released r c hc hrel).1
  omega

theorem held_of_bound (h : l.Guards w) (hl : l.Covers) {r : Ref} (hr : 0 < l.bound r) :
    w.heap.held r = true := by
  obtain ⟨c, hc⟩ := h.live_of_bound hr
  have hcount := h.balance.live r c hc
  have hcover := hl.object r
  exact Heap.held_iff.2 ⟨c, hc, by omega⟩

theorem held_nil (h : l.Guards w) (hl : l.Covers) {i : Nat} (hi : i < w.runtimes.size) :
    w.heap.held (.nil i) = true := by
  have hnils := h.nils
  have hcell : w.heap.cell? (.nil i) = some w.heap.nils[i] := Array.getElem?_eq_getElem (by omega)
  have hlive : w.heap.nils[i].released = false :=
    Bool.eq_false_iff.2 fun hrel => (h.released _ _ hcell hrel).2 i rfl
  have hc := Heap.live?_eq_some_iff.2 ⟨hcell, hlive⟩
  have hcount := h.balance.live _ _ hc
  have hcover := hl.nil i
  exact Heap.held_iff.2 ⟨_, hc, by omega⟩

theorem held_member (h : l.Guards w) (hl : l.Covers) {i : RuntimeId} {rt : Runtime κ}
    (hrt : w.runtimes[i]? = some rt) {kind : KindId} {name : String} {r : Ref}
    (hr : rt.registry.member kind name = .ok r) : w.heap.held r = true :=
  h.held_of_bound hl (h.members i rt hrt kind name r hr)

theorem held_of_reaches (h : l.Guards w) (hl : l.Covers) {destroys : Ref → Bool}
    (hpermits : w.permits destroys request = true) (hclone : w.clonesHeld request = true)
    {r : Ref} (hreach : request.Reaches w r) {c : Cell κ} (hc : w.heap.live? r = some c) :
    1 ≤ c.count := by
  suffices hheld : w.heap.held r = true by
    obtain ⟨c', hc', hle⟩ := Heap.held_iff.1 hheld
    cases hc.symm.trans hc'
    exact hle
  have hnil : ∀ i : Nat, r = .nil i → w.heap.held r = true := fun i hr => by
    subst hr
    refine h.held_nil hl ?_
    have hcell := (Heap.live?_eq_some_iff.1 hc).1
    have hnils := h.nils
    obtain ⟨hi, -⟩ := Array.getElem?_eq_some_iff.1 (show w.heap.nils[i]? = some c from hcell)
    omega
  cases request with
  | on i op =>
    cases op with
    | retain p | setMember _ _ p =>
      obtain rfl : p = some r := hreach
      exact hpermits
    | lookup | methodCall =>
      obtain ⟨rt, o, d, hrt, -, -, hm⟩ := hreach
      exact h.held_member hl hrt hm
    | nil => exact hnil i hreach.2
    | _ => exact hreach.elim
  | handle op =>
    cases op with
    | borrow _ p =>
      obtain rfl : p = some r := hreach
      exact hpermits
    | nil i => exact hnil i hreach
    | clone b =>
      obtain ⟨handle, hb, rfl⟩ := hreach
      simpa [World.clonesHeld, hb] using hclone
    | _ => exact hreach.elim
  | _ => exact hreach.elim

/-- What is found given back after a permitted request is not bound, and no nil: a ledger that
`Covers` what it binds would have a reference left for it. -/
theorem unbound_of_released (h : l.Guards w) (hl : l.Covers)
    (hout : Outcome w request w' turn) {back : Cause} (hback : back.change = -1)
    {destroys : Ref → Bool} (hpermits : w.permits destroys request = true)
    (hdying : ∀ r c, destroys r = true → w.heap.live? r = some c → c.count ≤ 0)
    (hl' : Ledger.Covers (l ++ request.entries w back turn)) {r : Ref} {c' : Cell κ}
    (hc' : w'.heap.cell? r = some c') (hrel : c'.released = true) :
    Ledger.bound (l ++ request.entries w back turn) r = 0 ∧ ∀ i, r ≠ .nil i := by
  rcases hout.released_cases hc' hrel with ⟨c, hc, hrel⟩ | ⟨c, hc, ⟨hone, hentries⟩ | hfree⟩
  · -- It was given back before, and what was given back is not bound any more.
    obtain ⟨hzero, hnil⟩ := h.released r c hc hrel
    refine ⟨?_, hnil⟩
    rw [bound_append, hzero, Nat.zero_add]
    by_contra hpos
    obtain ⟨d, hd⟩ := hout.live_of_bound (Cause.ne_bind_of_change hback)
      (Nat.pos_of_ne_zero hpos)
    rw [Heap.live?_eq_none hc hrel] at hd
    cases hd
  · -- It loses its last reference, so that the ledger has none left for tables and nils.
    have hcount := h.balance.live r c hc
    have hobject := hl'.object r
    have hnet : Ledger.net (l ++ request.entries w back turn) r = -1 := by
      rw [hentries, net_append, net_singleton, if_pos rfl, hback]
      omega
    refine ⟨by omega, ?_⟩
    rintro i rfl
    have hnil := hl'.nil i
    omega
  · -- It is freed in its destructor, where it has no references either.
    subst hfree
    have hcount := h.balance.live r c hc
    have hzero := hdying r c hpermits hc
    have hobject := hl.object r
    refine ⟨?_, ?_⟩
    · rw [bound_append]
      change l.bound r + 0 = 0
      omega
    · rintro i rfl
      have hnil := hl.nil i
      omega

/-- A permitted request keeps the guard, if the ledger after it leaves enough references. -/
theorem perform (h : l.Guards w) (hl : l.Covers) (hout : Outcome w request w' turn) {back : Cause}
    (hback : back.change = -1) {destroys : Ref → Bool}
    (hpermits : w.permits destroys request = true)
    (hdying : ∀ r c, destroys r = true → w.heap.live? r = some c → c.count ≤ 0)
    (hl' : Ledger.Covers (l ++ request.entries w back turn)) :
    Guards (l ++ request.entries w back turn) w' := by
  have hset := World.ne_setCount_of_permits hpermits
  refine ⟨h.balance.perform hout hback hset,
    fun r c' hc' hrel => h.unbound_of_released hl hout hback hpermits hdying hl' hc' hrel,
    fun r hr => ?_, hout.size_nils h.nils, fun i rt' hrt' kind name r hr => ?_⟩
  · rw [bound_append] at hr
    have hcell : ∃ c, w.heap.cell? r = some c := by
      by_cases hpos : 0 < l.bound r
      · exact h.recorded r hpos
      · have hentry : 0 < (request.entries w back turn).bound r := by omega
        obtain ⟨c, hc⟩ := hout.live_of_bound (Cause.ne_bind_of_change hback) hentry
        exact ⟨c, (Heap.live?_eq_some_iff.1 hc).1⟩
    obtain ⟨c, hc⟩ := hcell
    obtain ⟨c', hc', -⟩ := hout.keeps hset hc
    exact ⟨c', hc'⟩
  · rw [bound_append]
    rcases hout.member_cases hrt' hr with ⟨rt, hrt, hr⟩ | hr | ⟨hdead, -, i, kind, name, rfl⟩
    · have := h.members i rt hrt kind name r hr
      omega
    · have := hr back
      omega
    · obtain ⟨c, hc, -⟩ := Heap.held_iff.1 (show w.heap.held r = true from hpermits)
      rw [hdead] at hc
      cases hc

end Ledger.Guards

/-! ## The stack -/

namespace Moment

variable {host : Host κ σ φ} {m : Moment κ σ φ}

theorem destroys_move {i : Option (Invocation κ)} {mv : Move κ φ} {r : Ref}
    (h : (m.move i mv).destroys r = true) :
    m.destroys r = true ∨
      ∃ run, i = some run ∧ run.role.isDestructor = true ∧ run.receiver = r := by
  cases mv with
  | ask =>
    cases i with
    | none => exact .inl (by simpa [move, destroys, Frame.destroys] using h)
    | some run => simpa [move, destroys, Frame.destroys, or_comm] using h
  | finish => cases i <;> exact .inl h

theorem destroys_turn {t : Turn κ} {r : Ref} (h : (m.turn host t).destroys r = true) :
    m.destroys r = true ∨
      ∃ run, t = .enter run ∧ run.role.isDestructor = true ∧ run.receiver = r := by
  cases t with
  | done | halt => exact .inl h
  | enter run =>
    rcases destroys_move h with h | ⟨run', hrun, h⟩
    · exact .inl h
    · cases hrun
      exact .inr ⟨run, rfl, h⟩
  | next request p => exact .inl (by simpa [turn, destroys, Frame.destroys] using h)

end Moment

namespace Outcome

variable {w w' : World κ} {request : Request κ} {turn : Turn κ}

theorem count_of_enter (h : Outcome w request w' turn) {run : Invocation κ}
    (hrun : turn = .enter run) (hrole : run.role.isDestructor = true) :
    ∃ c, w'.heap.cell? run.receiver = some c ∧ c.count ≤ 0 := by
  cases h with
  | plain _ _ _ _ hturn | started _ _ _ _ hturn =>
    subst hrun
    simp [Turn.isPlain, hrole] at hturn
  | destroying c hc hone _ hreceiver hheap =>
    cases hrun
    rw [hheap, hreceiver, Heap.cell?_addCount, if_pos rfl, (Heap.live?_eq_some_iff.1 hc).1]
    exact ⟨_, rfl, by dsimp only; omega⟩
  | _ => cases hrun

end Outcome

/-! ## The run -/

/-- What holds at every moment while clients keep to the discipline. -/
structure Moment.Custody (l : Ledger) (m : Moment κ σ φ) : Prop where
  guards : l.Guards m.world
  methods : m.MethodsPaid l
  /-- What is being destroyed has no references. -/
  dying : ∀ r, m.destroys r = true →
    ∃ c, m.world.heap.cell? r = some c ∧ (c.released = true ∨ c.count ≤ 0)

namespace Moment.Custody

variable {host : Host κ σ φ} {m : Moment κ σ φ} {l : Ledger}

theorem start {w : World κ} (hw : w.Fresh) (s : σ) (first : Move κ φ) :
    Custody [] (Moment.start w s first) where
  guards := by
    rw [world_start]
    exact .fresh hw
  methods := .start w s first
  dying r hr := by
    rcases destroys_move hr with hr | ⟨run, hrun, -⟩
    · cases hr
    · cases hrun

theorem covers (h : Custody l m) (hsolvent : ∀ r, l.returned r ≤ l.handedOut r) : l.Covers :=
  .of_solvent hsolvent h.methods.released_le

theorem count_of_destroys (h : Custody l m) {r : Ref} {c : Cell κ} (hr : m.destroys r = true)
    (hlive : m.world.heap.live? r = some c) : c.count ≤ 0 := by
  obtain ⟨d, hd, hrel | hle⟩ := h.dying r hr
  · rw [Heap.live?_eq_none hd hrel] at hlive
    cases hlive
  · cases (Heap.live?_eq_some_iff.1 hlive).1.symm.trans hd
    exact hle

theorem dying_perform (h : Custody l m) {request : Request κ} (hc : m.control = .perform request)
    (hl : l.Covers) (hpermits : m.world.permits m.destroys request = true)
    (hclone : m.world.clonesHeld request = true) {r : Ref}
    (hr : (m.step host).destroys r = true) :
    ∃ c, (m.world.perform request).1.heap.cell? r = some c ∧ (c.released = true ∨ c.count ≤ 0) := by
  have hout := m.world.perform_outcome request
  rw [step_perform host hc] at hr
  rcases destroys_turn hr with hr | ⟨run, hrun, hrole, rfl⟩
  · obtain ⟨c, hcell, hdead⟩ := h.dying r hr
    obtain ⟨c', hc', hrel, hlt⟩ := hout.keeps (World.ne_setCount_of_permits hpermits) hcell
    refine ⟨c', hc', ?_⟩
    -- A larger count would need a reference to be held, and nobody holds one.
    by_cases hle : c'.count ≤ c.count
    · rcases hdead with hdead | hdead
      · exact .inl (hrel hdead)
      · exact .inr (by omega)
    · obtain ⟨hlive, hreach, -⟩ := hlt (by omega)
      have hc := Heap.live?_eq_some_iff.2 ⟨hcell, hlive⟩
      have hone := h.guards.held_of_reaches hl hpermits hclone hreach hc
      have hzero := h.count_of_destroys hr hc
      omega
  · obtain ⟨c, hcell, hle⟩ := hout.count_of_enter hrun hrole
    exact ⟨c, hcell, .inr hle⟩

theorem perform (h : Custody l m) {request : Request κ} (hc : m.control = .perform request)
    (hl : l.Covers) (hpermits : m.world.permits m.destroys request = true)
    (hclone : m.world.clonesHeld request = true)
    (hsolvent : ∀ r, Ledger.returned (l ++ m.entries) r ≤ Ledger.handedOut (l ++ m.entries) r) :
    Custody (l ++ m.entries) (m.step host) := by
  have hmethods : MethodsPaid (l ++ m.entries) (m.step host) := h.methods.perform hc
  have hcovers : Ledger.Covers (l ++ m.entries) := .of_solvent hsolvent hmethods.released_le
  refine ⟨?_, hmethods, fun r hr => ?_⟩
  · rw [entries_perform hc] at hcovers ⊢
    rw [world_step, hc]
    exact h.guards.perform hl (m.world.perform_outcome request) m.releaseCause_change hpermits
      (fun r c hr hlive => h.count_of_destroys hr hlive) hcovers
  · rw [world_step, hc]
    exact h.dying_perform hc hl hpermits hclone hr

theorem reply (h : Custody l m) {reply : Reply κ} (hc : m.control = .reply reply) :
    Custody l (m.step host) := by
  have hmethods : MethodsPaid l (m.step host) := h.methods.reply hc
  obtain ⟨world, state, stack, control⟩ := m
  obtain rfl : control = .reply reply := hc
  cases stack with
  | nil => exact h
  | cons frame stack =>
    have hbelow : ∀ r, (Moment.mk world state stack (.reply reply)).destroys r = true →
        ∃ c, world.heap.cell? r = some c ∧ (c.released = true ∨ c.count ≤ 0) := fun r hr =>
      h.dying r (by simp_all [destroys])
    cases frame with
    | pending p =>
      obtain ⟨hheap, hruntimes⟩ := world.resume_frame reply p
      rw [step_pending] at hmethods ⊢
      refine ⟨?_, hmethods, fun r hr => ?_⟩
      · rw [world_turn]
        exact ⟨hheap ▸ h.guards.balance, hheap ▸ h.guards.released, hheap ▸ h.guards.recorded,
          by rw [hheap, hruntimes]; exact h.guards.nils, hruntimes ▸ h.guards.members⟩
      · rw [world_turn, hheap]
        rcases destroys_turn hr with hr | ⟨run, hrun, -⟩
        · exact hbelow r hr
        · rcases world.resume_cases reply p with ⟨i, method, -, hw⟩ | ⟨result, hw⟩ | ⟨e, hw⟩ <;>
            · rw [hw] at hrun
              cases hrun
    | host i frame =>
      rw [step_host] at hmethods ⊢
      refine ⟨?_, hmethods, fun r hr => ?_⟩
      · rw [world_move]
        exact h.guards
      · rw [world_move]
        rcases destroys_move hr with hr | ⟨run, rfl, hrole, hreceiver⟩
        · exact hbelow r hr
        · exact h.dying r (by simp [destroys, Frame.destroys, hrole, hreceiver])

theorem step (h : Custody l m) (hm : m.isPermitted = true) (hclone : m.clonesHeld = true)
    (hbefore : ∀ r, l.returned r ≤ l.handedOut r)
    (hafter : ∀ r, Ledger.returned (l ++ m.entries) r ≤ Ledger.handedOut (l ++ m.entries) r) :
    Custody (l ++ m.entries) (m.step host) := by
  cases hc : m.control with
  | perform request =>
    simp only [isPermitted, Moment.clonesHeld, hc] at hm hclone
    exact h.perform hc (h.covers hbefore) hm hclone hafter
  | reply reply =>
    rw [show m.entries = [] by simp only [entries, hc], List.append_nil]
    exact h.reply hc
  | ended ending =>
    rw [show m.entries = [] by simp only [entries, hc], List.append_nil]
    simpa only [Moment.step, hc] using h

theorem run (h : Custody [] m) {n : Nat} (hm : m.Disciplined host n)
    (hclone : ∀ k < n, (m.run host k).clonesHeld = true) :
    Custody (m.ledger host n) (m.run host n) := by
  -- Solvency is asked for after each step, since a step is safe only if it ends solvent.
  induction n with
  | zero => exact h
  | succ n ih =>
    rw [ledger_succ, run_succ]
    refine (ih (hm.mono (by omega)) fun k hk => hclone k (by omega)).step
      (hm.permitted n (by omega)) (hclone n (by omega)) (hm.solvent n (by omega)) fun r => ?_
    rw [← ledger_succ]
    exact hm.solvent (n + 1) (Nat.le_refl _) r

end Moment.Custody

/-! ## Following members -/

/-- Where every member is held, `resolve` never leaves the objects in use. -/
theorem resolve_ne_fault {heap : Heap κ} {g : Registry κ}
    (hmembers : ∀ kind name r, g.member kind name = .ok r → heap.held r = true) (budget : Nat)
    {r : Ref} {c : Cell κ} (hops : Nat) (hc : heap.live? r = some c) :
    resolve heap g budget r hops ≠ .fault := by
  -- Each hop costs one of the budget and ends at a member, which is in use again.
  induction budget generalizing r c hops with
  | zero =>
    rw [resolve, hc]
    dsimp only
    split <;> simp
  | succ budget ih =>
    rw [resolve, hc]
    dsimp only
    split
    · simp
    · simp
    next next hnext =>
      have hr : g.member c.kind callMember = .ok next := by
        rw [Registry.member_eq_ok_iff]
        unfold Registry.hop at hnext
        split at hnext
        · cases hnext
        next d hd =>
          split at hnext
          · cases hnext
          · split at hnext
            · cases hnext
              exact ⟨d, hd, ‹_›⟩
            · cases hnext
      obtain ⟨d, hd, -⟩ := Heap.held_iff.1 (hmembers _ _ _ hr)
      exact ih _ hd

theorem lookup_ne_none {w : World κ} {g : Registry κ}
    (hmembers : ∀ kind name r, g.member kind name = .ok r → w.heap.held r = true)
    {r : Ref} {c : Cell κ} (hc : w.heap.live? r = some c) (name : String) :
    w.lookup g r name ≠ none := by
  cases hm : g.member c.kind name with
  | error e => simp [World.lookup, hc, hm]
  | ok member =>
    obtain ⟨d, hd, -⟩ := Heap.held_iff.1 (hmembers _ _ _ hm)
    simp [World.lookup, World.retain, hc, hm, hd]

/-! ## Member tables and nils -/

namespace Moment

/-- **What was ever bound, and every nil, stays in use with a count of at least 1.**  This holds at
every moment of every run in which clients keep to the discipline, and clone only handles of objects
that are held; look-ups and chains of call members that start at an object in use then never touch
storage that was given back. -/
theorem members_and_nils_held (host : Host κ σ φ) (w : World κ) (hw : w.Fresh) (s : σ)
    (first : Move κ φ) (n : Nat) (h : (start w s first).Disciplined host n)
    (hclone : ∀ k < n, ((start w s first).run host k).clonesHeld = true) :
    (∀ r, 0 < ((start w s first).ledger host n).bound r →
        ((start w s first).run host n).world.heap.held r = true) ∧
      (∀ i < ((start w s first).run host n).world.runtimes.size,
        ((start w s first).run host n).world.heap.held (.nil i) = true) ∧
      ∀ (i : RuntimeId) rt r c, ((start w s first).run host n).world.runtimes[i]? = some rt →
        ((start w s first).run host n).world.heap.live? r = some c →
        (∀ budget hops,
          resolve ((start w s first).run host n).world.heap rt.registry budget r hops ≠ .fault) ∧
          ∀ name, ((start w s first).run host n).world.lookup rt.registry r name ≠ none := by
  have hcustody := (Custody.start hw s first).run h hclone
  have hcovers := hcustody.covers (h.solvent n (Nat.le_refl n))
  refine ⟨fun r hr => hcustody.guards.held_of_bound hcovers hr,
    fun i hi => hcustody.guards.held_nil hcovers hi, fun i rt r c hrt hc => ?_⟩
  have hmembers : ∀ kind name r, rt.registry.member kind name = .ok r →
      ((start w s first).run host n).world.heap.held r = true :=
    fun _ _ _ hr => hcustody.guards.held_member hcovers hrt hr
  exact ⟨fun budget hops => resolve_ne_fault hmembers budget hops hc,
    fun name => lookup_ne_none hmembers hc name⟩

/-- A client that binds an object as the call member of its kind, gives its own reference back and
calls the member. -/
def bindAndCall : Procedure Unit Unit Answer :=
  .ask (.service (.startRuntime (some 1))) fun _ =>
  .ask (.on 0 (.register 10)) fun _ =>
  .ask (.on 0 (.newObject 10 0)) fun _ =>
  .ask (.on 0 (.setMember 10 callMember (some (.object 0)))) fun _ =>
  .ask (.on 0 (.release (some (.object 0)))) fun _ =>
  .ask (.on 0 (.methodCall (some (.object 0)) callMember [])) fun _ =>
  .done (.ok none)

theorem members_and_nils_held_bindAndCall :
    World.Fresh ({} : World Unit) ∧
      (start {} () (bindAndCall.toMove ()).2).Disciplined (Procedure.toHost fun _ => bindAndCall)
        14 ∧
      (∀ k < 14, ((start {} () (bindAndCall.toMove ()).2).run
        (Procedure.toHost fun _ => bindAndCall) k).clonesHeld = true) ∧
      ((start {} () (bindAndCall.toMove ()).2).run
        (Procedure.toHost fun _ => bindAndCall) 14).world.heap.held (.object 0) = true := by
  have hw : World.Fresh ({} : World Unit) := ⟨rfl, rfl, rfl, rfl⟩
  have h : (start {} () (bindAndCall.toMove ()).2).Disciplined
      (Procedure.toHost fun _ => bindAndCall) 14 :=
    Ledger.disciplined_of_mem (by decide) (by decide)
  have hclone : ∀ k < 14, ((start {} () (bindAndCall.toMove ()).2).run
      (Procedure.toHost fun _ => bindAndCall) k).clonesHeld = true := by decide
  exact ⟨hw, h, hclone,
    (members_and_nils_held (Procedure.toHost fun _ => bindAndCall) {} hw () _ 14 h hclone).1 _
      (by decide)⟩

/-- A client that keeps a handle of an object after the last reference to it is gone. -/
def keepHandle : Procedure Unit Unit Answer :=
  .ask (.service (.startRuntime (some 1))) fun _ =>
  .ask (.on 0 (.register 10)) fun _ =>
  .ask (.on 0 (.newObject 10 0)) fun _ =>
  .ask (.handle (.adopt 0 (some (.object 0)))) fun _ =>
  .ask (.on 0 (.setDestructor 10 (.native (.host ())))) fun _ =>
  .ask (.on 0 (.release (some (.object 0)))) fun _ =>
  .done (.ok none)

/-- A destructor that clones the handle, binds the object, and frees it. -/
def cloneInDestructor : Host Unit Unit (Procedure.Waiting Unit Unit) :=
  Procedure.toHost fun _ =>
    .ask (.handle (.clone 0)) fun _ =>
    .ask (.on 0 (.setMember 10 "m" (some (.object 0)))) fun _ =>
    .ask (.service (.freeObject (some (.object 0)))) fun _ =>
    .done (.ok none)

/-- The rule on clones cannot be left out: `cloneInDestructor` keeps to all others. -/
theorem not_held_cloneInDestructor :
    World.Fresh ({} : World Unit) ∧
      (start {} () (keepHandle.toMove ()).2).Disciplined cloneInDestructor 17 ∧
      0 < ((start {} () (keepHandle.toMove ()).2).ledger cloneInDestructor 17).bound (.object 0) ∧
      ((start {} () (keepHandle.toMove ()).2).run cloneInDestructor 17).world.heap.held
        (.object 0) = false :=
  ⟨⟨rfl, rfl, rfl, rfl⟩, Ledger.disciplined_of_mem (by decide) (by decide), by decide, by decide⟩

end Moment

end ObjectRuntime
