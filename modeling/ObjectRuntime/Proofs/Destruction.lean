import ObjectRuntime.Procedure
import ObjectRuntime.Proofs.Cascade.Destructor
import ObjectRuntime.Proofs.Ledger.Discipline
import ObjectRuntime.Proofs.Ledger.Methods
import ObjectRuntime.Proofs.Ledger.Record
/-!
# How often a destructor is started

A destructor is started where the last reference to an object is given back.  Nothing keeps track
of that: if a client takes a reference to the dying object and gives it back, that was the last
reference again, and the destructor is started anew.  In the runs of clients who give back no more
than they were handed, this is the only way: `settled_or_revived` says so of one step, and `Quota`
counts along a run.
-/

namespace ObjectRuntime

variable {κ σ φ : Type}

/-- Whether a reference is taken to an object that a client names. -/
def Cause.isChosen : Cause → Bool
  | .retain | .borrow | .clone => true
  | _ => false

/-- Whether what is on record for an object shows no reference to it. -/
def Heap.Spent (h : Heap κ) (r : Ref) : Prop :=
  ∃ c, h.cell? r = some c ∧ (c.released = true ∨ c.count ≤ 0)

/-- The objects whose destructor is not going to be started before a client takes a reference to
them: those without references, and those that always have one. -/
def Ledger.Settled (l : Ledger) (h : Heap κ) (r : Ref) : Prop :=
  h.Spent r ∨ 0 < l.bound r ∨ ∃ i, r = .nil i

/-- Whatever a member table binds is entered as bound. -/
def Ledger.BindsMembers (l : Ledger) (w : World κ) : Prop :=
  ∀ (i : RuntimeId) rt, w.runtimes[i]? = some rt → ∀ kind name r,
    rt.registry.member kind name = .ok r → 0 < l.bound r

theorem Ledger.BindsMembers.perform {l : Ledger} {w w' : World κ} {request : Request κ}
    {turn : Turn κ} (h : l.BindsMembers w) (hout : Outcome w request w' turn)
    (hturn : turn ≠ .halt .fault) (back : Cause) :
    BindsMembers (l ++ request.entries w back turn) w' := by
  intro i rt' hrt' kind name r hr
  rw [Ledger.bound_append]
  rcases hout.member_cases hrt' hr with ⟨rt, hrt, hr⟩ | hr | ⟨-, hfault, -⟩
  · have := h i rt hrt kind name r hr
    omega
  · have := hr back
    omega
  · exact absurd hfault hturn

/-- Who takes a reference to what a request reaches: a client who names the object, a member table,
or somebody who gets a member or a nil. -/
theorem Request.cause_cases {w : World κ} {request : Request κ} {turn : Turn κ} {back cause : Cause}
    {r : Ref} (hreach : request.Reaches w r)
    (hentries : request.entries w back turn = [⟨cause, r⟩]) :
    cause.isChosen = true ∨ cause = .bind ∨
      (∃ (i : RuntimeId) (rt : Runtime κ) (kind : KindId) (name : String),
        w.runtimes[i]? = some rt ∧ rt.registry.member kind name = .ok r) ∨ ∃ i, r = .nil i := by
  cases request with
  | on i op =>
    cases op with
    | retain p =>
      obtain rfl : p = some r := hreach
      cases turn <;> cases hentries
      exact .inl rfl
    | setMember kind name p =>
      obtain rfl : p = some r := hreach
      rcases turn with (_ | _) | _ | _ | _ <;> cases hentries
      exact .inr (.inl rfl)
    | lookup | methodCall =>
      obtain ⟨rt, o, c, hrt, -, -, hm⟩ := hreach
      exact .inr (.inr (.inl ⟨i, rt, _, _, hrt, hm⟩))
    | nil => exact .inr (.inr (.inr ⟨i, hreach.2⟩))
    | _ => exact hreach.elim
  | handle op =>
    cases op with
    | borrow i p =>
      obtain rfl : p = some r := hreach
      cases turn <;> cases hentries
      exact .inl rfl
    | nil i => exact .inr (.inr (.inr ⟨i, hreach⟩))
    | clone b =>
      obtain ⟨handle, hb, rfl⟩ := hreach
      cases turn <;> simp [Request.entries, hb] at hentries
      exact .inl (hentries ▸ rfl)
    | _ => exact hreach.elim
  | _ => exact hreach.elim

/-! ## What is noted -/

namespace Moment

variable (host : Host κ σ φ) (m : Moment κ σ φ)

/-- The object without references that a client takes a reference to at this moment, if there is
one. -/
def revived : List Ref :=
  (m.entries.filter fun e =>
    e.cause.isChosen && (m.world.heap.live? e.object).any (·.count ≤ 0)).map (·.object)

/-- The objects without references that clients took a reference to in so many steps, in order. -/
def revivals (n : Nat) (m : Moment κ σ φ) : List Ref := m.trace host revived n

/-- Whether nothing is freed at this moment but an object whose destructor is running. -/
def freesDying : Bool :=
  match m.control with
  | .perform (.service (.freeObject (some r))) => m.destroys r
  | _ => true

variable {host m} {l : Ledger} {starts revivals : List Ref}

theorem starts_cases {request : Request κ} (hc : m.control = .perform request) :
    m.starts = [] ∨ ∃ i r c, request = .on i (.release (some r)) ∧
      m.world.heap.live? r = some c ∧ c.count = 1 ∧ m.starts = [r] ∧
      m.entries = [⟨m.releaseCause, r⟩] ∧ (m.world.perform request).1.heap.Spent r := by
  have hout := m.world.perform_outcome request
  unfold Moment.starts entries
  rw [hc]
  cases request with
  | on i op =>
    cases op with
    | release p =>
      cases p with
      | none => exact .inl rfl
      | some r =>
        dsimp only
        generalize m.world.perform (.on i (.release (some r))) = result at hout
        obtain ⟨w', t⟩ := result
        cases hout with
        | plain _ _ _ hentries | started _ _ _ hentries =>
          cases t with
          | done | enter => cases hentries .release
          | next | halt => exact .inl rfl
        | configured _ _ _ _ _ _ hentries | made _ _ _ _ _ hentries => cases hentries .release
        | taken _ _ _ _ hreach => exact hreach.elim
        | released c hlive hheap =>
          left
          dsimp only at hheap ⊢
          rw [hheap, Heap.live?_addCount hlive]
          rfl
        | reclaimed c hlive hone hheap =>
          dsimp only at hheap ⊢
          refine .inr ⟨i, r, c, rfl, hlive, hone, ?_, rfl, ?_⟩
          · rw [hheap, Heap.live?_release_object]
            rfl
          · obtain ⟨hcell, -⟩ := Heap.live?_eq_some_iff.1 hlive
            rw [Heap.Spent, hheap, Heap.cell?_release_object, if_pos rfl, Heap.cell?_addCount,
              if_pos rfl, hcell]
            exact ⟨_, rfl, .inl rfl⟩
        | destroying c hlive hone _ hreceiver hheap =>
          dsimp only at hheap ⊢
          refine .inr ⟨i, r, c, rfl, hlive, hone, by rw [hreceiver], rfl, ?_⟩
          obtain ⟨hcell, -⟩ := Heap.live?_eq_some_iff.1 hlive
          rw [Heap.Spent, hheap, Heap.cell?_addCount, if_pos rfl, hcell]
          exact ⟨_, rfl, .inr (by dsimp only; omega)⟩
    | _ => exact .inl rfl
  | _ => exact .inl rfl

theorem nothing_noted (h : ∀ request, m.control ≠ .perform request) :
    m.entries = [] ∧ m.starts = [] ∧ m.revived = [] := by
  have hentries : m.entries = [] := by
    unfold entries
    split
    next request hc => exact absurd hc (h request)
    · rfl
  refine ⟨hentries, ?_, by rw [revived, hentries]; rfl⟩
  unfold Moment.starts
  split
  next hc => exact absurd hc (h _)
  · rfl

theorem ne_setCount_of_writesCount {request : Request κ} (hc : m.control = .perform request)
    (hset : m.control.writesCount = false) (r : Ref) (n : Int) :
    request ≠ .service (.setCount r n) := by
  rintro rfl
  rw [hc] at hset
  cases hset

/-! ## The run -/

/-- What holds at every moment of a run of solvent clients, in which these destructors were started
and these references taken to objects without any. -/
structure Quota (l : Ledger) (starts revivals : List Ref) (m : Moment κ σ φ) : Prop where
  balance : l.Balances m.world.heap
  methods : m.MethodsPaid l
  members : (∃ ending, m.control = .ended ending) ∨ l.BindsMembers m.world
  /-- A destructor is started once, and once more for each reference taken afterwards. -/
  once : ∀ r, starts.count r ≤ revivals.count r + 1
  /-- Of these starts one is still to come, if there is a reference that can be given back. -/
  ahead : ∀ r, ¬ l.Settled m.world.heap r → starts.count r ≤ revivals.count r

namespace Quota

theorem start {w : World κ} (hw : w.Fresh) (s : σ) (first : Move κ φ) :
    Quota [] [] [] (Moment.start w s first) where
  balance := by
    rw [world_start, hw.heap]
    exact .empty
  methods := .start w s first
  members := .inr fun i rt hrt => by
    rw [world_start, hw.runtimes] at hrt
    simp at hrt
  once r := by simp
  ahead r _ := by simp

theorem not_settled_of_starts (h : Quota l starts revivals m) {r : Ref} {c : Cell κ}
    (hlive : m.world.heap.live? r = some c) (hone : c.count = 1)
    (hentries : m.entries = [⟨m.releaseCause, r⟩]) (hcovers : Ledger.Covers (l ++ m.entries)) :
    ¬ l.Settled m.world.heap r := by
  -- The ledger has no reference left for tables and nils once this one is given back.
  have hcount := h.balance.live r c hlive
  have hnet : Ledger.net (l ++ m.entries) r = -1 := by
    rw [hentries, Ledger.net_append, Ledger.net_singleton, if_pos rfl, m.releaseCause_change]
    omega
  have hobject := hcovers.object r
  have hbound := Ledger.bound_append l m.entries r
  rintro (⟨d, hd, hdead⟩ | hpos | ⟨i, rfl⟩)
  · obtain ⟨hcell, hrel⟩ := Heap.live?_eq_some_iff.1 hlive
    cases hcell.symm.trans hd
    rcases hdead with hdead | hdead
    · rw [hrel] at hdead
      cases hdead
    · omega
  · omega
  · have hnil := hcovers.nil i
    omega

/-- What is `Ledger.Settled` stays so, unless a client takes a reference to it without there being
one. -/
theorem settled_or_revived (h : Quota l starts revivals m) {request : Request κ}
    (hc : m.control = .perform request) (hset : m.control.writesCount = false) {r : Ref}
    (hr : l.Settled m.world.heap r) :
    Ledger.Settled (l ++ m.entries) (m.world.perform request).1.heap r ∨ r ∈ m.revived := by
  have hbound := Ledger.bound_append l m.entries r
  rcases hr with ⟨c, hcell, hdead⟩ | hpos | hnil
  · obtain ⟨c', hc', hrel, hlt⟩ :=
      (m.world.perform_outcome request).keeps (ne_setCount_of_writesCount hc hset) hcell
    by_cases hspent : c'.released = true ∨ c'.count ≤ 0
    · exact .inl (.inl ⟨c', hc', hspent⟩)
    -- The count got larger, so somebody took a reference to what had none.
    rw [not_or] at hspent
    have hzero : c.count ≤ 0 := hdead.resolve_left fun hdead => hspent.1 (hrel hdead)
    obtain ⟨hlive, hreach, cause, hentries⟩ := hlt (by omega)
    have hone := (entries_perform hc).trans (hentries m.releaseCause)
    rcases Request.cause_cases hreach (hentries m.releaseCause) with
      hchosen | rfl | ⟨i, rt, kind, name, hrt, hm⟩ | hnil
    · right
      have hc := Heap.live?_eq_some_iff.2 ⟨hcell, hlive⟩
      simp [revived, hone, hchosen, hc, hzero]
    · refine .inl (.inr (.inl ?_))
      simp [hone, Ledger.bound, Ledger.tally_cons]
    · refine .inl (.inr (.inl ?_))
      rcases h.members with ⟨ending, hended⟩ | hmembers
      · cases hc.symm.trans hended
      · have := hmembers i rt hrt kind name r hm
        omega
    · exact .inl (.inr (.inr hnil))
  · exact .inl (.inr (.inl (by omega)))
  · exact .inl (.inr (.inr hnil))

theorem members_perform (h : Quota l starts revivals m) {request : Request κ}
    (hc : m.control = .perform request) :
    (∃ ending, (m.step host).control = .ended ending) ∨
      Ledger.BindsMembers (l ++ m.entries) (m.step host).world := by
  rcases h.members with ⟨ending, hended⟩ | hmembers
  · cases hc.symm.trans hended
  by_cases hfault : (m.world.perform request).2 = .halt .fault
  · left
    rw [step_perform host hc, hfault]
    exact ⟨_, rfl⟩
  · right
    rw [entries_perform hc, world_step, hc]
    exact hmembers.perform (m.world.perform_outcome request) hfault m.releaseCause

theorem ahead_perform (h : Quota l starts revivals m) {request : Request κ}
    (hc : m.control = .perform request) (hset : m.control.writesCount = false) {r : Ref}
    (hr : ¬ Ledger.Settled (l ++ m.entries) (m.world.perform request).1.heap r) :
    starts.count r ≤ (revivals ++ m.revived).count r := by
  rw [List.count_append]
  by_cases hsettled : l.Settled m.world.heap r
  · have honce := h.once r
    have := List.count_pos_iff.2 ((h.settled_or_revived hc hset hsettled).resolve_left hr)
    omega
  · have := h.ahead r hsettled
    omega

theorem perform (h : Quota l starts revivals m) {request : Request κ}
    (hc : m.control = .perform request) (hset : m.control.writesCount = false)
    (hsolvent : ∀ r, Ledger.returned (l ++ m.entries) r ≤ Ledger.handedOut (l ++ m.entries) r) :
    Quota (l ++ m.entries) (starts ++ m.starts) (revivals ++ m.revived) (m.step host) := by
  have hmethods : MethodsPaid (l ++ m.entries) (m.step host) := h.methods.perform hc
  have hcovers : Ledger.Covers (l ++ m.entries) := .of_solvent hsolvent hmethods.released_le
  have hworld : (m.step host).world = (m.world.perform request).1 := by rw [world_step, hc]
  refine ⟨balances_step h.balance hset, hmethods, h.members_perform hc, ?_, ?_⟩
  · intro r
    have honce := h.once r
    rw [List.count_append, List.count_append]
    rcases starts_cases hc with hnone | ⟨i, o, c, -, hlive, hone, hstarts, hentries, -⟩
    · rw [hnone, List.count_nil]
      omega
    · rw [hstarts, List.count_singleton]
      split
      next ho =>
        obtain rfl := eq_of_beq ho
        have := h.ahead o (h.not_settled_of_starts hlive hone hentries hcovers)
        omega
      · omega
  · intro r hr
    rw [hworld] at hr
    rcases starts_cases hc with hnone | ⟨i, o, c, -, -, -, hstarts, -, hspent⟩
    · rw [hnone, List.append_nil]
      exact h.ahead_perform hc hset hr
    · have ho : o ≠ r := by
        rintro rfl
        exact hr (.inl hspent)
      rw [hstarts, List.count_append, List.count_singleton, if_neg (by simpa using ho)]
      exact h.ahead_perform hc hset hr

theorem reply (h : Quota l starts revivals m) {reply : Reply κ} (hc : m.control = .reply reply) :
    Quota l starts revivals (m.step host) := by
  have hmethods : MethodsPaid l (m.step host) := h.methods.reply hc
  have hworld : (m.step host).world.heap = m.world.heap ∧
      (m.step host).world.runtimes = m.world.runtimes := by
    rw [world_step, hc]
    split
    · contradiction
    · exact m.world.resume_frame _ _
    · exact ⟨rfl, rfl⟩
  refine ⟨hworld.1 ▸ h.balance, hmethods, .inr ?_, h.once, hworld.1 ▸ h.ahead⟩
  rw [Ledger.BindsMembers, hworld.2]
  refine h.members.resolve_left ?_
  rintro ⟨ending, hended⟩
  cases hc.symm.trans hended

theorem step (h : Quota l starts revivals m) (hset : m.control.writesCount = false)
    (hsolvent : ∀ r, Ledger.returned (l ++ m.entries) r ≤ Ledger.handedOut (l ++ m.entries) r) :
    Quota (l ++ m.entries) (starts ++ m.starts) (revivals ++ m.revived) (m.step host) := by
  cases hc : m.control with
  | perform request => exact h.perform hc hset hsolvent
  | reply reply =>
    obtain ⟨hentries, hstarts, hrevived⟩ := nothing_noted (m := m) (by simp [hc])
    simpa only [hentries, hstarts, hrevived, List.append_nil] using h.reply hc
  | ended ending =>
    obtain ⟨hentries, hstarts, hrevived⟩ := nothing_noted (m := m) (by simp [hc])
    simpa only [hentries, hstarts, hrevived, List.append_nil, Moment.step, hc] using h

theorem run (h : Quota [] [] [] m) {n : Nat}
    (hset : ∀ k < n, (m.run host k).control.writesCount = false)
    (hsolvent : ∀ k ≤ n, ∀ r, (m.ledger host k).returned r ≤ (m.ledger host k).handedOut r) :
    Quota (m.ledger host n) (m.started host n) (m.revivals host n) (m.run host n) := by
  induction n with
  | zero => exact h
  | succ n ih =>
    have hledger := ledger_succ host m n
    rw [hledger, run_succ, started, trace_succ, revivals, trace_succ]
    refine (ih (fun k hk => hset k (by omega)) fun k hk => hsolvent k (by omega)).step
      (hset n (by omega)) ?_
    rw [← hledger]
    exact hsolvent (n + 1) (Nat.le_refl _)

end Quota

/-- **A destructor is started once, and once more each time that a client takes a reference to the
object when there is none.**  This holds in every run in which clients write no counts and give back
no more references than they were handed, also inside destructors. -/
theorem started_le_revivals (host : Host κ σ φ) (w : World κ) (hw : w.Fresh) (s : σ)
    (first : Move κ φ) (n : Nat)
    (hset : ∀ k < n, ((start w s first).run host k).control.writesCount = false)
    (hsolvent : ∀ k ≤ n, ∀ r, ((start w s first).ledger host k).returned r ≤
      ((start w s first).ledger host k).handedOut r) (r : Ref) :
    ((start w s first).started host n).count r ≤
      ((start w s first).revivals host n).count r + 1 :=
  ((Quota.start hw s first).run hset hsolvent).once r

/-- A client that gives an object back right after it made it. -/
def makeAndRelease : Procedure Unit Bool Answer :=
  .ask (.service (.startRuntime (some 1))) fun _ =>
  .ask (.on 0 (.register 10)) fun _ =>
  .ask (.on 0 (.setDestructor 10 (.native (.host ())))) fun _ =>
  .ask (.on 0 (.newObject 10 0)) fun _ =>
  .ask (.on 0 (.release (some (.object 0)))) fun _ =>
  .done (.ok none)

/-- A destructor that takes a reference to the dying object, gives it back and frees the object, and
that does nothing when it is started again. -/
def retainInDestructor : Host Unit Bool (Procedure.Waiting Unit Bool) :=
  Procedure.toHost fun _ =>
    .get fun begun =>
    if begun then .done (.ok none) else
    .set true <|
    .ask (.on 0 (.retain (some (.object 0)))) fun _ =>
    .ask (.on 0 (.release (some (.object 0)))) fun _ =>
    .ask (.service (.freeObject (some (.object 0)))) fun _ =>
    .done (.ok none)

theorem started_le_revivals_retainInDestructor :
    World.Fresh ({} : World Unit) ∧
      (∀ k < 16, ((start {} false (makeAndRelease.toMove false).2).run
        retainInDestructor k).control.writesCount = false) ∧
      (∀ k ≤ 16, ∀ r,
        ((start {} false (makeAndRelease.toMove false).2).ledger retainInDestructor k).returned r ≤
          ((start {} false (makeAndRelease.toMove false).2).ledger
            retainInDestructor k).handedOut r) ∧
      ((start {} false (makeAndRelease.toMove false).2).started
          retainInDestructor 16).count (.object 0) ≤
        ((start {} false (makeAndRelease.toMove false).2).revivals
          retainInDestructor 16).count (.object 0) + 1 := by
  have hw : World.Fresh ({} : World Unit) := ⟨rfl, rfl, rfl, rfl⟩
  have hset : ∀ k < 16, ((start {} false (makeAndRelease.toMove false).2).run
      retainInDestructor k).control.writesCount = false := by decide
  have hsolvent : ∀ k ≤ 16, ∀ r,
      ((start {} false (makeAndRelease.toMove false).2).ledger retainInDestructor k).returned r ≤
        ((start {} false (makeAndRelease.toMove false).2).ledger
          retainInDestructor k).handedOut r := by
    refine fun k hk => Ledger.solvent_of_mem ?_
    revert k
    decide
  exact ⟨hw, hset, hsolvent,
    started_le_revivals retainInDestructor {} hw false _ 16 hset hsolvent _⟩

/-- A reference that is taken and given back inside a destructor, as `retainInDestructor` does,
starts it again. -/
theorem started_twice_retainInDestructor :
    World.Fresh ({} : World Unit) ∧
      (∀ k < 16, ((start {} false (makeAndRelease.toMove false).2).run
        retainInDestructor k).control.writesCount = false) ∧
      (∀ k ≤ 16, ∀ r,
        ((start {} false (makeAndRelease.toMove false).2).ledger retainInDestructor k).returned r ≤
          ((start {} false (makeAndRelease.toMove false).2).ledger
            retainInDestructor k).handedOut r) ∧
      (∀ k < 16, ((start {} false (makeAndRelease.toMove false).2).run
        retainInDestructor k).freesDying = true) ∧
      ((start {} false (makeAndRelease.toMove false).2).started
        retainInDestructor 16).count (.object 0) = 2 := by
  refine ⟨⟨rfl, rfl, rfl, rfl⟩, by decide, fun k hk => Ledger.solvent_of_mem ?_, by decide,
    by decide⟩
  revert k
  decide

end Moment

end ObjectRuntime
