import ObjectRuntime.Proofs.Destruction
import ObjectRuntime.Proofs.History
/-!
# The last release

A destructor is started by the release that takes the count of an object from one to zero and by
nothing else (`destructorStart?_of_release`), and it is the one that the history of the releasing
runtime says.  Before it can be started again the count has to be raised (`exists_raises`).
-/

namespace ObjectRuntime

variable {κ σ φ : Type}

/-- The destructor slot that host code was entered from. -/
def Invocation.slot (run : Invocation κ) : Destructor κ :=
  match run.role with
  | .nativeDestructor => .native (.host run.code)
  | .closureDestructor _ => .closure run.code
  | .nativeApply | .closureApply _ => .empty

theorem Outcome.enters {w w' : World κ} {request : Request κ} {turn : Turn κ}
    (h : Outcome w request w' turn) {run : Invocation κ} (hturn : turn = .enter run)
    (hrole : run.role.isDestructor = true) : ∃ i r, request = .on i (.release (some r)) := by
  cases h with
  | destroying => exact ⟨_, _, rfl⟩
  | plain _ _ _ _ hplain | started _ _ _ _ hplain =>
    rw [hturn, Turn.isPlain, hrole] at hplain
    cases hplain
  | configured | bound | unbound | taken | method | released | reclaimed | made | freed | recounted
    | written => cases hturn

namespace World

variable {w : World κ} {i : RuntimeId} {g : Registry κ} {r : Ref} {c : Cell κ}

theorem release_of_unregistered (hc : w.heap.live? r = some c) (hcount : c.count = 1) {e : Failure}
    (hslot : g.destructor c.kind = .error e) :
    w.release i g r = ({ w with heap := w.heap.addCount r (-1) }, .done (.error e)) := by
  rw [release_of_eq_one hc hcount, destroy, hslot]

theorem release_of_empty (hc : w.heap.live? r = some c) (hcount : c.count = 1)
    (hslot : g.destructor c.kind = .ok .empty) :
    w.release i g r =
      (({ w with heap := w.heap.addCount r (-1) } : World κ).emit (.objectDestroy c.kind r),
        .done (.ok .unit)) := by
  rw [release_of_eq_one hc hcount, destroy, hslot]

end World

namespace Moment

/-- The destructor that is started at this moment and the object that it is started on, if there is
one: host code is entered for it, or the stock routine gave the storage back. -/
def destructorStart? (m : Moment κ σ φ) : Option (Ref × Destructor κ) :=
  match m.control with
  | .perform request =>
    match m.world.perform request, request with
    | (_, .enter run), _ =>
      if run.role.isDestructor then some (run.receiver, run.slot) else none
    | (w, .done _), .on _ (.release (some r)) =>
      if (w.heap.live? r).isNone then some (r, .native .stock) else none
    | _, _ => none
  | _ => none

variable {host : Host κ σ φ} {m : Moment κ σ φ} {i : RuntimeId} {rt : Runtime κ} {r : Ref}
  {c : Cell κ} {slot : Destructor κ}

theorem destructorStart?_eq_none (h : ∀ i r, m.control ≠ .perform (.on i (.release (some r)))) :
    m.destructorStart? = none := by
  unfold destructorStart?
  split
  next request hc =>
    have hout := m.world.perform_outcome request
    split
    next w run request' hw =>
      rw [hw] at hout
      split
      next hrole =>
        obtain ⟨i, r, rfl⟩ := hout.enters rfl hrole
        exact absurd hc (h i r)
      · rfl
    next => exact absurd hc (h _ _)
    · rfl
  · rfl

theorem slot_of_invocation? {run : Invocation κ} (h : slot.invocation? i r = some run) :
    run.role.isDestructor = true ∧ run.receiver = r ∧ run.slot = slot := by
  unfold Destructor.invocation? at h
  split at h <;> cases h <;> exact ⟨rfl, rfl, rfl⟩

theorem destructorStart?_of_done {w : World κ} {reply : Reply κ}
    (hcontrol : m.control = .perform (.on i (.release (some r))))
    (h : m.world.perform (.on i (.release (some r))) = (w, .done reply)) :
    m.destructorStart? = if (w.heap.live? r).isNone then some (r, .native .stock) else none := by
  simp only [destructorStart?, hcontrol, h]

theorem destructorStart?_of_slot (hcontrol : m.control = .perform (.on i (.release (some r))))
    (hrt : m.world.runtimes[i]? = some rt) (hc : m.world.heap.live? r = some c)
    (hcount : c.count = 1) (hslot : rt.registry.destructor c.kind = .ok slot) :
    slot = .empty ∧ m.destructorStart? = none ∨
      slot ≠ .empty ∧ m.destructorStart? = some (r, slot) := by
  have hperform := World.perform_release (o := r) hrt
  have henters (run : Invocation κ) (hrun : slot.invocation? i r = some run) :
      m.destructorStart? = some (r, slot) := by
    obtain ⟨w', hw, -⟩ := World.release_enters hc hcount hslot hrun
    obtain ⟨hrole, hreceiver, hrunslot⟩ := slot_of_invocation? hrun
    simp only [destructorStart?, hcontrol, hperform, hw, hrole, hreceiver, hrunslot, if_true]
  cases slot with
  | empty =>
    rw [World.release_of_empty hc hcount hslot] at hperform
    refine .inl ⟨rfl, ?_⟩
    rw [destructorStart?_of_done hcontrol hperform, World.heap_emit, Heap.live?_addCount hc]
    rfl
  | closure code => exact .inr ⟨by simp, henters _ rfl⟩
  | native entry =>
    refine .inr ⟨by simp, ?_⟩
    cases entry with
    | host code => exact henters _ rfl
    | stock =>
      obtain ⟨w', hw, hheap, -⟩ := World.release_frees (i := i) hc hcount hslot
      rw [hw] at hperform
      rw [destructorStart?_of_done hcontrol hperform, hheap, Heap.live?_release_object]
      rfl

/-- **The last release of an object starts the destructor of its kind**, and no other release starts
one. -/
theorem destructorStart?_of_release (hcontrol : m.control = .perform (.on i (.release (some r))))
    (hrt : m.world.runtimes[i]? = some rt) (hc : m.world.heap.live? r = some c) {o : Ref} :
    m.destructorStart? = some (o, slot) ↔
      r = o ∧ c.count = 1 ∧ rt.registry.destructor c.kind = .ok slot ∧ slot ≠ .empty := by
  have hperform := World.perform_release (o := r) hrt
  have hnone (w : World κ) (reply : Reply κ) (hheap : w.heap = m.world.heap.addCount r (-1))
      (hw : m.world.release i rt.registry r = (w, .done reply)) : m.destructorStart? = none := by
    rw [destructorStart?_of_done hcontrol (hperform.trans hw), hheap, Heap.live?_addCount hc]
    rfl
  rcases Int.lt_trichotomy c.count 1 with hcount | hcount | hcount
  · have hstart := hnone _ _ rfl (World.release_of_le_zero hc (by omega))
    simp [hstart, Int.ne_of_lt hcount]
  · cases hslot : rt.registry.destructor c.kind with
    | error e =>
      have hstart := hnone _ _ rfl (World.release_of_unregistered hc hcount hslot)
      simp [hstart]
    | ok slot' =>
      rcases destructorStart?_of_slot hcontrol hrt hc hcount hslot with
        ⟨hempty, hstart⟩ | ⟨hne, hstart⟩
      · simp only [hstart, hcount, hempty, true_and, Except.ok.injEq, reduceCtorEq, false_iff]
        rintro ⟨-, rfl, h⟩
        exact h rfl
      · simp only [hstart, hcount, true_and, Option.some.injEq, Prod.mk.injEq, Except.ok.injEq]
        exact and_congr_right fun _ => ⟨fun h => ⟨h, h ▸ hne⟩, fun h => h.1⟩
  · have hstart := hnone _ _ rfl (World.release_of_one_lt hc hcount)
    simp [hstart, Int.ne_of_gt hcount]

theorem destructorStart?_eq_some_iff : m.destructorStart? = some (r, slot) ↔ ∃ i rt c,
    m.control = .perform (.on i (.release (some r))) ∧ m.world.runtimes[i]? = some rt ∧
      m.world.heap.live? r = some c ∧ c.count = 1 ∧
      rt.registry.destructor c.kind = .ok slot ∧ slot ≠ .empty := by
  constructor
  · intro h
    have hrelease : ∃ i r', m.control = .perform (.on i (.release (some r'))) := by
      by_contra hn
      rw [destructorStart?_eq_none fun i r hc => hn ⟨i, r, hc⟩] at h
      cases h
    obtain ⟨i, r', hcontrol⟩ := hrelease
    -- Where there is no such runtime or the object was given back, the run ends.
    have hnothing (hw : m.world.perform (.on i (.release (some r'))) = (m.world, .halt .fault)) :
        m.destructorStart? ≠ some (r, slot) := by
      simp [destructorStart?, hcontrol, hw]
    cases hrt : m.world.runtimes[i]? with
    | none => exact absurd h (hnothing (World.perform_on_none hrt _))
    | some rt =>
      cases hc : m.world.heap.live? r' with
      | none =>
        refine absurd h (hnothing ?_)
        rw [World.perform_release hrt, World.release, hc]
      | some c =>
        obtain ⟨rfl, hlast⟩ := (destructorStart?_of_release hcontrol hrt hc).1 h
        exact ⟨i, rt, c, hcontrol, hrt, hc, hlast⟩
  · rintro ⟨i, rt, c, hcontrol, hrt, hc, h⟩
    exact (destructorStart?_of_release hcontrol hrt hc).2 ⟨rfl, h⟩

theorem count_of_destructorStart? (host : Host κ σ φ) (h : m.destructorStart? = some (r, slot)) :
    ∃ c, (m.step host).world.heap.cell? r = some c ∧ c.count = 0 := by
  obtain ⟨i, rt, c, hcontrol, hrt, hc, hcount, -⟩ := destructorStart?_eq_some_iff.1 h
  obtain ⟨hcell, -⟩ := Heap.live?_eq_some_iff.1 hc
  have hzero : c.count + -1 = 0 := by omega
  have hdecrement : (m.world.heap.addCount r (-1)).cell? r =
      some { c with count := c.count + -1 } := by
    rw [Heap.cell?_addCount, if_pos rfl, hcell]
    rfl
  rw [world_step_perform host hcontrol, World.perform_release hrt]
  rcases m.world.release_cases i rt.registry r hc with
    ⟨-, hheap | ⟨-, hheap⟩⟩ | ⟨run, -, -, -, -, hheap⟩
  · exact ⟨_, hheap ▸ hdecrement, hzero⟩
  · rw [hheap, Heap.cell?_release_object, if_pos rfl, hdecrement]
    exact ⟨_, rfl, hzero⟩
  · exact ⟨_, hheap ▸ hdecrement, hzero⟩

/-! ## Between two starts -/

/-- The step from this moment raises the count of an object above zero, by a reference that is taken
or by a write into its header. -/
def Raises (host : Host κ σ φ) (r : Ref) (m : Moment κ σ φ) : Prop :=
  ∃ c c', m.world.heap.cell? r = some c ∧ c.count ≤ 0 ∧
    (m.step host).world.heap.cell? r = some c' ∧ 0 < c'.count ∧
    ((m.step host).world.heap = m.world.heap.addCount r 1 ∨
      m.control = .perform (.service (.setCount r c'.count)))

end Moment

/-- What is on record stays on record, and its count gets larger only by a reference that is taken
or by a write into its header. -/
theorem Outcome.raises {w w' : World κ} {request : Request κ} {turn : Turn κ}
    (h : Outcome w request w' turn) {r : Ref} {c : Cell κ} (hc : w.heap.cell? r = some c) :
    ∃ c', w'.heap.cell? r = some c' ∧ (c.count < c'.count →
      w'.heap = w.heap.addCount r 1 ∨ request = .service (.setCount r c'.count)) := by
  have hsame (hcell : w'.heap.cell? r = w.heap.cell? r) : ∃ c', w'.heap.cell? r = some c' ∧
      (c.count < c'.count →
        w'.heap = w.heap.addCount r 1 ∨ request = .service (.setCount r c'.count)) :=
    ⟨c, hcell.trans hc, fun hlt => absurd hlt (Int.lt_irrefl _)⟩
  have hadd {o : Ref} {d : Cell κ} {n : Int} (hd : w.heap.live? o = some d)
      (hheap : w'.heap = w.heap.addCount o n) (hn : 0 < n → n = 1) :
      ∃ c', w'.heap.cell? r = some c' ∧ (c.count < c'.count →
        w'.heap = w.heap.addCount r 1 ∨ request = .service (.setCount r c'.count)) := by
    obtain ⟨c', hc', -, hlt⟩ := Heap.addCount_keeps hc hd n
    refine ⟨c', hheap ▸ hc', fun h => .inl ?_⟩
    obtain ⟨hpos, -, rfl⟩ := hlt h
    rw [hheap, hn hpos]
  cases h with
  | bound _ _ _ _ _ _ hd hheap | taken _ _ _ _ _ hd hheap | method _ _ _ hd hheap =>
    exact hadd hd hheap fun _ => rfl
  | released _ hd hheap | destroying _ hd _ _ _ hheap => exact hadd hd hheap (by simp)
  | plain hnils hobjects => exact hsame (by cases r <;> simp [Heap.cell?, hnils, hobjects])
  | configured _ _ _ _ hheap | unbound _ _ _ _ _ _ hheap => exact hsame (by rw [hheap])
  | @reclaimed _ o _ _ d hd _ hheap =>
    obtain ⟨c', hc', -, hlt⟩ := Heap.addCount_keeps hc hd (-1)
    obtain ⟨c'', hc'', -, hcount⟩ := Heap.release_keeps hc' o
    exact ⟨c'', hheap ▸ hc'', fun h => absurd (hlt (hcount ▸ h)).1 (by simp)⟩
  | @freed o _ d hd hheap =>
    obtain ⟨c', hc', -, hcount⟩ := Heap.release_keeps hc o
    exact ⟨c', hheap ▸ hc', fun h => absurd h (by omega)⟩
  | made _ _ _ hheap =>
    refine hsame ?_
    rw [hheap, Heap.cell?_addObject, if_neg]
    rintro rfl
    simp [Heap.cell?_nextObject] at hc
  | started _ hheap =>
    refine hsame ?_
    rw [hheap, Heap.cell?_addNil, if_neg]
    rintro rfl
    simp [Heap.cell?_nextNil] at hc
  | @recounted o n _ d hd hheap =>
    by_cases hr : r = o
    · subst hr
      rw [hheap, Heap.cell?_update, if_pos rfl, hc]
      exact ⟨_, rfl, fun _ => .inr rfl⟩
    · exact hsame (by rw [hheap, Heap.cell?_update, if_neg hr])
  | written _ _ hheap =>
    rw [hheap, Heap.cell?_update, hc]
    split
    · exact ⟨_, rfl, fun h => absurd h (Int.lt_irrefl _)⟩
    · exact ⟨c, rfl, fun h => absurd h (Int.lt_irrefl _)⟩

namespace Moment

variable {host : Host κ σ φ} {m : Moment κ σ φ} {r : Ref} {c : Cell κ}

theorem raises_of_step (host : Host κ σ φ) (hc : m.world.heap.cell? r = some c)
    (hcount : c.count ≤ 0) :
    m.Raises host r ∨ ∃ c', (m.step host).world.heap.cell? r = some c' ∧ c'.count ≤ 0 := by
  by_cases hperform : ∃ request, m.control = .perform request
  · obtain ⟨request, hcontrol⟩ := hperform
    have hworld := world_step_perform host hcontrol
    obtain ⟨c', hc', hlt⟩ := (m.world.perform_outcome request).raises hc
    rw [← hworld] at hc' hlt
    by_cases hle : c'.count ≤ 0
    · exact .inr ⟨c', hc', hle⟩
    · refine .inl ⟨c, c', hc, hcount, hc', by omega, ?_⟩
      rcases hlt (by omega) with hheap | rfl
      · exact .inl hheap
      · exact .inr hcontrol
  · right
    rw [(step_frame host fun request h => hperform ⟨request, h⟩).1]
    exact ⟨c, hc, hcount⟩

/-- A count that was not above zero stays so until a step `Raises` it. -/
theorem exists_raises {a b : Nat} (hab : a ≤ b) (hc : (m.run host a).world.heap.cell? r = some c)
    (hcount : c.count ≤ 0) : (∃ k, a ≤ k ∧ k < b ∧ (m.run host k).Raises host r) ∨
      ∃ c', (m.run host b).world.heap.cell? r = some c' ∧ c'.count ≤ 0 := by
  induction hab with
  | refl => exact .inr ⟨c, hc, hcount⟩
  | @step b hab ih =>
    rcases ih with ⟨k, hak, hkb, hraises⟩ | ⟨c', hc', hcount'⟩
    · exact .inl ⟨k, hak, Nat.lt_succ_of_lt hkb, hraises⟩
    · rw [Nat.succ_eq_add_one, run_succ]
      rcases raises_of_step host hc' hcount' with hraises | hlow
      · exact .inl ⟨b, hab, Nat.lt_succ_self b, hraises⟩
      · exact .inr hlow

theorem exists_raises_between {j n : Nat} (hjn : j < n) {slot slot' : Destructor κ}
    (hj : (m.run host j).destructorStart? = some (r, slot))
    (hn : (m.run host n).destructorStart? = some (r, slot')) :
    ∃ k, j < k ∧ k < n ∧ (m.run host k).Raises host r := by
  obtain ⟨c, hc, hzero⟩ := count_of_destructorStart? host hj
  rw [← run_succ] at hc
  rcases exists_raises hjn hc (by omega) with hraises | ⟨c', hc', hle⟩
  · exact hraises
  · obtain ⟨-, -, d, -, -, hd, hone, -⟩ := destructorStart?_eq_some_iff.1 hn
    cases hc'.symm.trans (Heap.live?_eq_some_iff.1 hd).1
    omega

/-- **Destructors are started by the release that finds the last reference.**  At every moment of
every run, one is started exactly if a count of 1 is released in a runtime where the kind is
registered with a destructor; it is the one last set there, and the count is 0 when it starts.
Where there is none the release is done and the storage stays.  A release that finds no reference or
an unregistered kind is reported, takes one from the count all the same, and does nothing else.
Between two starts on an object its count is raised above zero. -/
theorem destructor_starts_at_last_release (host : Host κ σ φ) (w : World κ) (hw : w.Fresh) (s : σ)
    (first : Move κ φ) (n : Nat) (m : Moment κ σ φ) (hm : m = (start w s first).run host n) :
    (∀ r slot, m.destructorStart? = some (r, slot) ↔ ∃ i c,
      m.control = .perform (.on i (.release (some r))) ∧ i < m.world.runtimes.size ∧
      m.world.heap.live? r = some c ∧ c.count = 1 ∧
      c.kind ∈ ((start w s first).history host i n).kinds ∧
      ((start w s first).history host i n).destructor c.kind = slot ∧ slot ≠ .empty) ∧
    (∀ r slot, m.destructorStart? = some (r, slot) →
      ∃ d, (m.step host).world.heap.cell? r = some d ∧ d.count = 0) ∧
    (∀ i r c, m.control = .perform (.on i (.release (some r))) → i < m.world.runtimes.size →
      m.world.heap.live? r = some c →
      (c.count = 1 → c.kind ∈ ((start w s first).history host i n).kinds →
        ((start w s first).history host i n).destructor c.kind = .empty →
        m.step host = { m with
          world := ({ m.world with heap := m.world.heap.addCount r (-1) } : World κ).emit
            (.objectDestroy c.kind r)
          control := .reply (.ok .unit) }) ∧
      (c.count = 1 → c.kind ∉ ((start w s first).history host i n).kinds →
        m.destructorStart? = none ∧
        m.step host = { m with
          world := { m.world with heap := m.world.heap.addCount r (-1) }
          control := .reply (.error (.unregisteredKind c.kind)) } ∧
        ∃ d, (m.step host).world.heap.live? r = some d ∧ d.count = 0) ∧
      (c.count ≤ 0 → m.destructorStart? = none ∧
        m.step host = { m with
          world := { m.world with heap := m.world.heap.addCount r (-1) }
          control := .reply (.error (.countUnderflow c.kind (c.count - 1))) })) ∧
    (∀ j < n, ∀ r slot slot', ((start w s first).run host j).destructorStart? = some (r, slot) →
      m.destructorStart? = some (r, slot') →
      ∃ k, j < k ∧ k < n ∧ ((start w s first).run host k).Raises host r) := by
  -- Where a request is performed the registries are what their histories say.
  have hfollows {i : RuntimeId} {request : Request κ} {rt : Runtime κ}
      (hcontrol : m.control = .perform request) (hrt : m.world.runtimes[i]? = some rt) :
      rt.registry.Follows ((start w s first).history host i n) := by
    subst hm
    exact (records_history hw (by simp [hcontrol]) hrt).follows
  refine ⟨fun r slot => ?_, fun r slot => count_of_destructorStart? host,
    fun i r c hcontrol hi hc => ?_,
    fun j hj r slot slot' hstart hstart' => exists_raises_between hj hstart (hm ▸ hstart')⟩
  · rw [destructorStart?_eq_some_iff]
    constructor
    · rintro ⟨i, rt, c, hcontrol, hrt, hc, hcount, hslot, hne⟩
      obtain ⟨hi, -⟩ := Array.getElem?_eq_some_iff.1 hrt
      rw [(hfollows hcontrol hrt).destructor] at hslot
      split at hslot
      next hkind => exact ⟨i, c, hcontrol, hi, hc, hcount, hkind, Except.ok.inj hslot, hne⟩
      · cases hslot
    · rintro ⟨i, c, hcontrol, hi, hc, hcount, hkind, hslot, hne⟩
      have hrt := Array.getElem?_eq_getElem hi
      refine ⟨i, _, c, hcontrol, hrt, hc, hcount, ?_, hne⟩
      rw [(hfollows hcontrol hrt).destructor, if_pos hkind, hslot]
  · have hrt := Array.getElem?_eq_getElem hi
    have hdestructor := (hfollows hcontrol hrt).destructor c.kind
    have hperform := World.perform_release (o := r) hrt
    have hstep {w' : World κ} {reply : Reply κ}
        (hw' : m.world.release i m.world.runtimes[i].registry r = (w', .done reply)) :
        m.step host = { m with world := w', control := .reply reply } :=
      step_of_done hcontrol (hperform.trans hw')
    have hnone (hlast : ∀ slot, c.count = 1 →
        m.world.runtimes[i].registry.destructor c.kind ≠ .ok slot) : m.destructorStart? = none := by
      refine Option.eq_none_iff_forall_ne_some.2 fun ⟨o, slot⟩ hstart => ?_
      obtain ⟨-, hcount, hslot, -⟩ := (destructorStart?_of_release hcontrol hrt hc).1 hstart
      exact hlast slot hcount hslot
    refine ⟨fun hcount hkind hempty => ?_, fun hcount hkind => ?_, fun hcount => ?_⟩
    · rw [if_pos hkind, hempty] at hdestructor
      exact hstep (World.release_of_empty hc hcount hdestructor)
    · rw [if_neg hkind] at hdestructor
      have hnext := hstep (World.release_of_unregistered hc hcount hdestructor)
      refine ⟨hnone fun slot _ => by simp [hdestructor], hnext, ?_⟩
      rw [hnext]
      exact ⟨_, Heap.live?_addCount hc (-1), by simp [hcount]⟩
    · exact ⟨hnone fun slot hone => by omega, hstep (World.release_of_le_zero hc hcount)⟩

/-- A reference that is taken to a dying object raises its count before its destructor is started
again. -/
theorem destructor_starts_at_last_release_retainInDestructor :
    World.Fresh ({} : World Unit) ∧
      ((start {} false (makeAndRelease.toMove false).2).run
        retainInDestructor 8).destructorStart? = some (.object 0, .native (.host ())) ∧
      ((start {} false (makeAndRelease.toMove false).2).run
        retainInDestructor 11).destructorStart? = some (.object 0, .native (.host ())) ∧
      (∃ d, ((start {} false (makeAndRelease.toMove false).2).run
        retainInDestructor 12).world.heap.cell? (.object 0) = some d ∧ d.count = 0) ∧
      ∃ k, 8 < k ∧ k < 11 ∧ ((start {} false (makeAndRelease.toMove false).2).run
        retainInDestructor k).Raises retainInDestructor (.object 0) := by
  have hw : World.Fresh ({} : World Unit) := ⟨rfl, rfl, rfl, rfl⟩
  have hstart : ((start {} false (makeAndRelease.toMove false).2).run
      retainInDestructor 8).destructorStart? = some (.object 0, .native (.host ())) := by decide
  have hagain : ((start {} false (makeAndRelease.toMove false).2).run
      retainInDestructor 11).destructorStart? = some (.object 0, .native (.host ())) := by decide
  obtain ⟨-, hzero, -, hbetween⟩ := destructor_starts_at_last_release retainInDestructor {} hw false
    (makeAndRelease.toMove false).2 11 _ rfl
  refine ⟨hw, hstart, hagain, ?_, hbetween 8 (by decide) _ _ _ hstart hagain⟩
  rw [run_succ]
  exact hzero _ _ hagain

end Moment

end ObjectRuntime
