import ObjectRuntime.Proofs.Cascade.Graph
import ObjectRuntime.Proofs.Run
/-!
# Destructors that release fields

What it means that the destructor of an object releases what is in its fields and then frees the
object (`Destructor.ReleasesFields`), for a host whose code may do anything else with a state of
its own in between; and which destructors are `started` in the course of a run.
-/

namespace ObjectRuntime

variable {κ σ φ : Type}

/-! ## What destructors ask for -/

/-- Host code that asks for these things in order, as long as they succeed, and then ends.  In
between the state of the host may change as other code of the host likes, but keeps `Inv`. -/
inductive Host.Follows (host : Host κ σ φ) (Inv : σ → Prop) :
    List (Request κ) → σ × Move κ φ → Prop
  | finish {s answer} (hs : Inv s) : Follows host Inv [] (s, .finish answer)
  | ask {request requests s frame} (hs : Inv s)
      (hnext : ∀ s', Inv s' → Follows host Inv requests (host.resume frame (.ok .unit) s')) :
      Follows host Inv (request :: requests) (s, .ask request frame)

theorem Host.Follows.finishes {host : Host κ σ φ} {Inv : σ → Prop} {next : σ × Move κ φ}
    (h : host.Follows Inv [] next) : ∃ s answer, Inv s ∧ next = (s, .finish answer) := by
  cases h with
  | finish hs => exact ⟨_, _, hs, rfl⟩

/-- One release for each field that is not null, and the object itself is freed. -/
def Fields.plan (f : Fields) (i : RuntimeId) (r : Ref) : List (Request κ) :=
  (f.targets r).map (fun t => .on i (.release (some t))) ++ [.service (.freeObject (some r))]

/-- How host code is entered by a destructor slot, if it is. -/
def Destructor.invocation? (slot : Destructor κ) (i : RuntimeId) (r : Ref) :
    Option (Invocation κ) :=
  match slot with
  | .native (.host code) => some { code, role := .nativeDestructor, receiver := r }
  | .closure code => some { code, role := .closureDestructor i, receiver := r }
  | .native .stock | .empty => none

/-- Whether a slot releases the fields of an object and then frees it.  The stock routine, which
only frees, does so for objects that refer to nothing. -/
def Destructor.ReleasesFields (host : Host κ σ φ) (Inv : σ → Prop) (i : RuntimeId) (f : Fields)
    (slot : Destructor κ) (r : Ref) : Prop :=
  (slot = .native .stock ∧ f.targets r = []) ∨
    ∃ run, slot.invocation? i r = some run ∧
      ∀ s, Inv s → host.Follows Inv (f.plan i r) (host.enter run s)

theorem Destructor.role_of_invocation? {slot : Destructor κ} {i : RuntimeId} {r : Ref}
    {run : Invocation κ} (h : slot.invocation? i r = some run) :
    run.receiver = r ∧ ∀ answer, run.role.reply answer = (.ok .unit : Reply κ) := by
  unfold invocation? at h
  split at h <;> cases h <;> exact ⟨rfl, fun _ => rfl⟩

/-! ## What a release does -/

namespace World

variable {w : World κ} {i : RuntimeId} {g : Registry κ} {o : Ref} {c : Cell κ}

theorem release_enters (hc : w.heap.live? o = some c) (hcount : c.count = 1)
    {slot : Destructor κ} (hslot : g.destructor c.kind = .ok slot) {run : Invocation κ}
    (hrun : slot.invocation? i o = some run) :
    ∃ w', w.release i g o = (w', .enter run) ∧ w'.heap = w.heap.addCount o (-1) ∧
      w'.runtimes = w.runtimes := by
  rw [release_of_eq_one hc hcount, destroy, hslot]
  cases slot with
  | empty => cases hrun
  | closure code =>
    cases hrun
    exact ⟨_, rfl, rfl, rfl⟩
  | native entry =>
    cases entry with
    | stock => cases hrun
    | host code =>
      cases hrun
      exact ⟨_, rfl, rfl, rfl⟩

theorem release_frees (hc : w.heap.live? o = some c) (hcount : c.count = 1)
    (hslot : g.destructor c.kind = .ok (.native .stock)) :
    ∃ w', w.release i g o = (w', .done (.ok .unit)) ∧
      w'.heap = (w.heap.addCount o (-1)).release (.object o) ∧ w'.runtimes = w.runtimes := by
  rw [release_of_eq_one hc hcount, destroy, hslot]
  simp only [freeObject, heap_emit, Heap.live?_addCount hc, Option.map_some]
  exact ⟨_, rfl, rfl, rfl⟩

theorem perform_freeObject (hc : w.heap.live? o = some c) :
    ∃ w', w.perform (.service (.freeObject (some o))) = (w', .done (.ok .unit)) ∧
      w'.heap = w.heap.release (.object o) ∧ w'.runtimes = w.runtimes := by
  obtain ⟨w', hw'⟩ : ∃ w', w.freeObject o = some w' :=
    ⟨_, freeObject_eq_some_iff.2 ⟨c, hc, rfl⟩⟩
  obtain ⟨-, -, hfreed⟩ := freeObject_eq_some_iff.1 hw'
  refine ⟨w', by simp [perform, serve, orFault, hw'], ?_, ?_⟩
  · rw [hfreed, heap_giveBack, heap_emit]
  · rw [hfreed]
    rfl

theorem perform_release {rt : Runtime κ} (hrt : w.runtimes[i]? = some rt) :
    w.perform (.on i (.release (some o))) = w.release i rt.registry o := by
  simp only [perform, hrt]
  rfl

end World

/-! ## Which destructors are started -/

namespace Moment

variable (host : Host κ σ φ) (m : Moment κ σ φ)

/-- The object whose destructor is started at this moment, if there is one: host code is entered
for it, or the stock routine gave its storage back. -/
def starts : List Ref :=
  match m.control with
  | .perform (.on i (.release (some r))) =>
    match m.world.perform (.on i (.release (some r))) with
    | (_, .enter run) => [run.receiver]
    | (w, .done _) => if (w.heap.live? r).isNone then [r] else []
    | _ => []
  | _ => []

/-- The objects whose destructors are started in so many steps, in order. -/
def started (n : Nat) (m : Moment κ σ φ) : List Ref := m.trace host starts n

/-- A run comes from one moment to another, leaves the frames below alone, and starts these
destructors on the way. -/
def Comes (below : List (Frame κ φ)) (m m' : Moment κ σ φ) (l : List Ref) : Prop :=
  ∃ n, m.run host n = m' ∧ started host n m = l ∧ ∀ k ≤ n, below <:+ (m.run host k).stack

theorem starts_of_done {w w' : World κ} {s : σ} {stack : List (Frame κ φ)} {i : RuntimeId}
    {o : Ref} {reply : Reply κ} (h : w.perform (.on i (.release (some o))) = (w', .done reply)) :
    (mk w s stack (.perform (.on i (.release (some o))))).starts =
      if (w'.heap.live? o).isNone then [o] else [] := by
  simp only [starts, h]

theorem starts_of_enter {w w' : World κ} {s : σ} {stack : List (Frame κ φ)} {i : RuntimeId}
    {o : Ref} {run : Invocation κ} (h : w.perform (.on i (.release (some o))) = (w', .enter run)) :
    (mk w s stack (.perform (.on i (.release (some o))))).starts = [run.receiver] := by
  simp only [starts, h]

variable {host} {below : List (Frame κ φ)} {m m' m'' : Moment κ σ φ} {l l' : List Ref}

theorem Comes.refl (h : below <:+ m.stack) : Comes host below m m [] :=
  ⟨0, rfl, rfl, fun _ hk => Nat.le_zero.1 hk ▸ h⟩

theorem Comes.trans (h : Comes host below m m' l) (h' : Comes host below m' m'' l') :
    Comes host below m m'' (l ++ l') := by
  obtain ⟨a, rfl, rfl, ha⟩ := h
  obtain ⟨b, rfl, rfl, hb⟩ := h'
  refine ⟨a + b, run_add .., trace_add .., fun k hk => ?_⟩
  by_cases hka : k ≤ a
  · exact ha k hka
  · obtain ⟨j, rfl⟩ := Nat.exists_eq_add_of_le (show a ≤ k by omega)
    rw [run_add]
    exact hb j (by omega)

theorem Comes.step (h : below <:+ m.stack) (h' : below <:+ (m.step host).stack) :
    Comes host below m (m.step host) m.starts := by
  refine ⟨1, run_cons .., by simp [started, trace], fun k hk => ?_⟩
  rcases (show k = 0 ∨ k = 1 by omega) with rfl | rfl
  · exact h
  · rw [run_cons, run_zero]
    exact h'

theorem Comes.perform (host : Host κ σ φ) {w w' : World κ} {request : Request κ} {t : Turn κ}
    (h : w.perform request = (w', t)) (s : σ) (stack : List (Frame κ φ)) :
    Comes host stack (mk w s stack (.perform request))
      ((mk w' s stack (.perform request)).turn host t)
      (mk w s stack (.perform request) : Moment κ σ φ).starts := by
  have hstep := step_perform host
    (show (mk w s stack (.perform request) : Moment κ σ φ).control = .perform request from rfl)
  rw [h] at hstep
  rw [← hstep]
  refine Comes.step (List.suffix_refl _) ?_
  rw [hstep]
  exact suffix_turn host (mk w' s stack _) t

theorem Comes.mono (h : Comes host below m m' l) {below' : List (Frame κ φ)}
    (hsuffix : below' <:+ below) : Comes host below' m m' l := by
  obtain ⟨n, hn, hl, hbelow⟩ := h
  exact ⟨n, hn, hl, fun k hk => hsuffix.trans (hbelow k hk)⟩

end Moment

end ObjectRuntime
