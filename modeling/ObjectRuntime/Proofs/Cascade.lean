import ObjectRuntime.Procedure
import ObjectRuntime.Proofs.Cascade.Release
/-!
# Cascading release

What one release does to a finite graph of objects that own what is in their fields (`Owns`),
however they share it: the release comes back, and what it frees has no reference left that could
reach it.
-/

namespace ObjectRuntime

variable {κ σ φ : Type}

namespace Owns

variable {host : Host κ σ φ} {Inv : σ → Prop} {i : RuntimeId} {f : Fields} {objects : Finset Ref}
  {held : Ref → Nat} {w : World κ}

theorem live (h : Owns host Inv i f objects held w) {r : Ref} (hr : r ∈ objects) :
    ∃ c, w.heap.live? r = some c ∧ 1 ≤ c.count ∧ c.count = f.refs objects r + held r := by
  obtain ⟨rt, -, hcounted⟩ := h.counted
  obtain ⟨c, slot, hc, hpos, heq, -⟩ := hcounted r hr
  exact ⟨c, hc, hpos, heq⟩

theorem reachable (h : Owns host Inv i f objects held w)
    (hacyclic : ∀ r ∈ objects, ¬ Relation.TransGen f.Refers r r) {r : Ref} (hr : r ∈ objects) :
    f.Reachable held r := by
  refine Fields.reachable_of_acyclic hacyclic (fun s hs => ?_) hr
  obtain ⟨c, -, hpos, heq⟩ := h.live hs
  omega

theorem mem_iff_live {w₀ : World κ} {left : Finset Ref} {l : List Ref}
    (h : Owns host Inv i f left held w) (hswept : Swept w₀ w objects left l) {r : Ref}
    (hr : r ∈ objects) : r ∈ left ↔ (w.heap.live? r).isSome := by
  refine ⟨fun hr' => ?_, fun hsome => ?_⟩
  · obtain ⟨c, hc, -⟩ := h.live hr'
    rw [hc]
    rfl
  · by_contra hr'
    rw [hswept.gone r hr hr'] at hsome
    cases hsome

theorem filter_live {w₀ : World κ} {left : Finset Ref} {l : List Ref}
    (h : Owns host Inv i f left held w) (hswept : Swept w₀ w objects left l) :
    objects.filter (fun s => (w.heap.live? s).isSome) = left := by
  ext r
  rw [Finset.mem_filter]
  refine ⟨fun ⟨hr, hsome⟩ => (h.mem_iff_live hswept hr).2 hsome, fun hr => ?_⟩
  exact ⟨hswept.subset hr, (h.mem_iff_live hswept (hswept.subset hr)).1 hr⟩

end Owns

namespace Moment

/-- **Releasing an external reference.**  The objects own what is in their fields, and `ext` says
how many references to each are held from outside.  One release of such a reference succeeds after
finitely many steps, none of which touches storage that was given back.  It starts the destructors
of the objects that it frees, each once; what the remaining references reach stays, with the count
that the remaining fields and references make up; and without cycles nothing else does. -/
theorem release_cascades (host : Host κ σ φ) (Inv : σ → Prop) (i : RuntimeId) (f : Fields)
    (objects : Finset Ref) (ext : Ref → Nat) (m : Moment κ σ φ) (o : Ref)
    (h : Owns host Inv i f objects ext m.world) (hs : Inv m.state) (ho : 0 < ext o)
    (hm : m.control = .perform (.on i (.release (some o)))) :
    ∃ n m' ext', m.run host n = m' ∧ (ext' = fun r => ext r - if r = o then 1 else 0) ∧
      m'.control = .reply (.ok .unit) ∧ m'.stack = m.stack ∧
      (∀ k ≤ n, m.stack <:+ (m.run host k).stack ∧
        ∀ ending, (m.run host k).control ≠ .ended ending) ∧
      (m.started host n).Nodup ∧
      (∀ r, r ∈ m.started host n ↔ r ∈ objects ∧ m'.world.heap.live? r = none) ∧
      (∀ r, f.Reachable ext' r → ∃ c, m'.world.heap.live? r = some c) ∧
      (∀ r ∈ objects, ∀ c, m'.world.heap.live? r = some c →
        c.count = f.refs (objects.filter fun s => (m'.world.heap.live? s).isSome) r + ext' r) ∧
      ((∀ r ∈ objects, ¬ Relation.TransGen f.Refers r r) →
        ∀ r ∈ objects, m'.world.heap.live? r = none ↔ ¬ f.Reachable ext' r) ∧
      ∀ r, r ∉ objects → m'.world.heap.cell? r = m.world.heap.cell? r := by
  have hext : ext = fun r => (ext r - if r = o then 1 else 0) + if r = o then 1 else 0 := by
    funext r
    by_cases hr : r = o
    · subst hr
      simp only [if_true]
      omega
    · simp [hr]
  rw [hext] at h
  obtain ⟨world, state, stack, control⟩ := m
  obtain rfl : control = _ := hm
  -- The reference that is given back counts as held until the release comes back.
  obtain ⟨w', s', left, l, ⟨n, hrun, hl, hbelow⟩, -, h', hswept⟩ :=
    releasable objects world _ o state stack h hs
  subst hl
  have hlive : ∀ r ∈ objects, r ∈ left ↔ (w'.heap.live? r).isSome :=
    fun r hr => h'.mem_iff_live hswept hr
  have hreach : ∀ r, f.Reachable (fun r => ext r - if r = o then 1 else 0) r → r ∈ left :=
    fun r hr => Fields.mem_of_reachable h'.closed h'.rooted hr
  refine ⟨n, _, _, hrun, rfl, rfl, rfl, fun k hk => ⟨hbelow k hk, fun ending hended => ?_⟩,
    hswept.nodup, fun r => ?_, fun r hr => ?_, fun r hr c hc => ?_, fun hacyclic r hr => ?_,
    hswept.outside⟩
  · have hfinal := run_of_ended hended hk
    rw [hrun] at hfinal
    cases hfinal
  · rw [hswept.mem_started]
    refine and_congr_right fun hr => ?_
    rw [hlive r hr, Option.isSome_iff_ne_none, not_not]
  · obtain ⟨c, hc, -⟩ := h'.live (hreach r hr)
    exact ⟨c, hc⟩
  · have hr' : r ∈ left := (hlive r hr).2 (by rw [hc]; rfl)
    obtain ⟨d, hd, -, heq⟩ := h'.live hr'
    cases hc.symm.trans hd
    rw [h'.filter_live hswept]
    exact heq
  · refine ⟨fun hnone hr' => ?_, fun hnot => hswept.gone r hr fun hr' => hnot ?_⟩
    · obtain ⟨c, hc, -⟩ := h'.live (hreach r hr')
      cases hnone.symm.trans hc
    · exact h'.reachable (fun s hs => hacyclic s (hswept.subset hs)) hr'

/-- A client that makes an object and a part of it, and gives its reference to the object back;
two of the object's fields are to hold the part. -/
def makeWhole : Procedure Unit Unit Answer :=
  .ask (.service (.startRuntime none)) fun _ =>
  .ask (.on 0 (.register 10)) fun _ =>
  .ask (.on 0 (.setDestructor 10 (.native (.host ())))) fun _ =>
  .ask (.on 0 (.register 11)) fun _ =>
  .ask (.on 0 (.setDestructor 11 (.native .stock))) fun _ =>
  .ask (.on 0 (.newObject 10 24)) fun _ =>
  .ask (.on 0 (.newObject 11 0)) fun _ =>
  .ask (.on 0 (.retain (some (.object 1)))) fun _ =>
  .ask (.on 0 (.release (some (.object 0)))) fun _ =>
  .done (.ok none)

/-- The part is held twice, and one field is null. -/
def wholeFields : Fields
  | .object 0 => [some (.object 1), none, some (.object 1)]
  | _ => []

def wholeHost : Host Unit Unit (Procedure.Waiting Unit Unit) :=
  Procedure.toHost fun run =>
    .ask (.on 0 (.release (some (.object 1)))) fun _ =>
    .ask (.on 0 (.release (some (.object 1)))) fun _ =>
    .ask (.service (.freeObject (some run.receiver))) fun _ =>
    .done (.ok none)

theorem owns_whole : Owns wholeHost (fun _ => True) 0 wholeFields {.object 0, .object 1}
    (fun r => if r = .object 0 then 1 else 0)
    ((start {} () (makeWhole.toMove ()).2).run wholeHost 16).world where
  counted := by
    refine ⟨_, rfl, fun r hr => ?_⟩
    rcases Finset.mem_insert.1 hr with rfl | hr
    · refine ⟨⟨10, .payload _, 1, false⟩, .native (.host ()), rfl, by decide, by decide, rfl,
        .inr ⟨_, rfl, fun s _ => ?_⟩⟩
      exact .ask trivial fun _ _ => .ask trivial fun _ _ => .ask trivial fun _ _ => .finish trivial
    · obtain rfl := Finset.mem_singleton.1 hr
      exact ⟨⟨11, .payload _, 2, false⟩, .native .stock, rfl, by decide, by decide, rfl,
        .inl ⟨rfl, rfl⟩⟩
  closed := by decide
  rooted r hr := by
    by_cases h : r = .object 0
    · simp [h]
    · simp [h] at hr

theorem release_cascades_whole :
    Owns wholeHost (fun _ => True) 0 wholeFields {.object 0, .object 1}
        (fun r => if r = .object 0 then 1 else 0)
        ((start {} () (makeWhole.toMove ()).2).run wholeHost 16).world ∧
      ((start {} () (makeWhole.toMove ()).2).run wholeHost 16).control =
        .perform (.on 0 (.release (some (.object 0)))) ∧
      ∃ n, (((start {} () (makeWhole.toMove ()).2).run wholeHost 16).run wholeHost n).control =
          .reply (.ok .unit) ∧
        (((start {} () (makeWhole.toMove ()).2).run wholeHost 16).started wholeHost n).Nodup := by
  obtain ⟨n, m', ext', rfl, -, hcontrol, -, -, hnodup, -⟩ :=
    release_cascades wholeHost (fun _ => True) 0 wholeFields {.object 0, .object 1}
      (fun r => if r = .object 0 then 1 else 0)
      ((start {} () (makeWhole.toMove ()).2).run wholeHost 16) (.object 0) owns_whole trivial
      (by decide) rfl
  exact ⟨owns_whole, rfl, n, hcontrol, hnodup⟩

end Moment

end ObjectRuntime
