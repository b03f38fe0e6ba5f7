import Mathlib.Tactic.ByContra
import ObjectRuntime.Proofs.Ledger.Outcome
/-!
# Records and tables under requests

What a request can do to what is on record for one object (`Outcome.lasts`): it stays there, its
count gets larger only if the request reaches it, and its storage is given back only by the last
release or by hand.  What it can do to the member tables (`Outcome.member_cases`): it binds what it
enters in the ledger and nothing else.
-/

namespace ObjectRuntime

variable {κ : Type}

namespace Heap

variable {h : Heap κ} {r o : Ref} {c d : Cell κ}

theorem addCount_keeps (hc : h.cell? r = some c) (hd : h.live? o = some d) (n : Int) :
    ∃ c', (h.addCount o n).cell? r = some c' ∧ c'.released = c.released ∧
      (c.count < c'.count → 0 < n ∧ c.released = false ∧ r = o) := by
  rw [cell?_addCount]
  obtain ⟨hd, hlive⟩ := live?_eq_some_iff.1 hd
  by_cases hr : r = o
  · subst hr
    rw [if_pos rfl, hc]
    refine ⟨_, rfl, rfl, fun hlt => ?_⟩
    dsimp only at hlt
    exact ⟨by omega, Option.some.inj (hc.symm.trans hd) ▸ hlive, rfl⟩
  · exact ⟨c, by rw [if_neg hr, hc], rfl, fun hlt => absurd hlt (by omega)⟩

theorem count_addCount (hc : h.cell? r = some c) (o : Ref) (n : Int) :
    ∃ c', (h.addCount o n).cell? r = some c' ∧ c'.count = c.count + if r = o then n else 0 := by
  rw [cell?_addCount, hc]
  by_cases hr : r = o
  · exact ⟨_, if_pos hr, by rw [if_pos hr]⟩
  · exact ⟨c, if_neg hr, by rw [if_neg hr, Int.add_zero]⟩

theorem release_keeps (hc : h.cell? r = some c) (o : Ref) :
    ∃ c', (h.release (.object o)).cell? r = some c' ∧ (c.released = true → c'.released = true) ∧
      c'.count = c.count := by
  rw [cell?_release_object, hc]
  split
  · exact ⟨_, rfl, fun _ => rfl, rfl⟩
  · exact ⟨c, rfl, id, rfl⟩

end Heap

/-- A relation between an earlier and a later record of an object that is kept when references are
counted and when storage is given back. -/
structure Cell.Lasting (T : Cell κ → Cell κ → Prop) : Prop where
  refl : ∀ c, T c c
  trans : ∀ {c c' c''}, T c c' → T c' c'' → T c c''
  count : ∀ (c : Cell κ) n, T c { c with count := n }
  release : ∀ c : Cell κ, T c { c with released := true }

theorem Cell.Lasting.of_update {T : Cell κ → Cell κ → Prop} (hT : Cell.Lasting T) {h : Heap κ}
    {r : Ref} {c : Cell κ} (hc : h.cell? r = some c) (o : Ref) {f : Cell κ → Cell κ}
    (hf : r = o → T c (f c)) : ∃ c', (h.update o f).cell? r = some c' ∧ T c c' := by
  rw [Heap.cell?_update, hc]
  by_cases hr : r = o
  · exact ⟨f c, by rw [if_pos hr]; rfl, hf hr⟩
  · exact ⟨c, by rw [if_neg hr], hT.refl c⟩

namespace Outcome

variable {w w' : World κ} {request : Request κ} {turn : Turn κ}

/-- **What is on record stays on record, with all that counting keeps**, if writes to it keep it as
well. -/
theorem lasts (h : Outcome w request w' turn) {T : Cell κ → Cell κ → Prop} (hT : Cell.Lasting T)
    {r : Ref} {c : Cell κ} (hc : w.heap.cell? r = some c)
    (hwrite : ∀ start bytes, request = .service (.write r start bytes) →
      T c { c with body := World.writeBody start bytes c.body }) :
    ∃ c', w'.heap.cell? r = some c' ∧ T c c' := by
  have hsame {heap : Heap κ} (heq : heap.cell? r = w.heap.cell? r) :
      ∃ c', heap.cell? r = some c' ∧ T c c' :=
    ⟨c, heq.trans hc, hT.refl c⟩
  have hcount (o : Ref) (n : Int) : ∃ c', (w.heap.addCount o n).cell? r = some c' ∧ T c c' :=
    hT.of_update hc o fun _ => hT.count c _
  cases h with
  | plain hnils hobjects => exact hsame (by cases r <;> simp [Heap.cell?, hnils, hobjects])
  | configured _ _ _ _ hheap | unbound _ _ _ _ _ _ hheap => exact hsame (by rw [hheap])
  | bound _ _ _ _ _ _ _ hheap | taken _ _ _ _ _ _ hheap | method _ _ _ _ hheap
    | released _ _ hheap | destroying _ _ _ _ _ hheap =>
    rw [hheap]
    exact hcount _ _
  | @reclaimed i o _ _ _ _ _ hheap =>
    rw [hheap]
    obtain ⟨c', hc', hcounted⟩ := hcount o (-1)
    obtain ⟨c'', hc'', hreleased⟩ :=
      hT.of_update (f := ({ · with released := true })) hc' o fun _ => hT.release c'
    exact ⟨c'', hc'', hT.trans hcounted hreleased⟩
  | freed _ _ hheap =>
    rw [hheap]
    exact hT.of_update hc _ fun _ => hT.release c
  | made _ _ _ hheap =>
    -- The new object is another one, since it was not on record.
    refine hsame ?_
    rw [hheap, Heap.cell?_addObject, if_neg]
    rintro rfl
    rw [Heap.cell?_nextObject] at hc
    cases hc
  | started _ hheap =>
    refine hsame ?_
    rw [hheap, Heap.cell?_addNil, if_neg]
    rintro rfl
    rw [Heap.cell?_nextNil] at hc
    cases hc
  | recounted _ _ hheap =>
    rw [hheap]
    exact hT.of_update hc _ fun _ => hT.count c _
  | written _ _ hheap =>
    rw [hheap]
    exact hT.of_update hc _ fun hr => hwrite _ _ (by rw [hr])

theorem made_or_nil (h : Outcome w request w' turn) {r : Ref} {c' : Cell κ}
    (hnone : w.heap.cell? r = none) (hc' : w'.heap.cell? r = some c') :
    request.Makes c' ∨ c'.kind = nilKind := by
  have hupdate {heap : Heap κ} (hnone : heap.cell? r = none) (o : Ref) (f : Cell κ → Cell κ) :
      (heap.update o f).cell? r = none := by
    rw [Heap.cell?_update, hnone]
    split <;> rfl
  have habsent {heap : Heap κ} (heap_eq : w'.heap = heap) (h : heap.cell? r = none) : False := by
    rw [heap_eq, h] at hc'
    cases hc'
  cases h with
  | plain hnils hobjects =>
    refine (habsent rfl ?_).elim
    rw [← hnone]
    cases r <;> simp [Heap.cell?, hnils, hobjects]
  | configured _ _ _ _ hheap | unbound _ _ _ _ _ _ hheap => exact (habsent hheap hnone).elim
  | bound _ _ _ _ _ _ _ hheap | taken _ _ _ _ _ _ hheap | method _ _ _ _ hheap
    | released _ _ hheap | destroying _ _ _ _ _ hheap | freed _ _ hheap | recounted _ _ hheap
    | written _ _ hheap => exact (habsent hheap (hupdate hnone _ _)).elim
  | reclaimed _ _ _ hheap => exact (habsent hheap (hupdate (hupdate hnone _ _) _ _)).elim
  | made _ _ _ hheap _ _ hmakes =>
    rw [hheap, Heap.cell?_addObject] at hc'
    split at hc'
    · cases hc'
      exact .inl hmakes
    · rw [hnone] at hc'
      cases hc'
  | started _ hheap =>
    rw [hheap, Heap.cell?_addNil] at hc'
    split at hc'
    · cases hc'
      exact .inr rfl
    · rw [hnone] at hc'
      cases hc'

/-- What is on record stays on record and stays given back, and only what a request reaches gets a
larger count, by a reference that is taken. -/
theorem keeps (h : Outcome w request w' turn) (hset : ∀ r n, request ≠ .service (.setCount r n))
    {r : Ref} {c : Cell κ} (hc : w.heap.cell? r = some c) :
    ∃ c', w'.heap.cell? r = some c' ∧ (c.released = true → c'.released = true) ∧
      (c.count < c'.count → c.released = false ∧ request.Reaches w r ∧
        ∃ cause, ∀ back, request.entries w back turn = [⟨cause, r⟩]) := by
  -- A record stays as it is, or takes part in a reference that is taken or given back.
  have hsame : ∀ {h : Heap κ}, h.cell? r = w.heap.cell? r → ∃ c', h.cell? r = some c' ∧
      (c.released = true → c'.released = true) ∧
      (c.count < c'.count → c.released = false ∧ request.Reaches w r ∧
        ∃ cause, ∀ back, request.entries w back turn = [⟨cause, r⟩]) := fun heq =>
    ⟨c, heq.trans hc, id, fun hlt => absurd hlt (by omega)⟩
  have htaken : ∀ {o d} (cause : Cause), request.Reaches w o → w.heap.live? o = some d →
      (∀ back, request.entries w back turn = [⟨cause, o⟩]) →
      ∃ c', (w.heap.addCount o 1).cell? r = some c' ∧ (c.released = true → c'.released = true) ∧
        (c.count < c'.count → c.released = false ∧ request.Reaches w r ∧
          ∃ cause, ∀ back, request.entries w back turn = [⟨cause, r⟩]) :=
    fun cause hreach hd hentries => by
      obtain ⟨c', hc', hrel, hlt⟩ := Heap.addCount_keeps hc hd 1
      refine ⟨c', hc', fun h => hrel.trans h, fun h => ?_⟩
      obtain ⟨-, hlive, rfl⟩ := hlt h
      exact ⟨hlive, hreach, cause, hentries⟩
  have hgiven : ∀ {o d}, w.heap.live? o = some d →
      ∃ c', (w.heap.addCount o (-1)).cell? r = some c' ∧
        (c.released = true → c'.released = true) ∧ c'.count ≤ c.count := fun hd => by
    obtain ⟨c', hc', hrel, hlt⟩ := Heap.addCount_keeps hc hd (-1)
    exact ⟨c', hc', fun h => hrel.trans h, Int.not_lt.1 fun h => absurd (hlt h).1 (by omega)⟩
  cases h with
  | plain hnils hobjects =>
    exact hsame (by cases r <;> simp [Heap.cell?, hnils, hobjects])
  | configured _ _ _ _ hheap | unbound _ _ _ _ _ _ hheap => exact hsame (by rw [hheap])
  | bound _ _ _ _ _ _ hd hheap =>
    rw [hheap]
    exact htaken .bind rfl hd fun _ => rfl
  | taken cause _ _ _ hreach hd hheap _ hentries =>
    rw [hheap]
    exact htaken cause hreach hd hentries
  | method _ _ hreach hd hheap =>
    rw [hheap]
    exact htaken .methodLookup hreach hd fun _ => rfl
  | released _ hd hheap | destroying _ hd _ _ _ hheap =>
    rw [hheap]
    obtain ⟨c', hc', hrel, hle⟩ := hgiven hd
    exact ⟨c', hc', hrel, fun hlt => absurd hlt (by omega)⟩
  | reclaimed _ hd _ hheap =>
    rw [hheap]
    obtain ⟨c', hc', hrel, hle⟩ := hgiven hd
    obtain ⟨c'', hc'', hrel', hcount⟩ := Heap.release_keeps hc' _
    exact ⟨c'', hc'', fun h => hrel' (hrel h), fun hlt => absurd hlt (by omega)⟩
  | freed _ hd hheap =>
    rw [hheap]
    obtain ⟨c', hc', hrel, hcount⟩ := Heap.release_keeps hc _
    exact ⟨c', hc', hrel, fun hlt => absurd hlt (by omega)⟩
  | made _ _ _ hheap =>
    -- The new object is another one, since it was not on record.
    refine hsame ?_
    rw [hheap, Heap.cell?_addObject, if_neg]
    rintro rfl
    rw [Heap.cell?_nextObject] at hc
    cases hc
  | started _ hheap =>
    refine hsame ?_
    rw [hheap, Heap.cell?_addNil, if_neg]
    rintro rfl
    rw [Heap.cell?_nextNil] at hc
    cases hc
  | recounted => exact absurd rfl (hset _ _)
  | @written o _ _ _ d hd hheap =>
    rw [hheap, Heap.cell?_update, hc]
    split
    · exact ⟨_, rfl, id, fun hlt => absurd hlt (by dsimp only; omega)⟩
    · exact ⟨c, rfl, id, fun hlt => absurd hlt (by omega)⟩

theorem released_cases (h : Outcome w request w' turn) {r : Ref} {c' : Cell κ}
    (hc' : w'.heap.cell? r = some c') (hrel : c'.released = true) :
    (∃ c, w.heap.cell? r = some c ∧ c.released = true) ∨
      ∃ c, w.heap.live? r = some c ∧
        ((c.count = 1 ∧ ∀ back, request.entries w back turn = [⟨back, r⟩]) ∨
          request = .service (.freeObject (some r))) := by
  have hcount : ∀ {h : Heap κ} {o n}, (h.addCount o n).cell? r = some c' →
      ∃ c, h.cell? r = some c ∧ c.released = true := fun hc => by
    rw [Heap.cell?_addCount] at hc
    split at hc
    · obtain ⟨c, hcell, rfl⟩ := Option.map_eq_some_iff.1 hc
      exact ⟨c, hcell, hrel⟩
    · exact ⟨c', hc, hrel⟩
  cases h with
  | plain hnils hobjects =>
    refine .inl ⟨c', ?_, hrel⟩
    rw [← hc']
    cases r <;> simp [Heap.cell?, hnils, hobjects]
  | configured _ _ _ _ hheap | unbound _ _ _ _ _ _ hheap => exact .inl ⟨c', hheap ▸ hc', hrel⟩
  | bound _ _ _ _ _ _ _ hheap | taken _ _ _ _ _ _ hheap | method _ _ _ _ hheap
    | released _ _ hheap | destroying _ _ _ _ _ hheap => exact .inl (hcount (hheap ▸ hc'))
  | @reclaimed i o _ _ d hd hone hheap =>
    rw [hheap, Heap.cell?_release_object] at hc'
    split at hc'
    next hr => exact .inr ⟨d, hr ▸ hd, .inl ⟨hone, fun _ => hr ▸ rfl⟩⟩
    · exact .inl (hcount hc')
  | @freed o _ d hd hheap =>
    rw [hheap, Heap.cell?_release_object] at hc'
    split at hc'
    next hr => exact .inr ⟨d, hr ▸ hd, .inr (hr ▸ rfl)⟩
    · exact .inl ⟨c', hc', hrel⟩
  | made d _ hlive hheap =>
    rw [hheap, Heap.cell?_addObject] at hc'
    split at hc'
    · cases hc'
      rw [hlive] at hrel
      cases hrel
    · exact .inl ⟨c', hc', hrel⟩
  | started _ hheap =>
    rw [hheap, Heap.cell?_addNil] at hc'
    split at hc'
    · cases hc'
      cases hrel
    · exact .inl ⟨c', hc', hrel⟩
  | recounted _ _ hheap | written _ _ hheap =>
    rw [hheap, Heap.cell?_update] at hc'
    split at hc'
    · obtain ⟨c, hc, rfl⟩ := Option.map_eq_some_iff.1 hc'
      exact .inl ⟨c, hc, hrel⟩
    · exact .inl ⟨c', hc', hrel⟩

theorem live_of_bound (h : Outcome w request w' turn) {back : Cause} (hback : back ≠ .bind)
    {r : Ref} (hr : 0 < (request.entries w back turn).bound r) : ∃ c, w.heap.live? r = some c := by
  have hone : ∀ {cause o}, 0 < Ledger.bound [⟨cause, o⟩] r → cause = .bind ∧ o = r :=
    fun hr => by
      by_contra hn
      simp [Ledger.bound, Ledger.tally_cons, hn] at hr
  cases h with
  | plain _ _ _ hentries | configured _ _ _ _ _ _ hentries | made _ _ _ _ _ hentries
    | started _ _ _ hentries =>
    rw [hentries] at hr
    exact absurd hr (Nat.lt_irrefl 0)
  | unbound | freed | recounted | written => exact absurd hr (Nat.lt_irrefl 0)
  | bound _ _ _ c _ _ hc => exact ⟨c, (hone hr).2 ▸ hc⟩
  | taken _ _ c _ _ hc _ _ hentries =>
    rw [hentries] at hr
    exact ⟨c, (hone hr).2 ▸ hc⟩
  | method => cases (hone hr).1
  | released | reclaimed | destroying => exact absurd (hone hr).1 hback

theorem size_nils (h : Outcome w request w' turn) (hw : w.heap.nils.size = w.runtimes.size) :
    w'.heap.nils.size = w'.runtimes.size := by
  cases h with
  | plain hnils _ hruntimes => rw [hnils, hruntimes, hw]
  | started _ hheap hruntimes => simp [hheap, hruntimes, Heap.addNil, hw]
  | configured _ _ _ _ hheap hruntimes _ | unbound _ _ _ _ _ _ hheap hruntimes
    | bound _ _ _ _ _ _ _ hheap hruntimes =>
    simp [hheap, hruntimes, Heap.addCount, World.setRegistry, hw]
  | taken _ _ _ _ _ _ hheap hruntimes _ | method _ _ _ _ hheap hruntimes
    | released _ _ hheap hruntimes | reclaimed _ _ _ hheap hruntimes
    | destroying _ _ _ _ _ hheap hruntimes | made _ _ _ hheap hruntimes _
    | freed _ _ hheap hruntimes | recounted _ _ hheap hruntimes | written _ _ hheap hruntimes =>
    simp [hheap, hruntimes, Heap.addCount, Heap.release, Heap.addObject, hw]

theorem size_runtimes_le (h : Outcome w request w' turn) :
    w.runtimes.size ≤ w'.runtimes.size := by
  cases h with
  | started _ _ hruntimes => simp [hruntimes]
  | configured _ _ _ _ _ hruntimes | unbound _ _ _ _ _ _ _ hruntimes
    | bound _ _ _ _ _ _ _ _ hruntimes => simp [hruntimes, World.setRegistry]
  | plain _ _ hruntimes | taken _ _ _ _ _ _ _ hruntimes | method _ _ _ _ _ hruntimes
    | released _ _ _ hruntimes | reclaimed _ _ _ _ hruntimes | destroying _ _ _ _ _ _ hruntimes
    | made _ _ _ _ hruntimes | freed _ _ _ hruntimes | recounted _ _ _ hruntimes
    | written _ _ _ hruntimes => exact Nat.le_of_eq (by rw [hruntimes])

theorem member_cases (h : Outcome w request w' turn) {i : RuntimeId} {rt' : Runtime κ}
    (hrt : w'.runtimes[i]? = some rt') {kind : KindId} {name : String} {r : Ref}
    (hr : rt'.registry.member kind name = .ok r) :
    (∃ rt, w.runtimes[i]? = some rt ∧ rt.registry.member kind name = .ok r) ∨
      (∀ back, 0 < (request.entries w back turn).bound r) ∨
      w.heap.live? r = none ∧ turn = .halt .fault ∧
        ∃ i kind name, request = .on i (.setMember kind name (some r)) := by
  cases h with
  | configured rt g hold hmembers _ hruntimes =>
    rw [hruntimes] at hrt
    rcases w.runtimes_setRegistry hrt with ⟨hi, rfl⟩ | hrt
    · exact .inl ⟨rt, hi ▸ hold, hmembers _ _ _ hr⟩
    · exact .inl ⟨rt', hrt, hr⟩
  | bound rt g _ _ hold hg _ _ hruntimes =>
    rw [hruntimes] at hrt
    rcases w.runtimes_setRegistry hrt with ⟨hi, rfl⟩ | hrt
    · rcases Registry.member_of_setMember hg hr with hr | rfl
      · exact .inl ⟨rt, hi ▸ hold, hr⟩
      · exact .inr (.inl fun _ => by simp [Request.entries, Ledger.bound, Ledger.tally_cons])
    · exact .inl ⟨rt', hrt, hr⟩
  | unbound rt g _ hold hg hdead _ hruntimes =>
    rw [hruntimes] at hrt
    rcases w.runtimes_setRegistry hrt with ⟨hi, rfl⟩ | hrt
    · rcases Registry.member_of_setMember hg hr with hr | rfl
      · exact .inl ⟨rt, hi ▸ hold, hr⟩
      · exact .inr (.inr ⟨hdead, rfl, _, _, _, rfl⟩)
    · exact .inl ⟨rt', hrt, hr⟩
  | started _ _ hruntimes =>
    rw [hruntimes, Array.getElem?_push] at hrt
    split at hrt
    · cases hrt
      exact absurd hr (Registry.member_builtin _ _ _)
    · exact .inl ⟨rt', hrt, hr⟩
  | plain _ _ hruntimes | taken _ _ _ _ _ _ _ hruntimes | method _ _ _ _ _ hruntimes
    | released _ _ _ hruntimes | reclaimed _ _ _ _ hruntimes | destroying _ _ _ _ _ _ hruntimes
    | made _ _ _ _ hruntimes | freed _ _ _ hruntimes | recounted _ _ _ hruntimes
    | written _ _ _ hruntimes => exact .inl ⟨rt', hruntimes ▸ hrt, hr⟩

end Outcome

theorem Moment.size_runtimes_le {σ φ : Type} (host : Host κ σ φ) (m : Moment κ σ φ) (n : Nat) :
    m.world.runtimes.size ≤ (m.run host n).world.runtimes.size := by
  induction n with
  | zero => exact Nat.le_refl _
  | succ n ih =>
    refine Nat.le_trans ih ?_
    rw [run_succ]
    generalize m.run host n = m
    by_cases hperform : ∃ request, m.control = .perform request
    · obtain ⟨request, hcontrol⟩ := hperform
      rw [world_step_perform host hcontrol]
      exact (m.world.perform_outcome request).size_runtimes_le
    · exact Nat.le_of_eq (by rw [(step_frame host fun request h => hperform ⟨request, h⟩).2])

end ObjectRuntime
