import ObjectRuntime.Proofs.Ledger.Outcome
/-!
# Counts of objects in use under requests

Where the count of an object in use comes from (`Outcome.origin`), and what becomes of it
(`Outcome.stays`): only a release makes it smaller, by one, and only a release or a free takes the
object out of use.
-/

namespace ObjectRuntime

variable {κ : Type}

namespace Heap

variable {h : Heap κ} {r o : Ref} {c c' : Cell κ}

theorem live?_update (h : Heap κ) (r o : Ref) (f : Cell κ → Cell κ)
    (hf : ∀ c, (f c).released = c.released) :
    (h.update o f).live? r = if r = o then (h.live? r).map f else h.live? r := by
  rw [live?, cell?_update]
  split
  · rw [live?]
    cases h.cell? r with
    | none => rfl
    | some c =>
      rw [Option.map_some, Option.filter_some, Option.filter_some, hf]
      cases c.released <;> rfl
  · rfl

theorem live?_addCount_eq (h : Heap κ) (r o : Ref) (n : Int) :
    (h.addCount o n).live? r =
      if r = o then (h.live? r).map fun c => { c with count := c.count + n } else h.live? r :=
  h.live?_update r o (fun c => { c with count := c.count + n }) fun _ => rfl

theorem count_of_addCount {n : Int} (hc' : (h.addCount o n).live? r = some c') :
    ∃ c, h.live? r = some c ∧ c'.count = c.count + if r = o then n else 0 := by
  rw [live?_addCount_eq] at hc'
  split at hc'
  next hr =>
    obtain ⟨c, hc, rfl⟩ := Option.map_eq_some_iff.1 hc'
    exact ⟨c, hc, by rw [if_pos hr]⟩
  next hr => exact ⟨c', hc', by rw [if_neg hr, Int.add_zero]⟩

theorem live_addCount (hc : h.live? r = some c) (o : Ref) (n : Int) :
    ∃ c', (h.addCount o n).live? r = some c' ∧ c'.count = c.count + if r = o then n else 0 := by
  rw [live?_addCount_eq, hc]
  by_cases hr : r = o
  · exact ⟨_, if_pos hr, by rw [if_pos hr]⟩
  · exact ⟨c, if_neg hr, by rw [if_neg hr, Int.add_zero]⟩

theorem live?_release (h : Heap κ) (r o : Ref) :
    (h.release (.object o)).live? r = if r = o then none else h.live? r := by
  by_cases hr : r = o
  · rw [if_pos hr, hr, live?_release_object]
  · rw [if_neg hr, live?, cell?_release_object, if_neg hr, live?]

theorem live?_of_new {h' : Heap κ} {o : Ref}
    (hcell : ∀ r, h'.cell? r = if r = o then some c else h.cell? r) (hlive : c.released = false) :
    h'.live? r = if r = o then some c else h.live? r := by
  rw [live?, hcell]
  by_cases hr : r = o
  · rw [if_pos hr, if_pos hr, Option.filter_some, hlive]
    rfl
  · rw [if_neg hr, if_neg hr, live?]

theorem ne_of_live? (ho : h.cell? o = none) (hc : h.live? r = some c) : r ≠ o := by
  rintro rfl
  rw [live?, ho] at hc
  cases hc

end Heap

namespace Outcome

variable {w w' : World κ} {request : Request κ} {turn : Turn κ} {r : Ref} {c c' : Cell κ}

/-- **Where a count comes from.**  An object in use is new, with a count of 1, or was in use before
with no larger count, or a reference to it was just given back. -/
theorem origin (h : Outcome w request w' turn) (hset : ∀ r n, request ≠ .service (.setCount r n))
    (hc' : w'.heap.live? r = some c') :
    (w.heap.live? r = none ∧ c'.count = 1) ∨ ∃ c, w.heap.live? r = some c ∧
      (c.count ≤ c'.count ∨
        (∃ i, request = .on i (.release (some r))) ∧ c'.count = c.count - 1) := by
  have hnew {o : Ref} (ho : w.heap.cell? o = none) : w.heap.live? o = none := by
    rw [Heap.live?, ho]
    rfl
  have hsame (hheap : w'.heap.live? r = w.heap.live? r) : ∃ c, w.heap.live? r = some c ∧
      (c.count ≤ c'.count ∨
        (∃ i, request = .on i (.release (some r))) ∧ c'.count = c.count - 1) :=
    ⟨c', hheap.symm.trans hc', .inl (Int.le_refl _)⟩
  have htaken {o : Ref} (hheap : w'.heap = w.heap.addCount o 1) :
      ∃ c, w.heap.live? r = some c ∧ (c.count ≤ c'.count ∨
        (∃ i, request = .on i (.release (some r))) ∧ c'.count = c.count - 1) := by
    obtain ⟨c, hc, hcount⟩ := Heap.count_of_addCount (hheap ▸ hc')
    exact ⟨c, hc, .inl (by split at hcount <;> omega)⟩
  have hgiven {o : Ref} {i : RuntimeId} {v : Heap κ}
      (hrequest : request = .on i (.release (some o))) (hlive : v.live? r = some c')
      (hheap : v = w.heap.addCount o (-1)) :
      ∃ c, w.heap.live? r = some c ∧ (c.count ≤ c'.count ∨
        (∃ i, request = .on i (.release (some r))) ∧ c'.count = c.count - 1) := by
    obtain ⟨c, hc, hcount⟩ := Heap.count_of_addCount (hheap ▸ hlive)
    refine ⟨c, hc, ?_⟩
    split at hcount
    next hr => exact .inr ⟨⟨i, hr ▸ hrequest⟩, by omega⟩
    · exact .inl (by omega)
  cases h with
  | plain hnils hobjects =>
    refine .inr (hsame ?_)
    cases r <;> simp [Heap.live?, Heap.cell?, hnils, hobjects]
  | configured _ _ _ _ hheap | unbound _ _ _ _ _ _ hheap => exact .inr (hsame (by rw [hheap]))
  | bound _ _ _ _ _ _ _ hheap | taken _ _ _ _ _ _ hheap | method _ _ _ _ hheap =>
    exact .inr (htaken hheap)
  | released _ _ hheap | destroying _ _ _ _ _ hheap => exact .inr (hgiven rfl hc' hheap)
  | reclaimed _ _ _ hheap =>
    rw [hheap, Heap.live?_release] at hc'
    split at hc'
    · cases hc'
    · exact .inr (hgiven rfl hc' rfl)
  | made d hone hlive hheap =>
    rw [hheap, Heap.live?_of_new (w.heap.cell?_addObject d) hlive] at hc'
    split at hc'
    next hr =>
      cases hc'
      exact .inl ⟨hr ▸ hnew w.heap.cell?_nextObject, hone⟩
    · exact .inr ⟨c', hc', .inl (Int.le_refl _)⟩
  | started _ hheap =>
    rw [hheap, Heap.live?_of_new (w.heap.cell?_addNil _) rfl] at hc'
    split at hc'
    next hr =>
      cases hc'
      exact .inl ⟨hr ▸ hnew w.heap.cell?_nextNil, rfl⟩
    · exact .inr ⟨c', hc', .inl (Int.le_refl _)⟩
  | freed _ _ hheap =>
    rw [hheap, Heap.live?_release] at hc'
    split at hc'
    · cases hc'
    · exact .inr ⟨c', hc', .inl (Int.le_refl _)⟩
  | recounted => exact absurd rfl (hset _ _)
  | written _ _ hheap =>
    rw [hheap, Heap.live?_update] at hc'
    case hf => exact fun _ => rfl
    split at hc'
    · obtain ⟨c, hc, rfl⟩ := Option.map_eq_some_iff.1 hc'
      exact .inr ⟨c, hc, .inl (Int.le_refl _)⟩
    · exact .inr ⟨c', hc', .inl (Int.le_refl _)⟩

/-- **What becomes of a count.**  An object in use stays in use, with no smaller count, unless the
request releases or frees it. -/
theorem stays (h : Outcome w request w' turn) (hset : ∀ n, request ≠ .service (.setCount r n))
    (hrelease : ∀ i, request ≠ .on i (.release (some r)))
    (hfree : request ≠ .service (.freeObject (some r))) (hc : w.heap.live? r = some c) :
    ∃ c', w'.heap.live? r = some c' ∧ c.count ≤ c'.count := by
  have hcounted {v : Heap κ} {o : Ref} {n : Int} (hheap : v = w.heap.addCount o n)
      (hn : r = o → 0 ≤ n) : ∃ c', v.live? r = some c' ∧ c.count ≤ c'.count := by
    obtain ⟨c', hc', hcount⟩ := Heap.live_addCount hc o n
    refine ⟨c', hheap ▸ hc', ?_⟩
    split at hcount
    next hr => have := hn hr; omega
    · omega
  cases h with
  | plain hnils hobjects =>
    refine ⟨c, ?_, Int.le_refl _⟩
    rw [← hc]
    cases r <;> simp [Heap.live?, Heap.cell?, hnils, hobjects]
  | configured _ _ _ _ hheap | unbound _ _ _ _ _ _ hheap =>
    exact ⟨c, hheap ▸ hc, Int.le_refl _⟩
  | bound _ _ _ _ _ _ _ hheap | taken _ _ _ _ _ _ hheap | method _ _ _ _ hheap =>
    exact hcounted hheap fun _ => by omega
  | @released i o _ _ _ _ hheap | @destroying i o _ _ _ _ _ _ _ hheap =>
    refine hcounted hheap ?_
    rintro rfl
    exact absurd rfl (hrelease i)
  | @reclaimed i o _ _ _ _ _ hheap =>
    have hr : r ≠ o := by
      rintro rfl
      exact hrelease i rfl
    rw [hheap, Heap.live?_release, if_neg hr]
    exact hcounted rfl fun h => absurd h hr
  | made d _ hlive hheap =>
    refine ⟨c, ?_, Int.le_refl _⟩
    rw [hheap, Heap.live?_of_new (w.heap.cell?_addObject d) hlive,
      if_neg (Heap.ne_of_live? w.heap.cell?_nextObject hc), hc]
  | started _ hheap =>
    refine ⟨c, ?_, Int.le_refl _⟩
    rw [hheap, Heap.live?_of_new (w.heap.cell?_addNil _) rfl,
      if_neg (Heap.ne_of_live? w.heap.cell?_nextNil hc), hc]
  | @freed o _ _ _ hheap =>
    have hr : r ≠ o := by
      rintro rfl
      exact hfree rfl
    exact ⟨c, by rw [hheap, Heap.live?_release, if_neg hr, hc], Int.le_refl _⟩
  | @recounted o n _ _ _ hheap =>
    have hr : r ≠ o := by
      rintro rfl
      exact hset n rfl
    refine ⟨c, ?_, Int.le_refl _⟩
    rw [hheap, Heap.live?_update, if_neg hr, hc]
    exact fun _ => rfl
  | written _ _ hheap =>
    rw [hheap, Heap.live?_update, hc]
    case hf => exact fun _ => rfl
    split
    · exact ⟨_, rfl, Int.le_refl _⟩
    · exact ⟨c, rfl, Int.le_refl _⟩

end Outcome

end ObjectRuntime
