import ObjectRuntime.Request
/-!
# Lifetimes

An object lives as long as its count says.  The `release` that takes the count from one to zero
runs the destructor of the object's kind (`destroy`); one that takes it below zero is reported and
does nothing else.
-/

namespace ObjectRuntime.World

variable {κ : Type}

/-- Runs the destructor of an object with no references left, in a runtime with this registry. -/
def destroy (w : World κ) (i : RuntimeId) (registry : Registry κ) (r : Ref) (kind : KindId) :
    World κ × Turn κ :=
  match registry.destructor kind with
  | .error e => (w, .done (.error e))
  | .ok slot =>
    let w := w.emit (.objectDestroy kind r)
    match slot with
    | .empty => (w, .done (.ok .unit))
    | .native .stock =>
      match w.freeObject r with
      | some w => (w, .done (.ok .unit))
      | none => (w, .halt .fault)
    | .native (.host code) => (w, .enter { code, role := .nativeDestructor, receiver := r })
    | .closure code => (w, .enter { code, role := .closureDestructor i, receiver := r })

/-- Takes one from the count of an object, and destroys it if that was the last reference. -/
def release (w : World κ) (i : RuntimeId) (registry : Registry κ) (r : Ref) : World κ × Turn κ :=
  match w.heap.live? r with
  | none => (w, .halt .fault)
  | some cell =>
    let count := cell.count - 1
    let w := { w with heap := w.heap.addCount r (-1) }
    if 0 < count then (w, .done (.ok .unit))
    else if count < 0 then (w, .done (.error (.countUnderflow cell.kind count)))
    else w.destroy i registry r cell.kind

/-! ## How a release goes on -/

theorem release_of_one_lt {w : World κ} {i : RuntimeId} {g : Registry κ} {r : Ref} {c : Cell κ}
    (hc : w.heap.live? r = some c) (hcount : 1 < c.count) :
    w.release i g r = ({ w with heap := w.heap.addCount r (-1) }, .done (.ok .unit)) := by
  simp only [release, hc]
  rw [if_pos (by omega)]

/-- A release that finds no reference is reported, and takes one from the count all the same. -/
theorem release_of_le_zero {w : World κ} {i : RuntimeId} {g : Registry κ} {r : Ref} {c : Cell κ}
    (hc : w.heap.live? r = some c) (hcount : c.count ≤ 0) :
    w.release i g r = ({ w with heap := w.heap.addCount r (-1) },
      .done (.error (.countUnderflow c.kind (c.count - 1)))) := by
  simp only [release, hc]
  rw [if_neg (by omega), if_pos (by omega)]

theorem release_of_eq_one {w : World κ} {i : RuntimeId} {g : Registry κ} {r : Ref} {c : Cell κ}
    (hc : w.heap.live? r = some c) (hcount : c.count = 1) :
    w.release i g r =
      ({ w with heap := w.heap.addCount r (-1) } : World κ).destroy i g r c.kind := by
  simp only [release, hc, hcount]
  rfl

theorem destroy_cases (w : World κ) (i : RuntimeId) (registry : Registry κ) (r : Ref)
    (kind : KindId) {c : Cell κ} (hc : w.heap.live? r = some c) :
    ((∃ reply, (w.destroy i registry r kind).2 = .done reply) ∧
        ((w.destroy i registry r kind).1.heap = w.heap ∨
          (w.destroy i registry r kind).1.heap = w.heap.release (.object r))) ∨
      ∃ run, (w.destroy i registry r kind).2 = .enter run ∧ run.role.isDestructor = true ∧
        run.receiver = r ∧ (w.destroy i registry r kind).1.heap = w.heap := by
  unfold destroy
  split
  · exact .inl ⟨⟨_, rfl⟩, .inl rfl⟩
  · dsimp only
    split
    · exact .inl ⟨⟨_, rfl⟩, .inl rfl⟩
    · simp only [freeObject, heap_emit, hc, Option.map_some]
      exact .inl ⟨⟨_, rfl⟩, .inr rfl⟩
    · exact .inr ⟨_, rfl, rfl, rfl, rfl⟩
    · exact .inr ⟨_, rfl, rfl, rfl, rfl⟩

@[simp] theorem runtimes_release (w : World κ) (i : RuntimeId) (registry : Registry κ) (r : Ref) :
    (w.release i registry r).1.runtimes = w.runtimes := by
  have hdestroy (w : World κ) (kind : KindId) :
      (w.destroy i registry r kind).1.runtimes = w.runtimes := by
    unfold destroy
    split
    · rfl
    · dsimp only
      split
      · rfl
      · cases h : (w.emit (.objectDestroy kind r)).freeObject r with
        | none => rfl
        | some w' =>
          obtain ⟨c, -, rfl⟩ := freeObject_eq_some_iff.1 h
          rfl
      · rfl
      · rfl
  unfold release
  split
  · rfl
  · dsimp only
    split
    · rfl
    · split
      · rfl
      · rw [hdestroy]

/-- A release of an object in use takes one from its count.  It is done, and may have given the
storage back if the count was 1, or it enters a destructor of the object, in which case the count
was 1. -/
theorem release_cases (w : World κ) (i : RuntimeId) (registry : Registry κ) (r : Ref) {c : Cell κ}
    (hc : w.heap.live? r = some c) :
    ((∃ reply, (w.release i registry r).2 = .done reply) ∧
        ((w.release i registry r).1.heap = w.heap.addCount r (-1) ∨
          c.count = 1 ∧
            (w.release i registry r).1.heap = (w.heap.addCount r (-1)).release (.object r))) ∨
      ∃ run, (w.release i registry r).2 = .enter run ∧ run.role.isDestructor = true ∧
        run.receiver = r ∧ c.count = 1 ∧
        (w.release i registry r).1.heap = w.heap.addCount r (-1) := by
  simp only [release, hc]
  split
  · exact .inl ⟨⟨_, rfl⟩, .inl rfl⟩
  · split
    · exact .inl ⟨⟨_, rfl⟩, .inl rfl⟩
    · have hone : c.count = 1 := by omega
      rcases destroy_cases { w with heap := w.heap.addCount r (-1) } i registry r c.kind
        (Heap.live?_addCount hc (-1)) with
        ⟨hdone, hheap | hheap⟩ | ⟨run, hrun, hrole, hr, hheap⟩
      · exact .inl ⟨hdone, .inl hheap⟩
      · exact .inl ⟨hdone, .inr ⟨hone, hheap⟩⟩
      · exact .inr ⟨run, hrun, hrole, hr, hone, hheap⟩

end ObjectRuntime.World
