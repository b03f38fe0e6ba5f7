import ObjectRuntime.Proofs.Congruence
/-!
# Worlds in which operations go the same way

What an operation does depends on the objects, on the runtimes and on whether storage is served;
what was reported so far and what the allocator counted makes no difference (`Twin.perform`).
-/

namespace ObjectRuntime

variable {κ : Type}

namespace World

/-- Two worlds with the same objects, the same runtimes and the same memoryless pair, where the
shared runtime of the second is its first. -/
structure Twin (w v : World κ) : Prop where
  heap : v.heap = w.heap
  runtimes : v.runtimes = w.runtimes
  installed : v.allocator.installed = w.allocator.installed
  memoryless : w.allocator.installed.Memoryless
  shared : v.shared = some 0

theorem allocate_snd_congr {w v : World κ}
    (hinstalled : v.allocator.installed = w.allocator.installed)
    (hmemoryless : w.allocator.installed.Memoryless) (size : UInt64) (a b : Address) :
    (v.allocate size b).2 = (w.allocate size a).2 := by
  obtain ⟨_, hw⟩ := w.allocate_eq size a
  obtain ⟨_, hv⟩ := v.allocate_eq size b
  rw [hw, hv]
  exact Allocator.allocate_snd_congr hinstalled hmemoryless size

@[simp] theorem installed_allocate (w : World κ) (size : UInt64) (a : Address) :
    (w.allocate size a).1.allocator.installed = w.allocator.installed := by
  have h := w.allocator.installed_allocate size
  unfold allocate
  split <;> simp_all [emit]

theorem Twin.congruence : Congruence (Twin (κ := κ)) where
  heap h := h.heap
  emit h _ := ⟨h.heap, h.runtimes, h.installed, h.memoryless, h.shared⟩
  setHeap h _ := ⟨rfl, h.runtimes, h.installed, h.memoryless, h.shared⟩
  setRegistry h i g :=
    ⟨h.heap, by simp only [setRegistry, h.runtimes], h.installed, h.memoryless, h.shared⟩
  allocate {w v} h size a := by
    refine ⟨?_, allocate_snd_congr h.installed h.memoryless size a a⟩
    obtain ⟨_, _, hw⟩ := w.allocate_frame size a
    obtain ⟨_, _, hv⟩ := v.allocate_frame size a
    refine ⟨?_, ?_, ?_, ?_, ?_⟩
    · rw [hw, hv]
      exact h.heap
    · rw [hw, hv]
      exact h.runtimes
    · rw [installed_allocate, installed_allocate, h.installed]
    · rw [installed_allocate]
      exact h.memoryless
    · rw [hv]
      exact h.shared
  reclaim h := ⟨h.heap, h.runtimes, h.installed, h.memoryless, h.shared⟩

theorem Twin.createFunction {w v : World κ} (h : w.Twin v) (code : κ) :
    Agree Twin (w.createFunction code) (v.createFunction code) :=
  congruence.createFunction h code

/-- **An operation goes the same way in twins.** -/
theorem Twin.perform {w v : World κ} (h : w.Twin v) (i : RuntimeId) (op : Operation κ) :
    Agree Twin (w.perform (.on i op)) (v.perform (.on i op)) := by
  simp only [World.perform, h.runtimes]
  split
  · exact congruence.operate h i rfl op fun callee args _ =>
      congruence.apply h i callee args (fun _ _ => rfl) fun _ _ _ => rfl
  · exact ⟨h, rfl⟩

theorem perform_next {w : World κ} {i : RuntimeId} {op : Operation κ} {request : Request κ}
    {p : Pending κ} (h : (w.perform (.on i op)).2 = .next request p) :
    (∃ op, request = .on i op) ∧ ∃ method, p = .releaseMethod i method := by
  simp only [perform] at h
  split at h
  · obtain ⟨_, _, _, method, -, hrequest, hp⟩ := operate_next h
    exact ⟨⟨_, hrequest⟩, method, hp⟩
  · cases h

end World

end ObjectRuntime
