import ObjectRuntime.Proofs.SharedRuntime
/-!
# What operations leave alone

Operations of a runtime work on objects, on its registry and on storage.  The handles that hosts
hold, which runtimes there are, with which caps, which of them is shared, and the settings are not
their business: worlds that are equal and have these, and so are `Undisturbed`, are related by a
congruence.
-/

namespace ObjectRuntime

variable {κ : Type}

/-- Whether a request starts a runtime, if there is storage for its nil. -/
def Request.starts (w : World κ) : Request κ → Bool
  | .service (.startRuntime _) => true
  | .service .sharedRuntime => w.shared.isNone
  | .foreign call => call.needsRuntime && w.shared.isNone
  | _ => false

namespace World

/-- The handles, the runtimes with their caps, the shared runtime and the settings are the same. -/
structure Undisturbed (w v : World κ) : Prop where
  handles : v.handles = w.handles
  caps : v.runtimes.map (·.cap) = w.runtimes.map (·.cap)
  shared : v.shared = w.shared
  settings : v.settings = w.settings

namespace Undisturbed

variable {w v u : World κ}

theorem refl (w : World κ) : w.Undisturbed w := ⟨rfl, rfl, rfl, rfl⟩

theorem trans (h : w.Undisturbed v) (h' : v.Undisturbed u) : w.Undisturbed u :=
  ⟨h'.handles.trans h.handles, h'.caps.trans h.caps, h'.shared.trans h.shared,
    h'.settings.trans h.settings⟩

theorem size_runtimes (h : w.Undisturbed v) : v.runtimes.size = w.runtimes.size := by
  simpa using congrArg Array.size h.caps

theorem of_journalAside (h : w.JournalAside v) : w.Undisturbed v := by
  obtain ⟨journal, rfl⟩ := h
  exact ⟨rfl, rfl, rfl, rfl⟩

theorem setRegistry (w : World κ) (i : RuntimeId) (g : Registry κ) :
    w.Undisturbed (w.setRegistry i g) := by
  refine ⟨rfl, Array.ext_getElem? fun j => ?_, rfl, rfl⟩
  simp only [World.setRegistry, Array.getElem?_map, Array.getElem?_modify]
  split
  · cases w.runtimes[j]? <;> rfl
  · rfl

private theorem congruence (u : World κ) :
    Congruence fun w v : World κ => v = w ∧ u.Undisturbed w where
  heap := by rintro w v ⟨rfl, -⟩; rfl
  emit := by rintro w v ⟨rfl, h⟩ e; exact ⟨rfl, h.trans ⟨rfl, rfl, rfl, rfl⟩⟩
  setHeap := by rintro w v ⟨rfl, h⟩ heap; exact ⟨rfl, h.trans ⟨rfl, rfl, rfl, rfl⟩⟩
  setRegistry := by rintro w v ⟨rfl, h⟩ i g; exact ⟨rfl, h.trans (setRegistry v i g)⟩
  allocate := by
    rintro w v ⟨rfl, h⟩ size a
    obtain ⟨_, _, hw⟩ := v.allocate_frame size a
    refine ⟨⟨rfl, ?_⟩, rfl⟩
    rw [hw]
    exact h.trans ⟨rfl, rfl, rfl, rfl⟩
  reclaim := by rintro w v ⟨rfl, h⟩; exact ⟨rfl, h.trans ⟨rfl, rfl, rfl, rfl⟩⟩

theorem operate (w : World κ) (i : RuntimeId) (rt : Runtime κ) (op : Operation κ) :
    w.Undisturbed (w.operate i rt op).1 :=
  ((congruence w).operate ⟨rfl, refl w⟩ i rfl op fun callee args _ =>
    (congruence w).apply ⟨rfl, refl w⟩ i callee args (fun _ _ => rfl) fun _ _ _ => rfl).1.2

theorem amend (w : World κ) (r : Ref) (f : Cell κ → Cell κ) : w.Undisturbed (w.amend r f).1 := by
  unfold World.amend
  cases w.heap.live? r <;> exact ⟨rfl, rfl, rfl, rfl⟩

theorem inspect (w : World κ) (r : Ref) (f : Cell κ → Value κ) :
    w.Undisturbed (w.inspect r f).1 := by
  unfold World.inspect
  cases w.heap.live? r <;> exact refl w

theorem serve (w : World κ) (service : Service κ)
    (h : (Request.service service).starts w = false) : w.Undisturbed (w.serve service).1 := by
  have hsame : w = w ∧ w.Undisturbed w := ⟨rfl, refl w⟩
  cases service with
  | startRuntime => cases h
  | sharedRuntime =>
    cases hs : w.shared with
    | none => simp [Request.starts, hs] at h
    | some i =>
      simp only [World.serve, sharedRuntime_of_some hs]
      exact refl w
  | createObject kind payload => exact ((congruence w).createObject hsame kind payload).1.2
  | createFunction code => exact ((congruence w).createFunction hsame code).1.2
  | freeObject object =>
    cases object with
    | none => exact refl w
    | some r =>
      exact (Congruence.orFault_done hsame ((congruence w).freeObject hsame r) (.ok .unit)).1.2
  | allocate size =>
    obtain ⟨journal, hw⟩ := w.allocate_eq size (.block w.heap.nextBlock)
    simp only [World.serve, allocateBlock, hw]
    cases (w.allocator.allocate size).2 <;> exact ⟨rfl, rfl, rfl, rfl⟩
  | freeBlock block =>
    cases block with
    | none => exact refl w
    | some b =>
      simp only [World.serve, freeBlock]
      split <;> exact ⟨rfl, rfl, rfl, rfl⟩
  | count r | kind r | payload r => exact inspect w r _
  | setCount r n | write r start bytes => exact amend w r _
  | requireRuntime | install | installed | traffic | startLogging | startLoggingWith | stopLogging
    | loggingStarted | fatal | isReleased => exact ⟨rfl, rfl, rfl, rfl⟩

/-- **Only the start of a runtime and the operations on handles** have to do with any of it. -/
theorem perform (w : World κ) {request : Request κ} (hhandle : ∀ op, request ≠ .handle op)
    (h : request.starts w = false) : w.Undisturbed (w.perform request).1 := by
  cases request with
  | on i op =>
    cases hrt : w.runtimes[i]? with
    | some rt =>
      rw [perform_on hrt]
      exact operate w i rt op
    | none =>
      rw [perform_on_none hrt]
      exact refl w
  | query i query =>
    simp only [World.perform]
    split <;> exact refl w
  | handle op => exact absurd rfl (hhandle op)
  | foreign call =>
    have hcall := w.journalAside_call call
    cases hneeds : call.needsRuntime with
    | false =>
      rw [hneeds] at hcall
      exact of_journalAside hcall
    | true =>
      cases hs : w.shared with
      | none => simp [Request.starts, hneeds, hs] at h
      | some i =>
        rw [hneeds, if_pos rfl, sharedRuntime_of_some hs] at hcall
        exact of_journalAside hcall
  | service service => exact serve w service h

end Undisturbed

end World

end ObjectRuntime
