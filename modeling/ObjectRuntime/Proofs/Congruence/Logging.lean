import ObjectRuntime.Proofs.Congruence.Process
/-!
# Different logging

What was reported so far, and where reports go, makes no difference to what happens, other than
whether logging was started: `LoggingAside` is a congruence.
-/

namespace ObjectRuntime.World

variable {κ : Type}

/-- Two worlds that are the same, whatever was reported in them and wherever reports go. -/
def LoggingAside (w v : World κ) : Prop :=
  ∃ journal log filter, v = { w with journal, settings := { w.settings with log }, filter }

namespace LoggingAside

variable {w v : World κ}

theorem allocate (h : w.LoggingAside v) (size : UInt64) (a : Address) :
    Agree LoggingAside (w.allocate size a) (v.allocate size a) := by
  obtain ⟨j, log, f, hv⟩ := h
  obtain ⟨jw, hw⟩ := w.allocate_eq size a
  obtain ⟨jv, hv'⟩ := v.allocate_eq size a
  rw [hw, hv', hv]
  exact ⟨⟨jv, log, f, rfl⟩, rfl⟩

theorem startRuntime (h : w.LoggingAside v) (cap : DepthCap) :
    Agree LoggingAside (w.startRuntime cap) (v.startRuntime cap) := by
  obtain ⟨j, log, f, hv⟩ := h
  obtain ⟨jw, hw⟩ := w.startRuntime_eq cap
  obtain ⟨jv, hv'⟩ := v.startRuntime_eq cap
  rw [hw, hv', hv]
  dsimp only
  split
  · exact ⟨⟨jv, log, f, rfl⟩, rfl⟩
  · exact ⟨⟨jv, log, f, rfl⟩, rfl⟩

theorem sharedRuntime (h : w.LoggingAside v) :
    Agree LoggingAside w.sharedRuntime v.sharedRuntime := by
  have hsame : v.shared = w.shared ∧ v.settings.maxCallDepth = w.settings.maxCallDepth := by
    obtain ⟨j, log, f, rfl⟩ := h
    exact ⟨rfl, rfl⟩
  simp only [World.sharedRuntime, hsame]
  cases w.shared with
  | some i => exact ⟨h, rfl⟩
  | none =>
    obtain ⟨w', v', started, hw, hv, j, log, f, rfl⟩ :=
      (h.startRuntime w.settings.maxCallDepth).cases
    simp only [hw, hv]
    cases started with
    | ok i => exact ⟨⟨j, log, f, rfl⟩, rfl⟩
    | error e => exact ⟨⟨j, log, f, rfl⟩, rfl⟩

theorem congruence : QuietCongruence (LoggingAside (κ := κ)) where
  heap := by rintro w v ⟨j, log, f, rfl⟩; rfl
  emit := by rintro w v ⟨j, log, f, rfl⟩ e; exact ⟨_, log, f, rfl⟩
  setHeap := by rintro w v ⟨j, log, f, rfl⟩ h; exact ⟨j, log, f, rfl⟩
  setRegistry := by rintro w v ⟨j, log, f, rfl⟩ i g; exact ⟨j, log, f, rfl⟩
  allocate h size a := h.allocate size a
  reclaim := by rintro w v ⟨j, log, f, rfl⟩; exact ⟨j, log, f, rfl⟩
  sharedRuntime h := h.sharedRuntime
  startLogging := by rintro w v ⟨j, log, f, rfl⟩; exact ⟨_, log, f, rfl⟩
  stopLogging := by rintro w v ⟨j, log, f, rfl⟩; exact ⟨_, log, f, rfl⟩
  allocator := by rintro w v ⟨j, log, f, rfl⟩; rfl
  setAllocator := by rintro w v ⟨j, log, f, rfl⟩ a; exact ⟨j, log, f, rfl⟩
  handles := by rintro w v ⟨j, log, f, rfl⟩; rfl
  setHandles := by rintro w v ⟨j, log, f, rfl⟩ hs; exact ⟨j, log, f, rfl⟩
  registry := by rintro w v ⟨j, log, f, rfl⟩ i; rfl
  startRuntime h cap := h.startRuntime cap
  startLoggingWith := by rintro w v ⟨j, log, f, rfl⟩ settings; exact ⟨_, log, f, rfl⟩

theorem perform (h : w.LoggingAside v) (request : Request κ)
    (hlogging : v.journal.isInitialized = w.journal.isInitialized) :
    Agree LoggingAside (w.perform request) (v.perform request) := by
  have hsame {i : RuntimeId} {rt rt' : Runtime κ} (hrt : w.runtimes[i]? = some rt)
      (hrt' : v.runtimes[i]? = some rt') : rt' = rt := by
    obtain ⟨j, log, f, rfl⟩ := h
    exact Option.some.inj (hrt'.symm.trans hrt)
  refine congruence.perform h request (fun _ => hlogging)
    (fun i rt rt' callee args _ hrt hrt' _ => ?_) fun i rt rt' _ hrt hrt' => by rw [hsame hrt hrt']
  rw [hsame hrt hrt']
  exact congruence.apply h i callee args (fun _ _ => rfl) fun _ _ _ => rfl

end LoggingAside

end ObjectRuntime.World
