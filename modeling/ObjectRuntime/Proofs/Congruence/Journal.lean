import ObjectRuntime.Proofs.Congruence.Process
/-!
# Different journals

What was reported so far makes no difference to what happens, other than whether logging was
started (`JournalAside`, and `JournalApart` where this is the same).
-/

namespace ObjectRuntime

variable {κ σ φ : Type}

namespace World

/-- Two worlds that are the same, whatever was reported in them. -/
def JournalAside (w v : World κ) : Prop := ∃ journal, v = { w with journal }

namespace JournalAside

variable {w v u : World κ}

theorem refl (w : World κ) : w.JournalAside w := ⟨w.journal, rfl⟩

theorem trans (h : w.JournalAside v) (h' : v.JournalAside u) : w.JournalAside u := by
  obtain ⟨j, rfl⟩ := h
  obtain ⟨j', rfl⟩ := h'
  exact ⟨j', rfl⟩

theorem allocate (h : w.JournalAside v) (size : UInt64) (a : Address) :
    Agree JournalAside (w.allocate size a) (v.allocate size a) := by
  obtain ⟨j, rfl⟩ := h
  obtain ⟨jw, hw⟩ := w.allocate_eq size a
  obtain ⟨jv, hv⟩ := ({ w with journal := j } : World κ).allocate_eq size a
  rw [hw, hv]
  exact ⟨⟨jv, rfl⟩, rfl⟩

theorem startRuntime (h : w.JournalAside v) (cap : DepthCap) :
    Agree JournalAside (w.startRuntime cap) (v.startRuntime cap) := by
  obtain ⟨j, rfl⟩ := h
  obtain ⟨jw, hw⟩ := w.startRuntime_eq cap
  obtain ⟨jv, hv⟩ := ({ w with journal := j } : World κ).startRuntime_eq cap
  rw [hw, hv]
  dsimp only
  split <;> exact ⟨⟨jv, rfl⟩, rfl⟩

theorem sharedRuntime (h : w.JournalAside v) :
    Agree JournalAside w.sharedRuntime v.sharedRuntime := by
  have hsame : v.shared = w.shared ∧ v.settings = w.settings := by
    obtain ⟨j, rfl⟩ := h
    exact ⟨rfl, rfl⟩
  simp only [World.sharedRuntime, hsame]
  cases w.shared with
  | some i => exact ⟨h, rfl⟩
  | none =>
    obtain ⟨w', v', started, hw, hv, j, rfl⟩ := (h.startRuntime w.settings.maxCallDepth).cases
    simp only [hw, hv]
    cases started <;> exact ⟨⟨j, rfl⟩, rfl⟩

theorem congruence : QuietCongruence (JournalAside (κ := κ)) where
  heap := by rintro w v ⟨j, rfl⟩; rfl
  emit := by rintro w v ⟨j, rfl⟩ e; exact ⟨_, rfl⟩
  setHeap := by rintro w v ⟨j, rfl⟩ h; exact ⟨j, rfl⟩
  setRegistry := by rintro w v ⟨j, rfl⟩ i g; exact ⟨j, rfl⟩
  allocate h size a := h.allocate size a
  reclaim := by rintro w v ⟨j, rfl⟩; exact ⟨j, rfl⟩
  sharedRuntime h := h.sharedRuntime
  startLogging := by rintro w v ⟨j, rfl⟩; exact ⟨_, rfl⟩
  stopLogging := by rintro w v ⟨j, rfl⟩; exact ⟨_, rfl⟩
  allocator := by rintro w v ⟨j, rfl⟩; rfl
  setAllocator := by rintro w v ⟨j, rfl⟩ a; exact ⟨j, rfl⟩
  handles := by rintro w v ⟨j, rfl⟩; rfl
  setHandles := by rintro w v ⟨j, rfl⟩ hs; exact ⟨j, rfl⟩
  registry := by rintro w v ⟨j, rfl⟩ i; rfl
  startRuntime h cap := h.startRuntime cap
  startLoggingWith := by rintro w v ⟨j, rfl⟩ settings; exact ⟨_, rfl⟩

theorem perform (h : w.JournalAside v) {request : Request κ}
    (hquiet : request ≠ .service .loggingStarted) :
    Agree JournalAside (w.perform request) (v.perform request) := by
  have hsame {i : RuntimeId} {rt rt' : Runtime κ} (hrt : w.runtimes[i]? = some rt)
      (hrt' : v.runtimes[i]? = some rt') : rt' = rt := by
    obtain ⟨j, rfl⟩ := h
    exact Option.some.inj (hrt'.symm.trans hrt)
  refine congruence.perform h request (fun hlogging => absurd hlogging hquiet)
    (fun i rt rt' callee args _ hrt hrt' _ => ?_) fun i rt rt' _ hrt hrt' => by rw [hsame hrt hrt']
  rw [hsame hrt hrt']
  exact congruence.apply h i callee args (fun _ _ => rfl) fun _ _ _ => rfl

end JournalAside

/-- Two worlds that differ in what was reported only. -/
def JournalApart (w v : World κ) : Prop :=
  ∃ journal, v = { w with journal } ∧ journal.isInitialized = w.journal.isInitialized

namespace JournalApart

variable {w v : World κ}

theorem refl (w : World κ) : w.JournalApart w := ⟨w.journal, rfl, rfl⟩

theorem emit_right (h : w.JournalApart v) (e : Event κ) : w.JournalApart (v.emit e) := by
  obtain ⟨j, rfl, hj⟩ := h
  exact ⟨j.emit e, rfl, by simp [hj]⟩

theorem emit (h : w.JournalApart v) (e : Event κ) : (w.emit e).JournalApart (v.emit e) := by
  obtain ⟨j, rfl, hj⟩ := h
  exact ⟨j.emit e, rfl, by simp [World.emit, hj]⟩

theorem allocate (h : w.JournalApart v) (size : UInt64) (a : Address) :
    Agree JournalApart (w.allocate size a) (v.allocate size a) := by
  obtain ⟨j, rfl, hj⟩ := h
  unfold World.allocate
  dsimp only
  split
  next allocator _ =>
    have hserved : ({ w with allocator } : World κ).JournalApart
      { w with allocator, journal := j } := ⟨j, rfl, hj⟩
    exact ⟨hserved.emit _, rfl⟩
  · exact ⟨⟨j, rfl, hj⟩, rfl⟩

theorem startRuntime (h : w.JournalApart v) (cap : DepthCap) :
    Agree JournalApart (w.startRuntime cap) (v.startRuntime cap) := by
  have hkinds := (h.emit (.kindRegistered nilKind)).emit (.kindRegistered functionKind)
  have hheap : v.heap = w.heap := by
    obtain ⟨j, rfl, -⟩ := h
    rfl
  have hserved := hkinds.allocate (UInt64.ofNat headerSize) (.object w.heap.nextNil)
  simp only [World.startRuntime, heap_emit, hheap]
  obtain ⟨w', v', served, hw, hv, j, rfl, hj⟩ := hserved.cases
  rw [hw, hv]
  cases served with
  | true =>
    have hnil : ({ w' with heap := w'.heap.addNil { kind := nilKind, body := .nothing } } :
      World κ).JournalApart
        { w' with
          heap := w'.heap.addNil { kind := nilKind, body := .nothing }
          journal := j } := ⟨j, rfl, hj⟩
    obtain ⟨j', hv', hj'⟩ := (hnil.emit (.builtinsRegistered w.heap.nextNil)).emit
      (.bootstrapped (Registry.builtin (κ := κ)).size cap)
    dsimp only
    rw [hv']
    exact ⟨⟨j', rfl, hj'⟩, rfl⟩
  | false => exact ⟨⟨j, rfl, hj⟩, rfl⟩

theorem sharedRuntime (h : w.JournalApart v) :
    Agree JournalApart w.sharedRuntime v.sharedRuntime := by
  have hshared : v.shared = w.shared ∧ v.settings = w.settings := by
    obtain ⟨j, rfl, -⟩ := h
    exact ⟨rfl, rfl⟩
  simp only [World.sharedRuntime, hshared]
  cases w.shared with
  | some i => exact ⟨h, rfl⟩
  | none =>
    obtain ⟨w', v', started, hw, hv, j, rfl, hj⟩ := (h.startRuntime w.settings.maxCallDepth).cases
    simp only [hw, hv]
    cases started with
    | ok i => exact ⟨⟨j, rfl, hj⟩, rfl⟩
    | error e => exact ⟨⟨j, rfl, hj⟩, rfl⟩

theorem congruence : ProcessCongruence (JournalApart (κ := κ)) where
  heap := by rintro w v ⟨j, rfl, -⟩; rfl
  emit h e := h.emit e
  setHeap := by rintro w v ⟨j, rfl, hj⟩ h; exact ⟨j, rfl, hj⟩
  setRegistry := by rintro w v ⟨j, rfl, hj⟩ i g; exact ⟨j, rfl, hj⟩
  allocate h size a := h.allocate size a
  reclaim := by rintro w v ⟨j, rfl, hj⟩; exact ⟨j, rfl, hj⟩
  allocator := by rintro w v ⟨j, rfl, -⟩; rfl
  setAllocator := by rintro w v ⟨j, rfl, hj⟩ a; exact ⟨j, rfl, hj⟩
  handles := by rintro w v ⟨j, rfl, -⟩; rfl
  setHandles := by rintro w v ⟨j, rfl, hj⟩ hs; exact ⟨j, rfl, hj⟩
  registry := by rintro w v ⟨j, rfl, -⟩ i; rfl
  startRuntime h cap := h.startRuntime cap
  sharedRuntime h := h.sharedRuntime
  startLogging := by rintro w v ⟨j, rfl, -⟩; exact ⟨_, rfl, by simp [World.startLogging]⟩
  startLoggingWith := by
    rintro w v ⟨j, rfl, -⟩ settings; exact ⟨_, rfl, by simp [World.startLogging]⟩
  stopLogging := by rintro w v ⟨j, rfl, hj⟩; exact ⟨_, rfl, by simp [World.stopLogging, hj]⟩
  logging := by rintro w v ⟨j, rfl, hj⟩; exact hj

theorem perform (h : w.JournalApart v) (request : Request κ) :
    Agree JournalApart (w.perform request) (v.perform request) := by
  have hsame {i : RuntimeId} {rt rt' : Runtime κ} (hrt : w.runtimes[i]? = some rt)
      (hrt' : v.runtimes[i]? = some rt') : rt' = rt := by
    obtain ⟨j, rfl, -⟩ := h
    exact Option.some.inj (hrt'.symm.trans hrt)
  refine congruence.perform h request (fun i rt rt' callee args _ hrt hrt' _ => ?_)
    fun i rt rt' _ hrt hrt' => by rw [hsame hrt hrt']
  rw [hsame hrt hrt']
  exact congruence.apply h i callee args (fun _ _ => rfl) fun _ _ _ => rfl

end JournalApart

end World

/-- **What was reported makes no difference to a run.** -/
theorem Moment.Alike.run_of_journalApart (host : Host κ σ φ) {m m' : Moment κ σ φ}
    (h : Alike World.JournalApart m m') (n : Nat) :
    Alike World.JournalApart (m.run host n) (m'.run host n) ∧
      m'.trace host Moment.observation n = m.trace host Moment.observation n :=
  h.run World.JournalApart.congruence host n fun _ _ _ request hworld _ => hworld.perform request

end ObjectRuntime
