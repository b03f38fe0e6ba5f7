import ObjectRuntime.Machine
/-!
# Runs, step by step

A run repeats `step`, and steps change the world in two ways only: a request is performed, or an
operation goes on after the reply to an inner request (`world_step`).  What holds of every run is
shown by looking at those two.
-/

namespace ObjectRuntime

variable {κ σ φ : Type}

/-- A process in which nothing happened yet: it has no storage, no runtime and no handle.  Its
allocator, journal and settings may be any. -/
structure World.Fresh (w : World κ) : Prop where
  heap : w.heap = ∅
  runtimes : w.runtimes = #[]
  handles : w.handles = #[]
  shared : w.shared = none

/-- What host code sees of a run: that it is entered, and what its calls give back. -/
inductive Observation (κ : Type) where
  | entered (run : Invocation κ)
  | replied (reply : Reply κ)

namespace Moment

variable (host : Host κ σ φ) (m : Moment κ σ φ)

theorem step_of_isFinal {m : Moment κ σ φ} (h : m.isFinal = true) : m.step host = m := by
  obtain ⟨world, state, stack, control⟩ := m
  cases control with
  | perform => simp [isFinal] at h
  | ended => rfl
  | reply =>
    cases stack with
    | nil => rfl
    | cons => simp [isFinal] at h

@[simp] theorem run_zero : m.run host 0 = m := rfl

theorem run_of_isFinal {m : Moment κ σ φ} (h : m.isFinal = true) (n : Nat) :
    m.run host n = m := by
  cases n with
  | zero => rfl
  | succ n => rw [run, if_pos h]

theorem run_cons (n : Nat) : m.run host (n + 1) = (m.step host).run host n := by
  by_cases h : m.isFinal = true
  · rw [run_of_isFinal host h, step_of_isFinal host h, run_of_isFinal host h]
  · rw [run, if_neg h]

theorem run_succ (n : Nat) : m.run host (n + 1) = (m.run host n).step host := by
  induction n generalizing m with
  | zero => rw [run_cons, run_zero, run_zero]
  | succ n ih => rw [run_cons, ih, run_cons]

theorem run_add (a b : Nat) : m.run host (a + b) = (m.run host a).run host b := by
  induction b with
  | zero => rfl
  | succ b ih => rw [← Nat.add_assoc, run_succ, ih, run_succ]

/-- What holds at first, and is kept by each step to a moment with `P`, holds at the end of a run
through such moments. -/
theorem run_induction {host : Host κ σ φ} {m : Moment κ σ φ} {P I : Moment κ σ φ → Prop}
    (first : P m → I m) (step : ∀ m, I m → P (m.step host) → I (m.step host)) {n : Nat}
    (h : ∀ k ≤ n, P (m.run host k)) : I (m.run host n) := by
  induction n with
  | zero => exact first (h 0 (Nat.le_refl 0))
  | succ n ih =>
    have hlast := h (n + 1) (Nat.le_refl _)
    rw [run_succ] at hlast ⊢
    exact step _ (ih fun k hk => h k (by omega)) hlast

theorem run_of_ended {host : Host κ σ φ} {m : Moment κ σ φ} {k n : Nat} {ending : Ending}
    (h : (m.run host k).control = .ended ending) (hk : k ≤ n) :
    (m.run host n).control = .ended ending := by
  obtain ⟨j, rfl⟩ := Nat.exists_eq_add_of_le hk
  rw [run_add, run_of_isFinal host (by rw [isFinal, h]), h]

/-! ## What is noted along a run -/

/-- What `f` notes at each of so many steps, in order. -/
def trace {α : Type} (f : Moment κ σ φ → List α) : Nat → Moment κ σ φ → List α
  | 0, _ => []
  | n + 1, m => f m ++ trace f n (m.step host)

variable {α : Type} (f : Moment κ σ φ → List α)

@[simp] theorem trace_zero : trace host f 0 m = [] := rfl

theorem trace_add (a b : Nat) :
    trace host f (a + b) m = trace host f a m ++ trace host f b (m.run host a) := by
  induction a generalizing m with
  | zero => simp
  | succ a ih => rw [Nat.succ_add, trace, ih, trace, run_cons, List.append_assoc]

theorem trace_succ (n : Nat) :
    trace host f (n + 1) m = trace host f n m ++ f (m.run host n) := by
  rw [trace_add]
  simp [trace]

variable {host m f} in
theorem mem_trace {n : Nat} {a : α} :
    a ∈ m.trace host f n ↔ ∃ k < n, a ∈ f (m.run host k) := by
  induction n with
  | zero => simp
  | succ n ih =>
    rw [trace_succ, List.mem_append, ih]
    constructor
    · rintro (⟨k, hk, ha⟩ | ha)
      · exact ⟨k, by omega, ha⟩
      · exact ⟨n, by omega, ha⟩
    · rintro ⟨k, hk, ha⟩
      rcases Nat.lt_succ_iff_lt_or_eq.1 hk with hk | rfl
      · exact .inl ⟨k, hk, ha⟩
      · exact .inr ha

/-- What host code sees of a step. -/
def observation : List (Observation κ) :=
  match m.control, m.stack with
  | .perform request, _ =>
    match (m.world.perform request).2 with
    | .enter run => [.entered run]
    | _ => []
  | .reply reply, .host _ _ :: _ => [.replied reply]
  | _, _ => []

theorem entered_mem_observation {m : Moment κ σ φ} {run : Invocation κ} :
    .entered run ∈ m.observation ↔
      ∃ request, m.control = .perform request ∧ (m.world.perform request).2 = .enter run := by
  obtain ⟨w, s, stack, control⟩ := m
  cases control with
  | ended ending => simp [observation]
  | perform request =>
    cases hturn : (w.perform request).2 with
    | enter run' => simp [observation, hturn, eq_comm]
    | done | next | halt => simp [observation, hturn]
  | reply reply =>
    cases stack with
    | nil => simp [observation]
    | cons frame stack => cases frame <;> simp [observation]

/-! ## What a step does -/

theorem step_perform {m : Moment κ σ φ} {request : Request κ} (h : m.control = .perform request) :
    m.step host =
      { m with world := (m.world.perform request).1 }.turn host (m.world.perform request).2 := by
  simp only [step, h]

theorem step_of_done {host : Host κ σ φ} {m : Moment κ σ φ} {request : Request κ} {w : World κ}
    {reply : Reply κ} (hcontrol : m.control = .perform request)
    (h : m.world.perform request = (w, .done reply)) :
    m.step host = { m with world := w, control := .reply reply } := by
  rw [step_perform host hcontrol, h]
  rfl

theorem step_of_halt {host : Host κ σ φ} {m : Moment κ σ φ} {request : Request κ} {w : World κ}
    {ending : Ending} (hcontrol : m.control = .perform request)
    (h : m.world.perform request = (w, .halt ending)) :
    m.step host = { m with world := w, control := .ended ending } := by
  rw [step_perform host hcontrol, h]
  rfl

theorem step_pending (w : World κ) (s : σ) (p : Pending κ) (stack : List (Frame κ φ))
    (reply : Reply κ) :
    (mk w s (.pending p :: stack) (.reply reply)).step host =
      (mk (w.resume reply p).1 s stack (.reply reply)).turn host (w.resume reply p).2 :=
  rfl

theorem step_host (w : World κ) (s : σ) (i : Option (Invocation κ)) (f : φ)
    (stack : List (Frame κ φ)) (reply : Reply κ) :
    (mk w s (.host i f :: stack) (.reply reply)).step host =
      (mk w (host.resume f reply s).1 stack (.reply reply)).move i (host.resume f reply s).2 :=
  rfl

theorem trace_observation_of_ended {host : Host κ σ φ} {m : Moment κ σ φ} {ending : Ending}
    (h : m.control = .ended ending) (n : Nat) : m.trace host observation n = [] := by
  induction n with
  | zero => rfl
  | succ n ih =>
    rw [trace, step_of_isFinal host (by rw [isFinal, h]), ih, observation, h, List.append_nil]

theorem move_control (w : World κ) (s : σ) (stack : List (Frame κ φ)) (c c' : Control κ)
    (i : Option (Invocation κ)) (mv : Move κ φ) :
    (mk w s stack c).move i mv = (mk w s stack c').move i mv := by
  cases mv with
  | ask => rfl
  | finish => cases i <;> rfl

theorem suffix_move (i : Option (Invocation κ)) (mv : Move κ φ) :
    m.stack <:+ (m.move i mv).stack := by
  cases mv with
  | ask => exact List.suffix_cons _ _
  | finish => cases i <;> exact List.suffix_refl _

theorem suffix_turn (t : Turn κ) : m.stack <:+ (m.turn host t).stack := by
  cases t with
  | done | halt => exact List.suffix_refl _
  | next => exact List.suffix_cons _ _
  | enter run => exact suffix_move { m with state := (host.enter run m.state).1 } _ _

/-! ## The world -/

@[simp] theorem world_move (i : Option (Invocation κ)) (mv : Move κ φ) :
    (m.move i mv).world = m.world := by
  cases mv with
  | ask => rfl
  | finish => cases i <;> rfl

@[simp] theorem world_start (w : World κ) (s : σ) (mv : Move κ φ) : (start w s mv).world = w :=
  world_move _ _ _

@[simp] theorem world_turn (t : Turn κ) : (m.turn host t).world = m.world := by
  cases t <;> simp [turn]

theorem world_step : (m.step host).world =
    match m.control, m.stack with
    | .perform request, _ => (m.world.perform request).1
    | .reply reply, .pending p :: _ => (m.world.resume reply p).1
    | _, _ => m.world := by
  obtain ⟨world, state, stack, control⟩ := m
  cases control with
  | ended => rfl
  | perform request => simp [step]
  | reply reply =>
    cases stack with
    | nil => rfl
    | cons frame stack => cases frame <;> simp [step]

theorem world_step_perform {m : Moment κ σ φ} {request : Request κ}
    (h : m.control = .perform request) :
    (m.step host).world = (m.world.perform request).1 := by
  rw [world_step, h]

end Moment

theorem World.perform_on {w : World κ} {i : RuntimeId} {rt : Runtime κ}
    (hrt : w.runtimes[i]? = some rt) (op : Operation κ) :
    w.perform (.on i op) = w.operate i rt op := by
  simp only [perform, hrt]

theorem World.perform_on_none {w : World κ} {i : RuntimeId} (h : w.runtimes[i]? = none)
    (op : Operation κ) : w.perform (.on i op) = (w, .halt .fault) := by
  simp only [perform, h]

theorem World.resume_frame (w : World κ) (reply : Reply κ) (p : Pending κ) :
    (w.resume reply p).1.heap = w.heap ∧ (w.resume reply p).1.runtimes = w.runtimes := by
  unfold World.resume
  split
  · exact ⟨rfl, rfl⟩
  · split <;> exact ⟨rfl, rfl⟩
  · split <;> exact ⟨rfl, rfl⟩
  · split <;> exact ⟨rfl, rfl⟩

theorem Moment.step_frame (host : Host κ σ φ) {m : Moment κ σ φ}
    (h : ∀ request, m.control ≠ .perform request) :
    (m.step host).world.heap = m.world.heap ∧
      (m.step host).world.runtimes = m.world.runtimes := by
  rw [world_step]
  split
  next hc => exact absurd hc (h _)
  · exact m.world.resume_frame _ _
  · exact ⟨rfl, rfl⟩

theorem World.resume_cases (w : World κ) (reply : Reply κ) (p : Pending κ) :
    (∃ i method, p = .releaseMethod i method ∧
        w.resume reply p = (w, .next (.on i (.release (some method))) (.keep reply))) ∨
      (∃ result, (w.resume reply p).2 = .done result) ∨
      ∃ ending, (w.resume reply p).2 = .halt ending := by
  cases p with
  | releaseMethod i method => exact .inl ⟨i, method, rfl, rfl⟩
  | keep kept => cases reply <;> exact .inr (.inl ⟨_, rfl⟩)
  | adopt i operation =>
    refine .inr (.inl ?_)
    unfold World.resume
    dsimp only
    split <;> exact ⟨_, rfl⟩
  | orFatal =>
    cases reply with
    | ok value => exact .inr (.inl ⟨_, rfl⟩)
    | error e => exact .inr (.inr ⟨_, rfl⟩)

end ObjectRuntime
