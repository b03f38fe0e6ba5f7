import ObjectRuntime.Proofs.Run
/-!
# Clients of the C interface

What code can ask for that has nothing but the C interface and the memory of objects after their
headers (`Request.isForeign`), and what the library then has in flight (`Sheltered`): operations of
a runtime, each above a frame where errors are fatal, and the release of a method directly above
such a frame.
-/

namespace ObjectRuntime

variable {κ σ φ : Type}

/-- Whether a client of the C interface can ask for this: a call, one of the exported functions of
the allocator, or a look at memory or a write that leaves headers alone. -/
def Request.isForeign : Request κ → Bool
  | .foreign _ => true
  | .service (.freeObject _) | .service (.allocate _) | .service (.freeBlock _) => true
  | .service (.install _) | .service (.traffic _) => true
  | .service (.isReleased _) | .service (.count _) | .service (.kind _) => true
  | .service (.payload _) | .service (.write _ _ _) => true
  | _ => false

/-- What the library asks itself for on behalf of a client while this waits. -/
def Request.IsInner (p : Pending κ) (request : Request κ) : Prop :=
  match p with
  | .orFatal => (∃ i op, request = .on i op) ∨ ∃ code, request = .service (.createFunction code)
  | .releaseMethod _ _ => ∃ i callee args, request = .on i (.apply callee args)
  | .keep _ => ∃ i r, request = .on i (.release (some r))
  | .adopt _ _ => False

theorem Request.IsInner.cases {p : Pending κ} {request : Request κ} (h : request.IsInner p) :
    (∃ i op, request = .on i op) ∨ ∃ code, request = .service (.createFunction code) := by
  cases p with
  | orFatal => exact h
  | releaseMethod =>
    obtain ⟨i, callee, args, rfl⟩ := h
    exact .inl ⟨i, _, rfl⟩
  | keep =>
    obtain ⟨i, r, rfl⟩ := h
    exact .inl ⟨i, _, rfl⟩
  | adopt => cases h

/-- What can wait while a client of the C interface runs. -/
inductive Guarded : List (Frame κ φ) → Prop
  | nil : Guarded []
  | host {invocation frame rest} (h : Guarded rest) : Guarded (.host invocation frame :: rest)
  | orFatal {rest} (h : Guarded rest) : Guarded (.pending .orFatal :: rest)
  | releaseMethod {i method rest} (h : Guarded rest) :
      Guarded (.pending (.releaseMethod i method) :: .pending .orFatal :: rest)
  | keep {reply rest} (h : Guarded rest) :
      Guarded (.pending (.keep reply) :: .pending .orFatal :: rest)

namespace World

theorem onShared_next {w : World κ} {op : Operation κ} {request : Request κ} {p : Pending κ}
    (h : (w.onShared op).2 = .next request p) : p = .orFatal ∧ request.IsInner .orFatal := by
  rcases w.onShared_cases op with ⟨i, -, hw⟩ | ⟨e, -, hw⟩
  · rw [hw] at h
    cases h
    exact ⟨rfl, .inl ⟨i, op, rfl⟩⟩
  · rw [hw] at h
    cases h

/-- A call goes on with one inner request, whose failure is fatal. -/
theorem call_next {w : World κ} {call : ForeignCall κ} {request : Request κ} {p : Pending κ}
    (h : (w.call call).2 = .next request p) : p = .orFatal ∧ request.IsInner .orFatal := by
  have hwith {α : Type} {decoded : Except Failure α} {op : α → Operation κ}
      (h : (w.onSharedWith decoded op).2 = .next request p) :
      p = .orFatal ∧ request.IsInner .orFatal := by
    cases decoded with
    | ok a => exact onShared_next h
    | error e => cases h
  cases call with
  | register | setDestructor | setApply | newObject | nil | retain | release =>
    exact onShared_next h
  | setMember kind name value => exact hwith h
  | lookup object name => exact hwith h
  | apply callee args =>
    simp only [World.call] at h
    split at h
    · cases h
    · exact onShared_next h
  | methodCall object name args =>
    simp only [World.call] at h
    split at h
    · cases h
    · split at h
      · cases h
      · exact onShared_next h
  | createFunction entry =>
    cases entry with
    | none => cases h
    | some code =>
      cases h
      exact ⟨rfl, .inr ⟨code, rfl⟩⟩
  | count object | kind object =>
    cases object with
    | none => cases h
    | some r =>
      simp only [World.call, inspect] at h
      split at h <;> cases h
  | panic message => cases message <;> cases h
  | startUp =>
    simp only [World.call] at h
    split at h <;> cases h
  | cleanup => cases h

theorem perform_next_of_isForeign {w : World κ} {request inner : Request κ} {p : Pending κ}
    (hforeign : request.isForeign = true) (h : (w.perform request).2 = .next inner p) :
    p = .orFatal ∧ inner.IsInner .orFatal := by
  cases request with
  | foreign call => exact call_next h
  | on | query | handle => cases hforeign
  | service service =>
    exfalso
    cases service with
    | freeObject object =>
      cases object with
      | none => cases h
      | some r =>
        simp only [perform, serve, orFault] at h
        cases hr : w.freeObject r <;> simp [hr] at h
    | freeBlock block =>
      cases block with
      | none => cases h
      | some b =>
        simp only [perform, serve, orFault] at h
        cases hb : w.freeBlock b <;> simp [hb] at h
    | count r | kind r | payload r =>
      simp only [perform, serve, inspect] at h
      split at h <;> cases h
    | write r start bytes =>
      simp only [perform, serve, amend] at h
      split at h <;> cases h
    | allocate | install | traffic | isReleased => cases h
    | _ => cases hforeign

end World

namespace Moment

/-- Whether client code, where it asks for something now, asks through the C interface. -/
def asksForeign (m : Moment κ σ φ) : Bool :=
  match m.control, m.stack with
  | .perform request, .host _ _ :: _ => request.isForeign
  | _, _ => true

/-- Only clients of the C interface run, and the library is in the middle of what they asked for. -/
structure Sheltered (m : Moment κ σ φ) : Prop where
  guarded : Guarded m.stack
  asked : ∀ request, m.control = .perform request →
    (∃ invocation frame rest, m.stack = .host invocation frame :: rest ∧
        request.isForeign = true) ∨
      ∃ p rest, m.stack = .pending p :: rest ∧ request.IsInner p

namespace Sheltered

theorem request_cases {m : Moment κ σ φ} (h : m.Sheltered) {request : Request κ}
    (hcontrol : m.control = .perform request) :
    request.isForeign = true ∨ (∃ i op, request = .on i op) ∨
      ∃ code, request = .service (.createFunction code) := by
  rcases h.asked request hcontrol with ⟨_, _, _, -, hforeign⟩ | ⟨p, _, -, hinner⟩
  · exact .inl hforeign
  · exact .inr hinner.cases

variable {host : Host κ σ φ} {m : Moment κ σ φ}

theorem move (hguarded : Guarded m.stack) {invocation : Option (Invocation κ)} {mv : Move κ φ}
    (hasks : (m.move invocation mv).asksForeign = true) : (m.move invocation mv).Sheltered := by
  cases mv with
  | ask request frame =>
    refine ⟨.host hguarded, fun request' h => .inl ⟨invocation, frame, m.stack, rfl, ?_⟩⟩
    cases h
    exact hasks
  | finish answer =>
    cases invocation with
    | none => exact ⟨hguarded, by simp [Moment.move]⟩
    | some run => exact ⟨hguarded, by simp [Moment.move]⟩

theorem of_inner (w : World κ) {p p' : Pending κ} {rest : List (Frame κ φ)}
    {request inner : Request κ} (hguarded : Guarded (.pending p :: rest))
    (hinner : request.IsInner p)
    (h : (w.perform request).2 = .next inner p') :
    Guarded (.pending p' :: .pending p :: rest) ∧ inner.IsInner p' := by
  have hon {i : RuntimeId} {op : Operation κ} (h : (w.perform (.on i op)).2 = .next inner p') :
      ∃ object name args method, op = .methodCall object name args ∧
        inner = .on i (.apply (some method) args) ∧ p' = .releaseMethod i method := by
    simp only [World.perform] at h
    split at h
    · exact World.operate_next h
    · cases h
  cases p with
  | orFatal =>
    rcases hinner with ⟨i, op, rfl⟩ | ⟨code, rfl⟩
    · obtain ⟨object, name, args, method, -, rfl, rfl⟩ := hon h
      cases hguarded with
      | orFatal hrest => exact ⟨.releaseMethod hrest, i, _, _, rfl⟩
    · simp only [World.perform, World.serve] at h
      generalize (w.createFunction code).2 = result at h
      cases result <;> cases h
  | releaseMethod i method =>
    obtain ⟨i, callee, args, rfl⟩ := hinner
    obtain ⟨_, _, _, _, hop, -⟩ := hon h
    cases hop
  | keep reply =>
    obtain ⟨i, r, rfl⟩ := hinner
    obtain ⟨_, _, _, _, hop, -⟩ := hon h
    cases hop
  | adopt => cases hinner

theorem turn (h : m.Sheltered) {request : Request κ} (hcontrol : m.control = .perform request)
    (hasks : (m.step host).asksForeign = true) : (m.step host).Sheltered := by
  rw [step_perform host hcontrol] at hasks ⊢
  cases hturn : (m.world.perform request).2 with
  | done reply => exact ⟨h.guarded, by simp [Moment.turn]⟩
  | halt ending => exact ⟨h.guarded, by simp [Moment.turn]⟩
  | enter run =>
    rw [hturn] at hasks
    exact move (m := { m with
      world := (m.world.perform request).1, state := (host.enter run m.state).1 }) h.guarded hasks
  | next inner p =>
    have hnext : Guarded (.pending p :: m.stack) ∧ inner.IsInner p := by
      rcases h.asked request hcontrol with ⟨_, _, _, -, hforeign⟩ | ⟨p', rest, hstack, hinner⟩
      · obtain ⟨rfl, hinner⟩ := World.perform_next_of_isForeign hforeign hturn
        exact ⟨.orFatal h.guarded, hinner⟩
      · have hguarded := h.guarded
        rw [hstack] at hguarded ⊢
        exact of_inner m.world hguarded hinner hturn
    refine ⟨hnext.1, fun request' h' => .inr ⟨p, m.stack, rfl, ?_⟩⟩
    cases h'
    exact hnext.2

/-- **Only what clients ask for is in flight**, as long as they ask through the C interface: a run
stays `Sheltered`. -/
theorem step (h : m.Sheltered) (hasks : (m.step host).asksForeign = true) :
    (m.step host).Sheltered := by
  cases hcontrol : m.control with
  | ended ending => rwa [step_of_isFinal host (by rw [isFinal, hcontrol])]
  | perform request => exact h.turn hcontrol hasks
  | reply reply =>
    obtain ⟨w, s, stack, control⟩ := m
    cases hcontrol
    have hguarded : Guarded stack := h.guarded
    cases hguarded with
    | nil => exact h
    | host hrest => exact move (m := ⟨w, (host.resume _ reply s).1, _, _⟩) hrest hasks
    | orFatal hrest =>
      cases reply <;> exact ⟨hrest, fun _ hc => by cases hc⟩
    | releaseMethod hrest =>
      refine ⟨.keep hrest, fun request' h' => .inr ⟨_, _, rfl, ?_⟩⟩
      cases h'
      exact ⟨_, _, rfl⟩
    | keep hrest =>
      cases reply <;> exact ⟨.orFatal hrest, fun _ hc => by cases hc⟩

theorem start {w : World κ} {s : σ} {first : Move κ φ}
    (hasks : (Moment.start w s first).asksForeign = true) : (Moment.start w s first).Sheltered :=
  move (m := ⟨w, s, [], _⟩) .nil hasks

theorem run {w : World κ} {s : σ} {first : Move κ φ} {n : Nat}
    (hasks : ∀ k ≤ n, ((Moment.start w s first).run host k).asksForeign = true) :
    ((Moment.start w s first).run host n).Sheltered :=
  run_induction (P := fun m => m.asksForeign = true) start (fun _ => step) hasks

end Sheltered

end Moment

end ObjectRuntime
