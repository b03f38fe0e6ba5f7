import ObjectRuntime.Proofs.Run
/-!
# Host code at work

Host code that the runtime enters stands on the stack, right above what waited when it was entered,
until it ends.  While it is `Working` nothing below it moves, and what it ends with is the reply
that is given there (`Working.step`, `leavesTo_of_enter`).
-/

namespace ObjectRuntime

variable {κ σ φ : Type}

/-- What host code ends with, if it ends. -/
def Move.answer? : Move κ φ → Option Answer
  | .ask _ _ => none
  | .finish answer => some answer

namespace Moment

variable (host : Host κ σ φ) (m : Moment κ σ φ)

/-- The run of host code that ends in the step from this moment, and what it ends with. -/
def ends : Option (Invocation κ × Answer) :=
  match m.control, m.stack with
  | .perform request, _ =>
    match (m.world.perform request).2 with
    | .enter run => (host.enter run m.state).2.answer?.map (run, ·)
    | _ => none
  | .reply reply, .host (some run) frame :: _ =>
    (host.resume frame reply m.state).2.answer?.map (run, ·)
  | _, _ => none

/-- A run of host code is at work, right above these frames. -/
def Working (run : Invocation κ) (below : List (Frame κ φ)) (m : Moment κ σ φ) : Prop :=
  ∃ above frame, m.stack = above ++ .host (some run) frame :: below

/-- The step from this moment ends the run of host code right above these frames, and gives the
answer that it ends with as the reply. -/
def Answers (run : Invocation κ) (below : List (Frame κ φ)) (m : Moment κ σ φ) : Prop :=
  ∃ answer, m.ends host = some (run, answer) ∧ (m.step host).stack = below ∧
    (m.step host).control = .reply (run.role.reply answer)

/-- What is asked for at this moment is left to a run of host code: it is entered, once; until it
ends it is at work above all that waits, however often the run of the system goes on; and then its
answer is the reply. -/
structure LeavesTo (run : Invocation κ) (m : Moment κ σ φ) : Prop where
  enters : ∃ request, m.control = .perform request ∧ (m.world.perform request).2 = .enter run
  returns : ∀ n, (∀ k < n, Working run m.stack (m.run host (k + 1))) ∨
    ∃ k < n, (∀ j < k, Working run m.stack (m.run host (j + 1))) ∧
      Answers host run m.stack (m.run host k)

variable {host m} {run : Invocation κ} {below : List (Frame κ φ)}

theorem Working.of_suffix {m' : Moment κ σ φ} (h : Working run below m)
    (hsuffix : m.stack <:+ m'.stack) : Working run below m' := by
  obtain ⟨above, frame, hstack⟩ := h
  obtain ⟨new, hnew⟩ := hsuffix
  exact ⟨new ++ above, frame, by rw [← hnew, hstack, List.append_assoc]⟩

theorem working_or_answer_of_move (run : Invocation κ) (m : Moment κ σ φ) (mv : Move κ φ) :
    (mv.answer? = none ∧ Working run m.stack (m.move (some run) mv)) ∨
      ∃ answer, mv.answer? = some answer ∧ (m.move (some run) mv).stack = m.stack ∧
        (m.move (some run) mv).control = .reply (run.role.reply answer) := by
  cases mv with
  | ask request frame => exact .inl ⟨rfl, [], frame, rfl⟩
  | finish answer => exact .inr ⟨answer, rfl, rfl, rfl⟩

/-- **Nothing below host code that is `Working` moves**, until it gives its answer. -/
theorem Working.step (h : Working run below m) :
    Working run below (m.step host) ∨ Answers host run below m := by
  obtain ⟨world, state, stack, control⟩ := m
  cases control with
  | ended ending => exact .inl h
  | perform request =>
    exact .inl (h.of_suffix (suffix_turn host
      (mk (world.perform request).1 state stack (.perform request)) (world.perform request).2))
  | reply reply =>
    obtain ⟨above, frame, rfl⟩ := h
    cases above with
    | nil =>
      -- It is its own turn.
      have hmove := working_or_answer_of_move run
        (mk world (host.resume frame reply state).1 below (.reply reply))
        (host.resume frame reply state).2
      rcases hmove with ⟨-, hworking⟩ | ⟨answer, hanswer, hstack, hcontrol⟩
      · exact .inl (by rwa [List.nil_append, step_host])
      · refine .inr ⟨answer, ?_, ?_, ?_⟩
        · simp [ends, hanswer]
        · rwa [List.nil_append, step_host]
        · rwa [List.nil_append, step_host]
    | cons top above =>
      left
      -- Only what stands above it goes on.
      have hrest : ∀ (w : World κ) (s : σ), Working run below
          (mk w s (above ++ .host (some run) frame :: below) (.reply reply)) :=
        fun _ _ => ⟨above, frame, rfl⟩
      cases top with
      | pending p => exact (hrest _ _).of_suffix (suffix_turn host (mk _ _ _ _) _)
      | host invocation f => exact (hrest _ _).of_suffix (suffix_move (mk _ _ _ _) _ _)

theorem working_or_answers_of_enter {request : Request κ} (hcontrol : m.control = .perform request)
    (henter : (m.world.perform request).2 = .enter run) :
    Working run m.stack (m.step host) ∨ Answers host run m.stack m := by
  have hstep := step_perform host hcontrol
  rw [henter] at hstep
  have hmove := working_or_answer_of_move run
    ({ m with world := (m.world.perform request).1, state := (host.enter run m.state).1 } :
      Moment κ σ φ) (host.enter run m.state).2
  rcases hmove with ⟨-, hworking⟩ | ⟨answer, hanswer, hstack, hreply⟩
  · exact .inl (hstep ▸ hworking)
  · exact .inr ⟨answer, by simp [ends, hcontrol, henter, hanswer], hstep ▸ hstack, hstep ▸ hreply⟩

/-- **What is left to host code is left to it until it answers.**  `Working.step` is used up to the
step in which it does. -/
theorem leavesTo_of_enter {request : Request κ} (hcontrol : m.control = .perform request)
    (henter : (m.world.perform request).2 = .enter run) : LeavesTo host run m := by
  refine ⟨⟨request, hcontrol, henter⟩, fun n => ?_⟩
  induction n with
  | zero => exact .inl fun k hk => absurd hk (Nat.not_lt_zero k)
  | succ n ih =>
    rcases ih with hworking | ⟨k, hk, hrest⟩
    · have hstep : Working run m.stack (m.run host (n + 1)) ∨
          Answers host run m.stack (m.run host n) := by
        cases n with
        | zero =>
          rw [run_cons]
          exact working_or_answers_of_enter hcontrol henter
        | succ n =>
          rw [run_succ]
          exact (hworking n (Nat.lt_succ_self n)).step
      rcases hstep with hnext | hanswers
      · left
        intro k hk
        rcases Nat.lt_succ_iff_lt_or_eq.1 hk with hk | rfl
        · exact hworking k hk
        · exact hnext
      · exact .inr ⟨n, Nat.lt_succ_self n, hworking, hanswers⟩
    · exact .inr ⟨k, Nat.lt_succ_of_lt hk, hrest⟩

end Moment

end ObjectRuntime
