import ObjectRuntime.Proofs.Run
/-!
# Requests on their own

What a request leads to does not depend on who waits for its reply: as long as the reply is not
there, a run goes on above the frames that wait as it would go on without them (`above_run`).
`Gives` says which reply a run comes to and after how many steps, so that what an operation gives
can be told apart from what is done with it.
-/

namespace ObjectRuntime

variable {κ σ φ : Type}

namespace Moment

/-- A request that nobody waits for. -/
def alone (w : World κ) (s : σ) (request : Request κ) : Moment κ σ φ :=
  { world := w, state := s, control := .perform request }

/-- The same moment with more frames that wait below. -/
def above (m : Moment κ σ φ) (below : List (Frame κ φ)) : Moment κ σ φ :=
  { m with stack := m.stack ++ below }

/-- A reply is there and nobody waits for it. -/
def IsBack (m : Moment κ σ φ) : Prop := m.stack = [] ∧ ∃ reply, m.control = .reply reply

/-- A run has its reply after exactly so many steps. -/
structure Gives (host : Host κ σ φ) (m : Moment κ σ φ) (n : Nat) (w : World κ) (s : σ)
    (reply : Reply κ) : Prop where
  waits : ∀ k < n, ¬ (m.run host k).IsBack
  back : m.run host n = { world := w, state := s, control := .reply reply }

variable {host : Host κ σ φ} {m : Moment κ σ φ} {below : List (Frame κ φ)}

theorem above_move (i : Option (Invocation κ)) (mv : Move κ φ) :
    (m.above below).move i mv = (m.move i mv).above below := by
  cases mv with
  | ask => rfl
  | finish => cases i <;> rfl

theorem above_turn (t : Turn κ) : (m.above below).turn host t = (m.turn host t).above below := by
  cases t with
  | done | next | halt => rfl
  | enter run => exact above_move (m := { m with state := (host.enter run m.state).1 }) _ _

theorem above_step (h : ¬ m.IsBack) : (m.above below).step host = (m.step host).above below := by
  obtain ⟨w, s, stack, control⟩ := m
  cases control with
  | ended ending => rfl
  | perform request => exact above_turn (m := ⟨(w.perform request).1, s, stack, _⟩) _
  | reply reply =>
    cases stack with
    | nil => exact absurd ⟨rfl, reply, rfl⟩ h
    | cons frame stack =>
      cases frame with
      | pending p => exact above_turn (m := ⟨(w.resume reply p).1, s, stack, _⟩) _
      | host i f => exact above_move (m := ⟨w, (host.resume f reply s).1, stack, _⟩) _ _

theorem above_observation (h : ¬ m.IsBack) : (m.above below).observation = m.observation := by
  obtain ⟨w, s, stack, control⟩ := m
  cases control with
  | ended | perform => rfl
  | reply reply =>
    cases stack with
    | nil => exact absurd ⟨rfl, reply, rfl⟩ h
    | cons frame stack => cases frame <;> rfl

/-- **A run goes on above what waits as it would on its own.** -/
theorem above_run (below : List (Frame κ φ)) {n : Nat} (h : ∀ k < n, ¬ (m.run host k).IsBack) :
    (m.above below).run host n = (m.run host n).above below ∧
      (m.above below).trace host observation n = m.trace host observation n := by
  induction n with
  | zero => exact ⟨rfl, rfl⟩
  | succ n ih =>
    obtain ⟨hrun, htrace⟩ := ih fun k hk => h k (Nat.lt_succ_of_lt hk)
    have hn := h n (Nat.lt_succ_self n)
    rw [run_succ, run_succ, trace_succ, trace_succ, hrun, htrace, above_step hn,
      above_observation hn]
    exact ⟨rfl, rfl⟩

/-! ## When the reply is there -/

variable {w w' w₁ : World κ} {s s' : σ} {request : Request κ} {reply reply₁ : Reply κ} {n k : Nat}

theorem isFinal_of_isBack (h : m.IsBack) : m.isFinal = true := by
  obtain ⟨hstack, reply, hcontrol⟩ := h
  rw [isFinal, hstack, hcontrol]

theorem Gives.eq_of_isBack (h : m.Gives host n w s reply) (hback : (m.run host k).IsBack) :
    m.run host k = ⟨w, s, [], .reply reply⟩ := by
  have hnk : n ≤ k := Nat.not_lt.1 fun hkn => h.waits k hkn hback
  obtain ⟨j, rfl⟩ := Nat.exists_eq_add_of_le hnk
  rw [run_add, h.back]
  exact run_of_isFinal host rfl j

theorem Gives.not_ended (h : m.Gives host n w s reply) (k : Nat) (ending : Ending) :
    (m.run host k).control ≠ .ended ending := by
  intro hended
  have hlater := run_of_ended hended (Nat.le_add_left k n)
  rw [run_add, h.back, run_of_isFinal host rfl] at hlater
  cases hlater

theorem not_isBack_alone : ¬ (alone w s request : Moment κ σ φ).IsBack := by
  rintro ⟨-, reply, hcontrol⟩
  cases hcontrol

theorem Gives.pos (h : (alone w s request).Gives host n w' s' reply) : 0 < n := by
  refine Nat.pos_of_ne_zero fun hn => ?_
  have hcontrol := congrArg Moment.control h.back
  rw [hn] at hcontrol
  cases hcontrol

theorem step_alone (host : Host κ σ φ) (w : World κ) (s : σ) (request : Request κ) :
    (alone w s request).step host =
      (alone (w.perform request).1 s request).turn host (w.perform request).2 :=
  rfl

theorem run_of_perform_eq {request' : Request κ}
    (h : w.perform request' = w.perform request) (s : σ) (n : Nat) :
    (alone w s request').run host (n + 1) = (alone w s request).run host (n + 1) ∧
      (alone w s request').trace host observation n =
        (alone w s request).trace host observation n := by
  have hstep : (alone w s request').step host = (alone w s request).step host := by
    rw [step_alone, step_alone, h]
    cases (w.perform request).2 with
    | done | next | halt => rfl
    | enter run => exact move_control _ _ _ _ _ _ _
  have hseen : (alone w s request' : Moment κ σ φ).observation =
      (alone w s request : Moment κ σ φ).observation := by
    simp only [observation, alone, h]
  refine ⟨by rw [run_cons, run_cons, hstep], ?_⟩
  cases n with
  | zero => rfl
  | succ n => rw [trace, trace, hseen, hstep]

theorem gives_of_done (host : Host κ σ φ) (s : σ) (h : w.perform request = (w₁, .done reply)) :
    (alone w s request).Gives host 1 w₁ s reply where
  waits k hk := by
    obtain rfl : k = 0 := by omega
    exact not_isBack_alone
  back := by
    rw [run_cons, run_zero]
    exact step_of_done rfl h

theorem Gives.of_done (h : (alone w s request).Gives host n w' s' reply)
    (hdone : w.perform request = (w₁, .done reply₁)) : w' = w₁ ∧ s' = s ∧ reply = reply₁ := by
  have hone := (gives_of_done host s hdone).back
  have hback : ((alone w s request).run host 1).IsBack := by
    rw [hone]
    exact ⟨rfl, reply₁, rfl⟩
  have heq := (h.eq_of_isBack hback).symm.trans hone
  cases heq
  exact ⟨rfl, rfl, rfl⟩

end Moment

end ObjectRuntime
