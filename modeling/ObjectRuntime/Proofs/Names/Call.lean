import ObjectRuntime.Proofs.Alone
import ObjectRuntime.Proofs.SharedRuntime
/-!
# Calls on the shared runtime, step by step

A call is decoded, its operation is performed on the shared runtime, and an error of the operation
ends the process (`run_call`).
-/

namespace ObjectRuntime.Moment

variable {κ σ φ : Type} {host : Host κ σ φ} {w w₁ w₂ : World κ} {s : σ} {call : ForeignCall κ}
  {i : RuntimeId} {op : Operation κ}

theorem onShared_of_ok (hi : w.sharedRuntime.2 = .ok i) :
    w.onShared op = (w.sharedRuntime.1, .next (.on i op) .orFatal) := by
  rcases w.onShared_cases op with ⟨j, hj, hw⟩ | ⟨e, he, -⟩
  · cases hi.symm.trans hj
    exact hw
  · cases hi.symm.trans he

theorem onShared_of_error {e : Failure} (he : w.sharedRuntime.2 = .error e) :
    w.onShared op = w.sharedRuntime.1.fatal e.message := by
  rcases w.onShared_cases op with ⟨j, hj, -⟩ | ⟨e', he', hw⟩
  · cases he.symm.trans hj
  · cases he.symm.trans he'
    exact hw

theorem run_call (host : Host κ σ φ) (s : σ)
    (hcall : w.call call = (w₁, .next (.on i op) .orFatal)) :
    (alone w s (.foreign call)).run host 1 =
      ⟨w₁, s, [.pending .orFatal], .perform (.on i op)⟩ := by
  have hperform : w.perform (.foreign call) = (w₁, .next (.on i op) .orFatal) := hcall
  rw [run_cons, run_zero, step_alone, hperform]
  rfl

theorem run_call_done (host : Host κ σ φ) (s : σ)
    (hcall : w.call call = (w₁, .next (.on i op) .orFatal)) {reply : Reply κ}
    (hop : w₁.perform (.on i op) = (w₂, .done reply)) :
    (alone w s (.foreign call)).run host 2 = ⟨w₂, s, [.pending .orFatal], .reply reply⟩ := by
  rw [run_succ, run_call host s hcall]
  exact step_of_done rfl hop

theorem run_call_halt (host : Host κ σ φ) (s : σ) {ending : Ending}
    (hcall : w.call call = (w₁, .next (.on i op) .orFatal))
    (hop : w₁.perform (.on i op) = (w₂, .halt ending)) :
    (alone w s (.foreign call)).run host 2 = ⟨w₂, s, [.pending .orFatal], .ended ending⟩ := by
  rw [run_succ, run_call host s hcall]
  exact step_of_halt rfl hop

/-- How a call ends once the shared runtime replied. -/
def callEnd : Reply κ → Control κ
  | .ok value => .reply (.ok value)
  | .error e => .ended (.aborted e.message)

theorem run_call_end (host : Host κ σ φ) (s : σ)
    (hcall : w.call call = (w₁, .next (.on i op) .orFatal)) {reply : Reply κ}
    (hop : w₁.perform (.on i op) = (w₂, .done reply)) (n : Nat) :
    ((alone w s (.foreign call)).run host (n + 3)).control = callEnd reply ∧
      ((alone w s (.foreign call)).run host (n + 3)).isFinal = true := by
  have hthree : ∃ u, (alone w s (.foreign call)).run host 3 = ⟨u, s, [], callEnd reply⟩ := by
    rw [run_succ, run_call_done host s hcall hop, step_pending]
    cases reply <;> exact ⟨_, rfl⟩
  obtain ⟨u, hu⟩ := hthree
  have hfinal : (⟨u, s, [], callEnd reply⟩ : Moment κ σ φ).isFinal = true := by
    cases reply <;> rfl
  rw [Nat.add_comm, run_add, hu, run_of_isFinal host hfinal]
  exact ⟨rfl, hfinal⟩

theorem gives_of_call (host : Host κ σ φ) (s : σ) {value : Value κ}
    (hcall : w.call call = (w₁, .next (.on i op) .orFatal))
    (hop : w₁.perform (.on i op) = (w₂, .done (.ok value))) :
    (alone w s (.foreign call)).Gives host 3 w₂ s (.ok value) where
  waits k hk := by
    obtain rfl | rfl | rfl : k = 0 ∨ k = 1 ∨ k = 2 := by omega
    · exact not_isBack_alone
    · rw [run_call host s hcall]
      rintro ⟨hstack, -⟩
      cases hstack
    · rw [run_call_done host s hcall hop]
      rintro ⟨hstack, -⟩
      cases hstack
  back := by
    rw [run_succ, run_call_done host s hcall hop, step_pending]
    rfl

theorem control_run_call_congr {w' u u' : World κ}
    (hcall : w.call call = (u, .next (.on i op) .orFatal))
    (hcall' : w'.call call = (u', .next (.on i op) .orFatal))
    (hsame : (u'.perform (.on i op)).2 = (u.perform (.on i op)).2)
    (hends : (∃ reply, (u.perform (.on i op)).2 = .done reply) ∨
      ∃ ending, (u.perform (.on i op)).2 = .halt ending) (n : Nat) :
    ((alone w' s (.foreign call)).run host n).control =
        ((alone w s (.foreign call)).run host n).control ∧
      ((alone w s (.foreign call)).run host 3).isFinal = true := by
  rcases hop : u.perform (.on i op) with ⟨v, turn⟩
  rcases hop' : u'.perform (.on i op) with ⟨v', turn'⟩
  rw [hop, hop'] at hsame
  rw [hop] at hends
  obtain rfl : turn' = turn := hsame
  rcases hends with ⟨reply, rfl⟩ | ⟨ending, rfl⟩
  · refine ⟨?_, (run_call_end host s hcall hop 0).2⟩
    rcases n with _ | _ | _ | n
    · rfl
    · rw [run_call host s hcall, run_call host s hcall']
    · rw [run_call_done host s hcall hop, run_call_done host s hcall' hop']
    · rw [(run_call_end host s hcall hop n).1, (run_call_end host s hcall' hop' n).1]
  · have hended (n : Nat) {w u v : World κ} (hcall : w.call call = (u, .next (.on i op) .orFatal))
        (hop : u.perform (.on i op) = (v, .halt ending)) :
        ((alone w s (.foreign call)).run host (n + 2)).control = .ended ending :=
      run_of_ended (by rw [run_call_halt host s hcall hop]) (Nat.le_add_left 2 n)
    refine ⟨?_, by rw [isFinal, hended 1 hcall hop]⟩
    rcases n with _ | _ | n
    · rfl
    · rw [run_call host s hcall, run_call host s hcall']
    · rw [hended n hcall hop, hended n hcall' hop']

/-! ## Refused calls -/

/-- A call ends the process because of a failure.  It leaves this world as it is, other than the
journal, and runs no host code. -/
def Refuses (host : Host κ σ φ) (w : World κ) (s : σ) (call : ForeignCall κ) (base : World κ)
    (e : Failure) : Prop :=
  ∃ n journal, (alone w s (.foreign call)).run host n =
      ⟨{ base with journal }, s, [], .ended (.aborted e.message)⟩ ∧
    (alone w s (.foreign call)).trace host observation n = []

theorem refuses_of_fatal {base : World κ} {e : Failure} (hcall : w.call call = w₁.fatal e.message)
    (hbase : base.JournalAside w₁) : Refuses host w s call base e := by
  obtain ⟨journal, hw⟩ := hbase.trans (World.journalAside_fatal w₁ e.message)
  have hhalt : w.perform (.foreign call) =
      ({ base with journal }, .halt (.aborted e.message)) := by
    rw [← hw]
    exact hcall
  refine ⟨1, journal, ?_, ?_⟩
  · rw [run_cons, run_zero]
    exact step_of_halt rfl hhalt
  · simp [trace, observation, alone, hhalt]

theorem trace_call_done (host : Host κ σ φ) (s : σ)
    (hcall : w.call call = (w₁, .next (.on i op) .orFatal)) {reply : Reply κ}
    (hop : w₁.perform (.on i op) = (w₂, .done reply)) :
    (alone w s (.foreign call)).trace host observation 3 = [] := by
  have hperform : w.perform (.foreign call) = (w₁, .next (.on i op) .orFatal) := hcall
  rw [trace_succ, trace_succ, trace_succ, run_call host s hcall, run_call_done host s hcall hop]
  simp [observation, alone, hperform, hop]

theorem refuses_of_error {base : World κ} {e : Failure}
    (hcall : w.call call = (w₁, .next (.on i op) .orFatal))
    (hop : w₁.perform (.on i op) = (w₂, .done (.error e))) (hbase : base.JournalAside w₂) :
    Refuses host w s call base e := by
  obtain ⟨journal, hw⟩ := hbase.trans (World.journalAside_fatal w₂ e.message)
  refine ⟨3, journal, ?_, trace_call_done host s hcall hop⟩
  rw [run_succ, run_call_done host s hcall hop, step_pending, ← hw]
  rfl

theorem Refuses.not_gives {base w' : World κ} {e : Failure} {n : Nat} {s' : σ} {reply : Reply κ}
    (h : Refuses host w s call base e)
    (hgives : (alone w s (.foreign call)).Gives host n w' s' reply) : False := by
  obtain ⟨k, journal, hrun, -⟩ := h
  exact hgives.not_ended k _ (by rw [hrun])

end ObjectRuntime.Moment
