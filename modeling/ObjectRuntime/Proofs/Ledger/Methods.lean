import ObjectRuntime.Proofs.Ledger.Outcome
/-!
# Methods in flight

A method call looks its method up, applies it and releases it.  So in every run, whatever clients
do, method calls never release more than they looked up (`MethodsPaid`).
-/

namespace ObjectRuntime

variable {κ σ φ : Type}

/-- Whether a frame waits to release a method. -/
def Frame.owes (r : Ref) : Frame κ φ → Bool
  | .pending (.releaseMethod _ method) => method == r
  | _ => false

/-- Whether an object is about to be released. -/
def Control.releases (r : Ref) : Control κ → Bool
  | .perform (.on _ (.release (some o))) => o == r
  | _ => false

/-- How many method calls an operation that goes on like this leaves to release a method. -/
def Turn.owes (r : Ref) : Turn κ → Nat
  | .next _ (.releaseMethod _ method) => if method = r then 1 else 0
  | _ => 0

namespace Moment

variable {host : Host κ σ φ} {m : Moment κ σ φ}

/-- How many method calls in flight have yet to release a method. -/
def owed (m : Moment κ σ φ) (r : Ref) : Nat :=
  m.stack.countP (·.owes r) + if m.settles && m.control.releases r then 1 else 0

theorem owed_move (m : Moment κ σ φ) (i : Option (Invocation κ)) (mv : Move κ φ) (r : Ref) :
    (m.move i mv).owed r = m.stack.countP (·.owes r) := by
  cases mv with
  | ask => simp [move, owed, settles, Frame.owes]
  | finish => cases i <;> simp [move, owed, Control.releases]

theorem owed_turn (m : Moment κ σ φ) {t : Turn κ}
    (ht : ∀ request reply, t ≠ .next request (.keep reply)) (r : Ref) :
    (m.turn host t).owed r = m.stack.countP (·.owes r) + t.owes r := by
  cases t with
  | done | halt => simp [turn, owed, Control.releases, Turn.owes]
  | enter => simp [turn, owed_move, Turn.owes]
  | next request p =>
    cases p with
    | keep reply => exact absurd rfl (ht request reply)
    | releaseMethod i method =>
      simp [turn, owed, settles, Turn.owes, Frame.owes, List.countP_cons]
    | _ => simp [turn, owed, settles, Turn.owes, Frame.owes]

end Moment

namespace Outcome

variable {w w' : World κ} {request : Request κ} {turn : Turn κ}

theorem ne_keep (h : Outcome w request w' turn) (request' : Request κ) (reply : Reply κ) :
    turn ≠ .next request' (.keep reply) := by
  rintro rfl
  cases h with
  | plain _ _ _ _ hturn | started _ _ _ _ hturn => cases hturn

/-- A method that is left to be released was looked up, and one that is released was left. -/
theorem methods (h : Outcome w request w' turn) {back : Cause}
    (hback : back = .release ∨ back = .methodRelease) (r : Ref) :
    (request.entries w back turn).tally (· == .methodRelease) r + turn.owes r ≤
      (request.entries w back turn).tally (· == .methodLookup) r +
        if back == .methodRelease && (Control.perform request).releases r then 1 else 0 := by
  have hplain : turn.isPlain = true → turn.owes r = 0 := fun hturn => by
    cases turn with
    | next _ p => cases p <;> first | rfl | cases hturn
    | _ => rfl
  cases h with
  | plain _ _ _ hentries hturn | started _ _ _ hentries hturn => simp [hentries, hplain hturn]
  | configured _ _ _ _ _ _ hentries | made _ _ _ _ _ hentries => simp [hentries, Turn.owes]
  | bound | unbound | freed | recounted | written =>
    simp [Request.entries, Ledger.tally_cons, Turn.owes]
  | taken cause _ _ hcause _ _ _ _ hentries =>
    have hne : cause ≠ .methodRelease := by
      rintro rfl
      cases hcause
    simp [hentries, Ledger.tally_cons, Turn.owes, hne]
  | method => simp [Request.entries, Ledger.tally_cons, Turn.owes]
  | released | reclaimed | destroying =>
    rcases hback with rfl | rfl <;>
      simp [Request.entries, Ledger.tally_cons, Turn.owes, Control.releases]

end Outcome

namespace Moment

variable {host : Host κ σ φ} {m : Moment κ σ φ} {l : Ledger}

theorem entries_perform {request : Request κ} (hc : m.control = .perform request) :
    m.entries = request.entries m.world m.releaseCause (m.world.perform request).2 := by
  simp only [entries, hc]

/-- Method calls in flight looked up what they have yet to release. -/
def MethodsPaid (l : Ledger) (m : Moment κ σ φ) : Prop :=
  ∀ r, l.tally (· == .methodRelease) r + m.owed r ≤ l.tally (· == .methodLookup) r

namespace MethodsPaid

theorem released_le (h : MethodsPaid l m) (r : Ref) :
    l.tally (· == .methodRelease) r ≤ l.tally (· == .methodLookup) r :=
  Nat.le_trans (Nat.le_add_right _ _) (h r)

theorem start (w : World κ) (s : σ) (first : Move κ φ) :
    MethodsPaid [] (Moment.start w s first) := fun r => by
  rw [Moment.start, owed_move]
  exact Nat.le_refl 0

theorem perform (h : MethodsPaid l m) {request : Request κ} (hc : m.control = .perform request) :
    MethodsPaid (l ++ m.entries) (m.step host) := fun r => by
  have hback : m.releaseCause = .release ∨ m.releaseCause = .methodRelease := by
    unfold releaseCause
    split <;> simp
  have hsettles : (m.releaseCause == .methodRelease) = m.settles := by
    unfold releaseCause
    cases m.settles <;> rfl
  have hout := m.world.perform_outcome request
  have hrequest := hout.methods hback r
  have hm := h r
  rw [hsettles, ← entries_perform hc] at hrequest
  rw [owed, hc] at hm
  rw [step_perform host hc, owed_turn _ hout.ne_keep, Ledger.tally_append, Ledger.tally_append]
  dsimp only
  omega

theorem reply (h : MethodsPaid l m) {reply : Reply κ} (hc : m.control = .reply reply) :
    MethodsPaid l (m.step host) := by
  obtain ⟨world, state, stack, control⟩ := m
  obtain rfl : control = .reply reply := hc
  cases stack with
  | nil => exact h
  | cons frame stack =>
    intro r
    have hm := h r
    simp only [owed, Control.releases, Bool.and_false, Bool.false_eq_true, if_false, Nat.add_zero,
      List.countP_cons] at hm
    cases frame with
    | pending p =>
      rw [step_pending]
      -- A method that waited to be released is about to be, and is owed still.
      rcases world.resume_cases reply p with ⟨i, method, rfl, hw⟩ | ⟨result, hw⟩ | ⟨e, hw⟩
      · simpa [hw, turn, owed, settles, Control.releases, Frame.owes] using hm
      · simp only [hw, turn, owed, Control.releases, Bool.and_false, Bool.false_eq_true, if_false]
        omega
      · simp only [hw, turn, owed, Control.releases, Bool.and_false, Bool.false_eq_true, if_false]
        omega
    | host i frame =>
      rw [step_host, owed_move]
      dsimp only
      omega

theorem step (h : MethodsPaid l m) : MethodsPaid (l ++ m.entries) (m.step host) := by
  cases hc : m.control with
  | perform request => exact h.perform hc
  | reply reply =>
    rw [show m.entries = [] by simp only [entries, hc], List.append_nil]
    exact h.reply hc
  | ended ending =>
    rw [show m.entries = [] by simp only [entries, hc], List.append_nil]
    simpa only [Moment.step, hc] using h

end MethodsPaid

end Moment

end ObjectRuntime
