import ObjectRuntime.Proofs.Diagnostics.Message
import ObjectRuntime.Proofs.Storage
import ObjectRuntime.Proofs.Turns
/-!
# The line that an abort leaves

A process is aborted with a text that the host gives, or because of a failure.  In the latter case
the line on the error stream is made from the message of the failure (`perform_tellsFailure`), so
that the failure, with all of its numbers and names, can be told from the line alone.
-/

namespace ObjectRuntime

variable {κ σ φ : Type}

/-- Whether an operation that goes on like this tells a failure if it aborts the process. -/
def Turn.TellsFailure : Turn κ → Prop
  | .halt (.aborted text) => ∃ e : Failure, text = e.message
  | _ => True

theorem Turn.Fits.tellsFailure {op : Operation κ} {turn : Turn κ} (h : turn.Fits op) :
    turn.TellsFailure := by
  unfold TellsFailure
  split
  next text => exact absurd rfl (h text)
  · trivial

theorem Turn.Delegates.tellsFailure {turn : Turn κ} (h : turn.Delegates false) :
    turn.TellsFailure := by
  unfold TellsFailure
  split
  next text => exact h.resolve_left Bool.false_ne_true
  · trivial

namespace World

variable (w : World κ)

/-- **What is performed aborts the process because of a failure**, unless the host gives a text
(`Request.givesText`). -/
theorem perform_tellsFailure {request : Request κ} (h : request.givesText = false) :
    (w.perform request).2.TellsFailure := by
  rcases w.perform_cases request with ⟨i, rt, op, -, -, hop⟩ | hdelegates
  · rw [hop]
    exact (w.operate_fits i rt op).tellsFailure
  · rw [h] at hdelegates
    exact hdelegates.tellsFailure

theorem resume_tellsFailure (reply : Reply κ) (p : Pending κ) :
    (w.resume reply p).2.TellsFailure :=
  (w.resume_delegates reply p).tellsFailure

end World

namespace Moment

variable {host : Host κ σ φ} {m : Moment κ σ φ}

/-- The step from this moment ends the run and leaves a line on the error stream, and the host gave
no text for it. -/
structure FailsWith (host : Host κ σ φ) (m : Moment κ σ φ) (line : String) : Prop where
  running : ∀ ending, m.control ≠ .ended ending
  ownText : ∀ request, m.control = .perform request → request.givesText = false
  line : ∃ ending, (m.step host).control = .ended ending ∧ ending.diagnostic = some line

theorem move_control_ne_ended {run : Option (Invocation κ)} {mv : Move κ φ} {ending : Ending} :
    (m.move run mv).control ≠ .ended ending := by
  cases mv with
  | ask => exact fun h => by cases h
  | finish => cases run <;> exact fun h => by cases h

theorem halt_of_turn {t : Turn κ} {ending : Ending}
    (h : (m.turn host t).control = .ended ending) : t = .halt ending := by
  cases t with
  | done | next => cases h
  | halt => cases h; rfl
  | enter run => exact absurd h move_control_ne_ended

theorem FailsWith.exists_failure {line : String} (h : m.FailsWith host line) :
    ∃ e : Failure, line = "Panic: " ++ e.message := by
  obtain ⟨ending, hended, hdiagnostic⟩ := h.line
  have htells : (Turn.halt ending : Turn κ).TellsFailure := by
    obtain ⟨w, s, stack, control⟩ := m
    cases control with
    | ended ending => exact absurd rfl (h.running ending)
    | perform request =>
      rw [← halt_of_turn hended]
      exact w.perform_tellsFailure (h.ownText request rfl)
    | reply reply =>
      cases stack with
      | nil => cases hended
      | cons frame stack =>
        cases frame with
        | host run f => exact absurd hended move_control_ne_ended
        | pending p =>
          rw [← halt_of_turn hended]
          exact w.resume_tellsFailure reply p
  cases ending with
  | aborted text =>
    obtain ⟨e, rfl⟩ := htells
    exact ⟨e, (Option.some.inj hdiagnostic).symm⟩
  | endless | fault => cases hdiagnostic

/-- **The diagnostic identifies the failure.**  Two failures have the same message only if they are
the same failure, with the same numbers, names and texts, whatever these are.  So the line that a
failure leaves on the error stream when it ends a run tells which failure it was: there is one
failure that such a line can stand for, and no other. -/
theorem diagnostic_identifies_failure (host : Host κ σ φ) (m : Moment κ σ φ) :
    (∀ e e' : Failure, e.message = e'.message ↔ e = e') ∧
      ∀ line, m.FailsWith host line → ∃! e : Failure, line = "Panic: " ++ e.message := by
  refine ⟨fun e e' => ⟨Failure.eq_of_message_eq, congrArg _⟩, fun line hline => ?_⟩
  obtain ⟨e, rfl⟩ := hline.exists_failure
  refine ⟨e, rfl, fun e' he' => Failure.eq_of_message_eq ?_⟩
  exact (String.append_right_inj "Panic: ").1 he'.symm

/-- A client that looks up a member whose name reads like the rest of another message. -/
def lookUpOddName : Procedure Unit Unit Answer :=
  .ask (.foreign .nil) fun _ =>
  .ask (.foreign (.lookup (some (.nil 0)) (.bytes "2 is already registered".toUTF8))) fun _ =>
  .done (.ok none)

theorem diagnostic_identifies_failure_lookUpOddName :
    ((start {} () (lookUpOddName.toMove ()).2).run idleHost 6).FailsWith idleHost
        "Panic: Kind 1 has no member '2 is already registered'" ∧
      ∃! e : Failure,
        "Panic: Kind 1 has no member '2 is already registered'" = "Panic: " ++ e.message := by
  have hcontrol : ((start {} () (lookUpOddName.toMove ()).2).run idleHost 6).control =
      .reply (.error (.unregisteredMember 1 "2 is already registered")) := rfl
  have hline : (Ending.aborted
      (Failure.unregisteredMember 1 "2 is already registered").message).diagnostic =
        some "Panic: Kind 1 has no member '2 is already registered'" := by decide
  have hfails : ((start {} () (lookUpOddName.toMove ()).2).run idleHost 6).FailsWith idleHost
      "Panic: Kind 1 has no member '2 is already registered'" :=
    { running := by rw [hcontrol]; exact fun _ h => by cases h
      ownText := by rw [hcontrol]; exact fun _ h => by cases h
      line := ⟨_, rfl, hline⟩ }
  exact ⟨hfails, (diagnostic_identifies_failure _ _).2 _ hfails⟩

end Moment

end ObjectRuntime
