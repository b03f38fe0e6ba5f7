import ObjectRuntime.Failure
import ObjectRuntime.Proofs.Decimal
/-!
# Messages

A message says which failure it reports, with all of its numbers and names (`eq_of_message_eq`).
How it starts, its `opening`, tells the kinds of failure apart, but for two that both start with a
kind; and wherever a number stands in front of more text, the text goes on with something that is
no digit, so that it is clear where the number ends (`toString_append_inj`).
-/

namespace ObjectRuntime

namespace Failure

/-- The first two characters of a message. -/
def opening : Failure → List Char
  | unregisteredKind _ => ['U', 'n']
  | unregisteredMember _ _ | duplicateKind _ => ['K', 'i']
  | countUnderflow _ _ => ['N', 'e']
  | uncallable _ => ['O', 'b']
  | callDepthExceeded _ => ['_', '_']
  | nullObject _ => ['N', 'u']
  | invalidName => ['M', 'e']
  | invalidArgCount _ => ['I', 'n']
  | allocationFailed _ => ['A', 'l']

theorem take_message (e : Failure) : e.message.toList.take 2 = e.opening := by
  unfold message
  cases e <;> simp [opening]

/-- **Different failures have different messages.**  The first two characters, the `opening`, leave
two kinds of failure at most. -/
theorem eq_of_message_eq {e e' : Failure} (h : e.message = e'.message) : e = e' := by
  have hopening : e.opening = e'.opening := by rw [← take_message, h, take_message]
  replace h := congrArg String.toList h
  unfold message at h
  -- Ten pairs of the same kind of failure are left, and the two that both start with a kind.
  cases e <;> cases e' <;> simp [opening] at hopening
  all_goals simp only [String.toList_append, List.append_assoc, List.append_cancel_left_eq] at h
  case unregisteredKind kind kind' => rw [toList_toString_inj.1 h]
  case unregisteredMember.unregisteredMember kind name kind' name' =>
    obtain ⟨rfl, hname⟩ := toString_append_inj (by simp) (by simp) h
    rw [List.append_cancel_left_eq, List.append_cancel_right_eq, String.toList_inj] at hname
    rw [hname]
  case unregisteredMember.duplicateKind kind name kind' =>
    obtain ⟨-, hrest⟩ := toString_append_inj (by simp) (by simp) h
    simp at hrest
  case countUnderflow kind count kind' count' =>
    obtain ⟨rfl, hcount⟩ := toString_append_inj (by simp) (by simp) h
    rw [List.append_cancel_left_eq, List.append_cancel_right_eq, String.toList_inj] at hcount
    rw [Int.repr_inj.1 hcount]
  case uncallable kind kind' =>
    rw [List.append_cancel_right_eq] at h
    rw [toList_toString_inj.1 h]
  case duplicateKind.unregisteredMember kind kind' name =>
    obtain ⟨-, hrest⟩ := toString_append_inj (by simp) (by simp) h
    simp at hrest
  case duplicateKind.duplicateKind kind kind' =>
    rw [List.append_cancel_right_eq] at h
    rw [toList_toString_inj.1 h]
  case callDepthExceeded depth depth' => rw [toList_toString_inj.1 h]
  case nullObject operation operation' => rw [String.toList_inj.1 h]
  case invalidName => rfl
  case invalidArgCount count count' => rw [Int.repr_inj.1 (String.toList_inj.1 h)]
  case allocationFailed size size' =>
    rw [List.append_cancel_right_eq] at h
    rw [toList_toString_inj.1 h]

end Failure

end ObjectRuntime
