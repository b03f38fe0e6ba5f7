import Mathlib.Algebra.BigOperators.Group.Finset.Basic
import Mathlib.Algebra.Order.BigOperators.Group.Finset
import Mathlib.Data.Fintype.EquivFin
import Mathlib.Logic.Relation
import Mathlib.Order.WellFounded
import ObjectRuntime.Heap
/-!
# Ownership graphs

Objects that refer to each other through fields, each field standing for one counted reference.  An
object may be referred to any number of times, also by itself.  Without cycles the counts decide
what is `Reachable` (`reachable_of_acyclic`).
-/

namespace ObjectRuntime

/-- What is in the fields of each object. -/
abbrev Fields := Ref → List Pointer

namespace Fields

variable (f : Fields)

/-- The objects in the fields of an object, each as often as it is there. -/
def targets (r : Ref) : List Ref := (f r).filterMap id

/-- Whether an object is in a field of another. -/
def Refers (s t : Ref) : Prop := t ∈ f.targets s

/-- How many fields of some objects an object is in. -/
def refs (objects : Finset Ref) (r : Ref) : Nat := ∑ s ∈ objects, (f.targets s).count r

/-- Whether fields lead to an object from one that references are held to. -/
def Reachable (held : Ref → Nat) (r : Ref) : Prop :=
  ∃ s, 0 < held s ∧ Relation.ReflTransGen f.Refers s r

variable {f}

theorem refs_eq_zero_iff {objects : Finset Ref} {r : Ref} :
    f.refs objects r = 0 ↔ ∀ s ∈ objects, r ∉ f.targets s := by
  simp [refs, Finset.sum_eq_zero_iff, List.count_eq_zero]

theorem refs_erase {objects : Finset Ref} {o : Ref} (ho : o ∈ objects) (r : Ref) :
    f.refs objects r = (f.targets o).count r + f.refs (objects.erase o) r :=
  (Finset.add_sum_erase objects (fun s => (f.targets s).count r) ho).symm

theorem mem_of_reachable {objects : Finset Ref} {held : Ref → Nat}
    (hclosed : ∀ s ∈ objects, ∀ t ∈ f.targets s, t ∈ objects)
    (hheld : ∀ s, 0 < held s → s ∈ objects) {r : Ref} (hr : f.Reachable held r) :
    r ∈ objects := by
  obtain ⟨s, hs, hpath⟩ := hr
  induction hpath with
  | refl => exact hheld s hs
  | tail _ hstep ih => exact hclosed _ ih _ hstep

/-- Without cycles, objects that all have references left are all `Reachable`: going back along the
references comes to an end, and only where one is held. -/
theorem reachable_of_acyclic {objects : Finset Ref} {held : Ref → Nat}
    (hacyclic : ∀ r ∈ objects, ¬ Relation.TransGen f.Refers r r)
    (hcount : ∀ r ∈ objects, 0 < f.refs objects r + held r) {r : Ref} (hr : r ∈ objects) :
    f.Reachable held r := by
  -- There are finitely many objects, so a relation without cycles on them is well-founded.
  let Back (x y : objects) : Prop := f.Refers x.1 y.1
  have hwf : WellFounded (Relation.TransGen Back) := by
    have : IsTrans objects (Relation.TransGen Back) := ⟨fun _ _ _ => Relation.TransGen.trans⟩
    have : Std.Irrefl (Relation.TransGen Back) :=
      ⟨fun x hx => hacyclic x.1 x.2 (hx.lift Subtype.val fun _ _ h => h)⟩
    exact Finite.wellFounded_of_trans_of_irrefl _
  suffices h : ∀ x : objects, f.Reachable held x.1 from h ⟨r, hr⟩
  intro x
  induction x using hwf.induction with
  | h x ih =>
    by_cases hheld : 0 < held x.1
    · exact ⟨x.1, hheld, .refl⟩
    · have hrefs : f.refs objects x.1 ≠ 0 := by
        have := hcount x.1 x.2
        omega
      rw [Ne, refs_eq_zero_iff] at hrefs
      push Not at hrefs
      obtain ⟨s, hs, hx⟩ := hrefs
      obtain ⟨root, hroot, hpath⟩ := ih ⟨s, hs⟩ (.single hx)
      exact ⟨root, hroot, hpath.tail hx⟩

end Fields

end ObjectRuntime
