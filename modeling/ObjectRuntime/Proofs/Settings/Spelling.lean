import Mathlib
import ObjectRuntime.Text.Blank
import ObjectRuntime.Text.Case
/-!
# How a setting is spelled

A setting is read without the white space around it (`Trimmed`), and its words in any letter case
(`Spells`).  Both are told here by what the text looks like.
-/

namespace ObjectRuntime.Text

/-! ## White space -/

/-- What is left of a text without the white space at either end. -/
structure Trimmed (cs t : List Char) : Prop where
  split : ∃ before after, cs = before ++ t ++ after ∧ (∀ c ∈ before, isBlank c = true) ∧
    ∀ c ∈ after, isBlank c = true
  head : ∀ c ∈ t.head?, isBlank c = false
  last : ∀ c ∈ t.getLast?, isBlank c = false

theorem dropWhile_isBlank_append {before t : List Char} (hbefore : ∀ c ∈ before, isBlank c = true)
    (ht : ∀ c ∈ t.head?, isBlank c = false) : (before ++ t).dropWhile isBlank = t := by
  rw [List.dropWhile_append_of_pos hbefore]
  cases t with
  | nil => rfl
  | cons c t => rw [List.dropWhile_cons_of_neg (by simp [ht c rfl])]

theorem strip_of_trimmed {cs t : List Char} (h : Trimmed cs t) : strip cs = t := by
  obtain ⟨⟨before, after, rfl, hbefore, hafter⟩, hhead, hlast⟩ := h
  cases t with
  | nil =>
    have hall : ∀ c ∈ before ++ [] ++ after, isBlank c = true := by
      simpa [or_imp, forall_and] using ⟨hbefore, hafter⟩
    rw [strip, List.dropWhile_eq_nil_iff.2 hall]
    rfl
  | cons c t =>
    have hfront : (before ++ (c :: t) ++ after).dropWhile isBlank = c :: t ++ after := by
      rw [List.append_assoc]
      exact dropWhile_isBlank_append hbefore (by simpa using hhead)
    rw [strip, hfront, List.reverse_append, dropWhile_isBlank_append (by simpa using hafter)
      (by simpa only [List.head?_reverse] using hlast), List.reverse_reverse]

theorem trimmed_strip (cs : List Char) : Trimmed cs (strip cs) := by
  have hstrip : strip cs = (cs.dropWhile isBlank).rdropWhile isBlank := rfl
  have hfront : ∀ c ∈ (cs.dropWhile isBlank).head?, isBlank c = false := fun c hc => by
    have hnot := List.head?_dropWhile_not isBlank cs
    rwa [Option.mem_def.1 hc] at hnot
  rw [hstrip]
  refine ⟨⟨cs.takeWhile isBlank, (cs.dropWhile isBlank).rtakeWhile isBlank, ?_,
    fun c => List.mem_takeWhile_imp, fun c => List.mem_rtakeWhile_imp⟩, fun c hc => ?_,
    fun c hc => ?_⟩
  · rw [List.append_assoc, List.rdropWhile_append_rtakeWhile, List.takeWhile_append_dropWhile]
  · obtain ⟨rest, hrest⟩ := List.rdropWhile_prefix isBlank (l := cs.dropWhile isBlank)
    refine hfront c ?_
    rw [← hrest, List.head?_append, Option.mem_def.1 hc]
    rfl
  · obtain ⟨hne, rfl⟩ := List.mem_getLast?_eq_getLast hc
    simpa using List.rdropWhile_last_not isBlank _ hne

theorem trimmed_iff {cs t : List Char} : Trimmed cs t ↔ t = strip cs :=
  ⟨fun h => (strip_of_trimmed h).symm, fun h => h ▸ trimmed_strip cs⟩

/-! ## Letter case -/

/-- A text is this lower-case word, with each letter in either case. -/
def Spells (cs : List Char) (word : String) : Prop :=
  List.Forall₂ (fun c w => c = w ∨ c = w.toUpper) cs word.toList

theorem isUpper_iff {c : Char} : c.isUpper = true ↔ 65 ≤ c.toNat ∧ c.toNat ≤ 90 := by
  simp [Char.isUpper, UInt32.le_iff_toNat_le, ← Char.toNat_val]

theorem isLower_iff {c : Char} : c.isLower = true ↔ 97 ≤ c.toNat ∧ c.toNat ≤ 122 := by
  simp [Char.isLower, UInt32.le_iff_toNat_le, ← Char.toNat_val]

theorem not_isLower_of_isUpper {c : Char} (h : c.isUpper = true) : ¬ c.isLower = true := by
  rw [isUpper_iff] at h
  rw [isLower_iff]
  omega

theorem toLower_eq_iff {c w : Char} (hw : w.isLower = true) :
    c.toLower = w ↔ c = w ∨ c = w.toUpper := by
  have hupper : w.toLower = w :=
    Char.toLower_eq_of_not_isUpper fun h => not_isLower_of_isUpper h hw
  constructor
  · rintro rfl
    by_cases hc : c.isUpper = true
    · right
      rw [Char.toUpper_toLower_eq_toUpper,
        Char.toUpper_eq_of_not_isLower (not_isLower_of_isUpper hc)]
    · exact .inl (Char.toLower_eq_of_not_isUpper hc).symm
  · rintro (rfl | rfl)
    · exact hupper
    · rw [Char.toLower_toUpper_eq_toLower, hupper]

theorem sameWord_iff {cs : List Char} {word : String}
    (hword : word.toList.all Char.isLower = true) : sameWord cs word = true ↔ Spells cs word := by
  rw [sameWord, beq_iff_eq, Spells]
  generalize word.toList = ws at hword
  induction ws generalizing cs with
  | nil => cases cs <;> simp
  | cons w ws ih =>
    obtain ⟨hw, hws⟩ := Bool.and_eq_true_iff.1 hword
    cases cs with
    | nil => simp
    | cons c cs => simp [toLower_eq_iff hw, ih hws]

end ObjectRuntime.Text
