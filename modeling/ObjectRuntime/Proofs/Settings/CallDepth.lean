import ObjectRuntime.Proofs.Decimal
import ObjectRuntime.Proofs.Settings.Spelling
import ObjectRuntime.Settings
/-!
# What the call-depth setting accepts

A text without the white space around it is the word for no cap, or a numeral that 64 bits hold, or
it is not understood (`Accepts`).
-/

namespace ObjectRuntime

theorem Text.isBlank_of_isDigit {c : Char} (h : c.isDigit = true) : isBlank c = false := by
  have hc : 48 ≤ c.toNat ∧ c.toNat ≤ 57 := Char.isDigit_iff_toNat.1 h
  simp only [isBlank, Bool.or_eq_false_iff, Bool.and_eq_false_iff, decide_eq_false_iff_not,
    beq_eq_false_iff_ne]
  omega

namespace DepthCap

theorem not_isNumeral_of_spells {t : List Char} (h : Text.Spells t "none") (n : Nat) :
    ¬ Text.IsNumeral t n := by
  rintro ⟨sign, digits, hsign, rfl, hne, hdigits, -⟩
  obtain ⟨d, digits, rfl⟩ := List.exists_cons_of_ne_nil hne
  have hd := hdigits d (List.mem_cons_self ..)
  rcases hsign with rfl | rfl
  · obtain rfl | rfl := (List.forall₂_cons.1 h).1 <;> revert hd <;> decide
  · have hfirst := (List.forall₂_cons.1 h).1
    revert hfirst
    decide

/-- What a text asks for, by what is left of it without the white space around it. -/
structure Accepts (v : String) (t : List Char) : Prop where
  uncapped : parse? v = some none ↔ Text.Spells t "none" ∨
    ∃ sign k, (sign = [] ∨ sign = ['+']) ∧ t = sign ++ List.replicate (k + 1) '0'
  capped : ∀ n : UInt64, parse? v = some (some n) ↔ 1 ≤ n.toNat ∧ Text.IsNumeral t n.toNat
  notUnderstood : parse? v = none ↔ ¬ Text.Spells t "none" ∧ ∀ n < 2 ^ 64, ¬ Text.IsNumeral t n

theorem accepts (v : String) : Accepts v (Text.strip v.toList) := by
  have hword : Text.sameWord (Text.strip v.toList) "none" = true ↔
      Text.Spells (Text.strip v.toList) "none" := Text.sameWord_iff (by decide)
  generalize ht : Text.strip v.toList = t at hword
  by_cases hspell : Text.Spells t "none"
  · have hparse : parse? v = some none := by
      simp only [parse?, ht, hword.2 hspell, if_true]
    have hnumeral := not_isNumeral_of_spells hspell
    exact ⟨by simp [hparse, hspell], by simp [hparse, hnumeral], by simp [hparse, hspell]⟩
  · have hparse : parse? v = (Text.readWord? t).map fun n => if n = 0 then none else some n := by
      simp only [parse?, ht, if_neg (mt hword.1 hspell)]
    refine ⟨?_, fun n => ?_, ?_⟩
    · have hzero (n : UInt64) : (if n = 0 then (none : DepthCap) else some n) = none ↔ n = 0 := by
        split <;> simp_all
      rw [← Text.isNumeral_zero_iff, or_iff_right hspell, hparse, Option.map_eq_some_iff]
      simp only [hzero, exists_eq_right]
      exact Text.readWord?_eq_some_iff
    · have hpositive (m : UInt64) :
          (if m = 0 then (none : DepthCap) else some m) = some n ↔ 1 ≤ n.toNat ∧ m = n := by
        by_cases hm : m = 0
        · subst hm
          rw [if_pos rfl]
          refine ⟨fun h => (by cases h), ?_⟩
          rintro ⟨hone, rfl⟩
          exact absurd hone (by decide)
        · rw [if_neg hm, Option.some.injEq]
          refine ⟨?_, And.right⟩
          rintro rfl
          exact ⟨Nat.one_le_iff_ne_zero.2 fun h => hm (UInt64.toNat_inj.1 h), rfl⟩
      rw [hparse, Option.map_eq_some_iff, ← Text.readWord?_eq_some_iff]
      simp only [hpositive]
      constructor
      · rintro ⟨m, hm, hone, rfl⟩
        exact ⟨hone, hm⟩
      · exact fun ⟨hone, hm⟩ => ⟨n, hm, hone, rfl⟩
    · rw [hparse, Option.map_eq_none_iff, Text.readWord?_eq_none_iff, and_iff_right hspell]

theorem parse?_ne_zero (v : String) : parse? v ≠ some (some 0) := fun h =>
  absurd (((accepts v).capped 0).1 h).1 (by decide)

theorem maxCallDepth_ne_zero (env : Environment) :
    (Settings.ofEnvironment env).maxCallDepth ≠ some 0 := by
  intro hzero
  simp only [Settings.ofEnvironment] at hzero
  cases hv : env.text? "KINDRT_MAX_CALL_DEPTH" with
  | none => simp [hv, standard] at hzero
  | some v =>
    cases hcap : parse? v with
    | none => simp [hv, hcap, standard] at hzero
    | some cap =>
      simp only [hv, hcap, Option.bind_some, Option.getD_some] at hzero
      exact parse?_ne_zero v (hzero ▸ hcap)

theorem trimmed_toString {n : UInt64} {before after : List Char}
    (hbefore : ∀ c ∈ before, Text.isBlank c = true) (hafter : ∀ c ∈ after, Text.isBlank c = true) :
    Text.Trimmed (before ++ (toString n).toList ++ after) (toString n).toList := by
  have hink (c : Char) (hc : c ∈ (toString n).toList) : Text.isBlank c = false :=
    Text.isBlank_of_isDigit (isDigit_of_mem_toString hc)
  exact ⟨⟨before, after, rfl, hbefore, hafter⟩, fun c hc => hink c (List.mem_of_head? hc),
    fun c hc => hink c (List.mem_of_getLast? hc)⟩

/-- **The call-depth setting accepts exactly its grammar.** -/
theorem call_depth_grammar (v : String) :
    (∃ t, (∀ t', Text.Trimmed v.toList t' ↔ t' = t) ∧ Accepts v t) ∧
      (∀ (n : UInt64) before after, 1 ≤ n.toNat → (∀ c ∈ before, Text.isBlank c = true) →
        (∀ c ∈ after, Text.isBlank c = true) →
        v.toList = before ++ (toString n).toList ++ after → parse? v = some (some n)) ∧
      ∀ env : Environment,
        (env.text? "KINDRT_MAX_CALL_DEPTH" = some v →
          (Settings.ofEnvironment env).maxCallDepth = (parse? v).getD .standard) ∧
        (Settings.ofEnvironment env).maxCallDepth ≠ some 0 := by
  refine ⟨⟨_, fun t' => Text.trimmed_iff, accepts v⟩, fun n before after hn hbefore hafter hv => ?_,
    fun env => ⟨fun henv => ?_, maxCallDepth_ne_zero env⟩⟩
  · have htrimmed := trimmed_toString (n := n) hbefore hafter
    rw [← hv, Text.trimmed_iff] at htrimmed
    rw [(accepts v).capped, ← htrimmed]
    exact ⟨hn, Text.isNumeral_toString n⟩
  · simp only [Settings.ofEnvironment, henv]
    rfl

theorem call_depth_grammar_padded : parse? "\u2003 42\n" = some (some 42) := by
  have hblank : Text.isBlank '\u2003' = true ∧ Text.isBlank ' ' = true ∧
      Text.isBlank '\n' = true := by decide
  have hprint : (toString (42 : UInt64)).toList = ['4', '2'] := by
    rw [toList_toString]
    rfl
  refine (call_depth_grammar _).2.1 42 ['\u2003', ' '] ['\n'] (by decide) ?_ ?_ (by simp [hprint])
  · simpa using ⟨hblank.1, hblank.2.1⟩
  · simpa using hblank.2.2

end DepthCap

end ObjectRuntime
