import Mathlib
import ObjectRuntime.Text.Decimal
/-!
# Decimal numbers

What a number looks like in print, and which texts are read as numbers.  A numeral is told by what
it looks like (`IsNumeral`): a plus sign or not, and decimal digits.
-/

namespace ObjectRuntime

/-- Where characters with a property come first and the rest starts without it, both parts are known
from the whole. -/
theorem append_inj_of_all {p : Char → Bool} {a b x y : List Char} (ha : ∀ c ∈ a, p c = true)
    (hb : ∀ c ∈ b, p c = true) (hx : ∀ c ∈ x.head?, p c = false) (hy : ∀ c ∈ y.head?, p c = false)
    (h : a ++ x = b ++ y) : a = b ∧ x = y := by
  have hstops {z : List Char} (hz : ∀ c ∈ z.head?, p c = false) : z.takeWhile p = [] := by
    cases z with
    | nil => rfl
    | cons c z => exact List.takeWhile_cons_of_neg (by simp [hz c rfl])
  have hfirst := congrArg (List.takeWhile p) h
  rw [List.takeWhile_append_of_pos ha, List.takeWhile_append_of_pos hb, hstops hx, hstops hy,
    List.append_nil, List.append_nil] at hfirst
  subst hfirst
  exact ⟨rfl, List.append_cancel_left h⟩

/-! ## Numbers in print -/

theorem toList_toString (n : UInt64) : (toString n).toList = Nat.toDigits 10 n.toNat :=
  Nat.toList_repr

theorem isDigit_of_mem_toString {n : UInt64} {c : Char} (h : c ∈ (toString n).toList) :
    c.isDigit = true := by
  rw [toList_toString] at h
  exact Nat.isDigit_of_mem_toDigits (by decide) (by decide) h

theorem toList_toString_inj {m n : UInt64} :
    (toString m).toList = (toString n).toList ↔ m = n := by
  rw [String.toList_inj, ← UInt64.toNat_inj]
  exact Nat.repr_inj

theorem toString_append_inj {m n : UInt64} {x y : List Char}
    (hx : ∀ c ∈ x.head?, c.isDigit = false) (hy : ∀ c ∈ y.head?, c.isDigit = false)
    (h : (toString m).toList ++ x = (toString n).toList ++ y) : m = n ∧ x = y := by
  obtain ⟨hdigits, hrest⟩ := append_inj_of_all (fun _ => isDigit_of_mem_toString)
    (fun _ => isDigit_of_mem_toString) hx hy h
  exact ⟨toList_toString_inj.1 hdigits, hrest⟩

/-! ## Numerals -/

namespace Text

/-- The value of decimal digits, the most significant first. -/
def decimalValue (digits : List Char) : Nat :=
  Nat.ofDigits 10 (digits.reverse.map fun c => c.toNat - '0'.toNat)

/-- An optional plus sign and one or more decimal digits with this value. -/
def IsNumeral (t : List Char) (n : Nat) : Prop :=
  ∃ sign digits, (sign = [] ∨ sign = ['+']) ∧ t = sign ++ digits ∧ digits ≠ [] ∧
    (∀ c ∈ digits, c.isDigit = true) ∧ decimalValue digits = n

theorem digitsValue_eq (digits : List Char) : digitsValue digits = decimalValue digits := by
  rw [decimalValue, Nat.ofDigits_eq_foldr, List.foldr_map, List.foldr_reverse, digitsValue]
  simp only [Nat.cast_id, Nat.add_comm]

theorem readDigits?_eq_some_iff {digits : List Char} {n : Nat} :
    readDigits? digits = some n ↔
      digits ≠ [] ∧ (∀ c ∈ digits, c.isDigit = true) ∧ decimalValue digits = n := by
  simp [readDigits?, digitsValue_eq, and_assoc]

theorem bind_ofNat_eq_some_iff {o : Option Nat} {n : UInt64} :
    (o.bind fun m => if m < UInt64.size then some (UInt64.ofNat m) else none) = some n ↔
      o = some n.toNat := by
  constructor
  · intro h
    obtain ⟨m, rfl, hm⟩ := Option.bind_eq_some_iff.1 h
    obtain ⟨hlt, hm⟩ := Option.ite_none_right_eq_some.1 hm
    cases hm
    rw [UInt64.toNat_ofNat_of_lt' hlt]
  · rintro rfl
    rw [Option.bind_some, if_pos n.toNat_lt_size, UInt64.ofNat_toNat]

theorem isNumeral_iff {t : List Char} {n : Nat} :
    IsNumeral t n ↔ readDigits? (match t with | '+' :: rest => rest | _ => t) = some n := by
  rw [readDigits?_eq_some_iff]
  split
  next rest =>
    constructor
    · rintro ⟨sign, digits, rfl | rfl, ht, hne, hdigits, hvalue⟩
      · rw [List.nil_append] at ht
        subst ht
        exact absurd (hdigits '+' (by simp)) (by decide)
      · cases ht
        exact ⟨hne, hdigits, hvalue⟩
    · rintro ⟨hne, hdigits, hvalue⟩
      exact ⟨['+'], rest, .inr rfl, rfl, hne, hdigits, hvalue⟩
  next hplus =>
    constructor
    · rintro ⟨sign, digits, rfl | rfl, rfl, hne, hdigits, hvalue⟩
      · exact ⟨hne, hdigits, hvalue⟩
      · exact absurd rfl (hplus digits)
    · rintro ⟨hne, hdigits, hvalue⟩
      exact ⟨[], t, .inl rfl, rfl, hne, hdigits, hvalue⟩

theorem readWord?_eq_some_iff {t : List Char} {n : UInt64} :
    readWord? t = some n ↔ IsNumeral t n.toNat := by
  rw [isNumeral_iff, ← bind_ofNat_eq_some_iff]
  rfl

theorem readWord?_eq_none_iff {t : List Char} :
    readWord? t = none ↔ ∀ n < 2 ^ 64, ¬ IsNumeral t n := by
  rw [Option.eq_none_iff_forall_ne_some]
  simp only [ne_eq, readWord?_eq_some_iff]
  constructor
  · intro h n hn hnumeral
    exact h (UInt64.ofNat n) (by rwa [UInt64.toNat_ofNat_of_lt' hn])
  · exact fun h n => h n.toNat n.toNat_lt

theorem isNumeral_zero_iff {t : List Char} :
    IsNumeral t 0 ↔
      ∃ sign k, (sign = [] ∨ sign = ['+']) ∧ t = sign ++ List.replicate (k + 1) '0' := by
  constructor
  · rintro ⟨sign, digits, hsign, rfl, hne, hdigits, hvalue⟩
    have hsum := Nat.sum_le_ofDigits (p := 10) (digits.reverse.map fun c => c.toNat - '0'.toNat)
      (by decide)
    rw [← decimalValue, hvalue, Nat.le_zero, List.sum_eq_zero_iff] at hsum
    have hzero : ∀ c ∈ digits, c = '0' := fun c hc => by
      have hdigit := Char.isDigit_iff_toNat.1 (hdigits c hc)
      have hvalue := hsum (c.toNat - '0'.toNat)
        (List.mem_map_of_mem (f := fun c : Char => c.toNat - '0'.toNat) (List.mem_reverse.2 hc))
      exact Char.toNat_inj.1 (by omega)
    have hlength : digits.length - 1 + 1 = digits.length :=
      Nat.succ_pred_eq_of_pos (List.length_pos_iff.2 hne)
    exact ⟨sign, digits.length - 1, hsign, by rw [hlength, List.eq_replicate_of_mem hzero]; simp⟩
  · rintro ⟨sign, k, hsign, rfl⟩
    refine ⟨sign, _, hsign, rfl, by simp, fun c hc => ?_, ?_⟩
    · rw [List.eq_of_mem_replicate hc]
      rfl
    · simp [decimalValue]

theorem isNumeral_toString (n : UInt64) : IsNumeral (toString n).toList n.toNat := by
  refine ⟨[], (toString n).toList, .inl rfl, rfl, ?_, fun c => isDigit_of_mem_toString, ?_⟩
  · rw [toList_toString]
    exact Nat.toDigits_ne_nil
  · rw [← digitsValue_eq, toList_toString, digitsValue, ← Nat.ofDigitChars_eq_foldl,
      Nat.ofDigitChars_ten_toDigits]

end Text

end ObjectRuntime
