import Mathlib.Tactic.SplitIfs
/-!
# The order of texts and of their bytes

Texts are ordered character by character.  Encoded as UTF-8 they are ordered the same way byte by
byte (`utf8Bytes_lt`), since the encoding of a character is below that of a later one at the first
byte in which the two differ (`utf8EncodeChar_append_lt`).
-/

namespace ObjectRuntime

open String

/-- The encoding of a text, byte by byte. -/
def utf8Bytes (s : String) : List UInt8 := s.toUTF8.data.toList

theorem utf8Bytes_eq (s : String) : utf8Bytes s = s.toList.flatMap utf8EncodeChar := by
  rw [utf8Bytes, toUTF8, ← utf8Encode_toList, List.utf8Encode]
  simp

/-- The encoding of a character is below that of a later one, whatever follows. -/
theorem utf8EncodeChar_append_lt {c d : Char} (h : c < d) (x y : List UInt8) :
    utf8EncodeChar c ++ x < utf8EncodeChar d ++ y := by
  have hlt : c.val.toNat < d.val.toNat := h
  have hd : d.val.toNat < 1114112 := by
    have hvalid := d.valid
    simp only [UInt32.isValidChar, Nat.isValidChar] at hvalid
    omega
  -- Numbers compare by their digits to the base 64, and all bytes but the first are such digits.
  have hdigit : ∀ {m n : Nat}, m < n → m / 64 < n / 64 ∨ m / 64 = n / 64 ∧ m % 64 < n % 64 := by
    omega
  have hlast := hdigit hlt
  have hmid := @hdigit (c.val.toNat / 64) (d.val.toNat / 64)
  have hfirst := @hdigit (c.val.toNat / 4096) (d.val.toNat / 4096)
  simp only [Nat.div_div_eq_div_mul, Nat.reduceMul] at hmid hfirst
  have htop : c.val.toNat / 262144 % 8 = c.val.toNat / 262144 ∧
      d.val.toNat / 262144 % 8 = d.val.toNat / 262144 := by omega
  have hbyte : ∀ n, (n % 64 + 128) % 256 = n % 64 + 128 ∧ (n % 32 + 192) % 256 = n % 32 + 192 ∧
      (n % 16 + 224) % 256 = n % 16 + 224 ∧ (n % 8 + 240) % 256 = n % 8 + 240 := by omega
  unfold utf8EncodeChar
  dsimp only
  -- A later character has no shorter encoding, and a longer one starts with a larger byte.
  split_ifs <;> try omega
  all_goals
    simp only [List.cons_append, List.nil_append, List.cons_lt_cons_iff, UInt8.lt_iff_toNat_lt,
      ← UInt8.toNat_inj, UInt8.toNat_ofNat', hbyte]
    omega

theorem flatMap_utf8EncodeChar_lt {l l' : List Char} (h : l < l') :
    l.flatMap utf8EncodeChar < l'.flatMap utf8EncodeChar := by
  induction h with
  | @nil c l =>
    rw [List.flatMap_cons, ← List.cons_head_tail (utf8EncodeChar_ne_nil (c := c))]
    exact List.nil_lt_cons _ _
  | @rel c l d l' hcd =>
    rw [List.flatMap_cons, List.flatMap_cons]
    exact utf8EncodeChar_append_lt hcd _ _
  | cons _ ih =>
    rw [List.flatMap_cons, List.flatMap_cons]
    exact List.append_left_lt ih

/-- **Texts are ordered as their bytes are.** -/
theorem utf8Bytes_lt {a b : String} (h : a < b) : utf8Bytes a < utf8Bytes b := by
  rw [utf8Bytes_eq, utf8Bytes_eq]
  exact flatMap_utf8EncodeChar_lt h

theorem pairwise_utf8Bytes_mergeSort {l : List String} (h : l.Nodup) :
    (l.mergeSort fun a b => decide (a ≤ b)).Pairwise fun a b => utf8Bytes a < utf8Bytes b := by
  have htrans (a b c : String) (hab : decide (a ≤ b) = true) (hbc : decide (b ≤ c) = true) :
      decide (a ≤ c) = true :=
    decide_eq_true (String.le_trans (of_decide_eq_true hab) (of_decide_eq_true hbc))
  have htotal (a b : String) : (decide (a ≤ b) || decide (b ≤ a)) = true := by
    rcases String.le_total a b with h | h <;> simp [h]
  have hsorted := List.pairwise_mergeSort htrans htotal l
  have hnodup : (l.mergeSort fun a b => decide (a ≤ b)).Pairwise (· ≠ ·) :=
    (List.mergeSort_perm l _).nodup_iff.2 h
  refine (hsorted.and hnodup).imp fun {a b} ⟨hle, hne⟩ => utf8Bytes_lt ?_
  exact String.not_le.1 fun hge => hne (String.le_antisymm (of_decide_eq_true hle) hge)

end ObjectRuntime
