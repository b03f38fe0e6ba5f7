import ObjectRuntime.Proofs.History.ByteOrder
/-!
# Well-formed UTF-8

Which lists of bytes are texts.  The bytes of a character are told by a table (`CharBytes`): how
many there are is up to the first, the others are in a fixed range, and four leading bytes restrict
the one that follows them.  The bytes that can be read as a text are those of one character after
another (`wellFormed_iff_exists_utf8Bytes`).
-/

namespace ObjectRuntime.Text

open String

/-- Whether a byte can stand in a character at any place but the first. -/
def IsTail (b : UInt8) : Prop := 0x80 ≤ b ∧ b ≤ 0xBF

instance : DecidablePred IsTail := fun b => inferInstanceAs (Decidable (0x80 ≤ b ∧ b ≤ 0xBF))

/-- The bytes of one character. -/
inductive CharBytes : List UInt8 → Prop where
  | one {a : UInt8} (ha : a ≤ 0x7F) : CharBytes [a]
  /-- `C0` and `C1` would lead what fits in one byte. -/
  | two {a b : UInt8} (ha : 0xC2 ≤ a ∧ a ≤ 0xDF) (hb : IsTail b) : CharBytes [a, b]
  | three {a b c : UInt8} (ha : 0xE0 ≤ a ∧ a ≤ 0xEF) (hb : IsTail b) (hc : IsTail c)
      (notOverlong : a = 0xE0 → 0xA0 ≤ b) (notSurrogate : a = 0xED → b ≤ 0x9F) :
      CharBytes [a, b, c]
  /-- The last code point is `10FFFF`. -/
  | four {a b c d : UInt8} (ha : 0xF0 ≤ a ∧ a ≤ 0xF4) (hb : IsTail b) (hc : IsTail c)
      (hd : IsTail d) (notOverlong : a = 0xF0 → 0x90 ≤ b) (notBeyond : a = 0xF4 → b ≤ 0x8F) :
      CharBytes [a, b, c, d]

/-- The bytes of one character after another, with no bytes left at the end. -/
inductive WellFormed : List UInt8 → Prop where
  | nil : WellFormed []
  | cons {first rest : List UInt8} (hfirst : CharBytes first) (hrest : WellFormed rest) :
      WellFormed (first ++ rest)

theorem charBytes_utf8EncodeChar (c : Char) : CharBytes (utf8EncodeChar c) := by
  have hvalid : c.val.toNat < 0xD800 ∨ 0xDFFF < c.val.toNat ∧ c.val.toNat < 0x110000 := c.valid
  unfold utf8EncodeChar
  dsimp only
  split_ifs with h₁ h₂ h₃
  · refine .one ?_
    simp only [UInt8.le_iff_toNat_le, UInt8.toNat_ofNat', UInt8.reduceToNat]
    omega
  · refine .two ?_ ?_ <;>
      simp only [IsTail, UInt8.le_iff_toNat_le, UInt8.toNat_ofNat', UInt8.reduceToNat] <;> omega
  · refine .three ?_ ?_ ?_ ?_ ?_ <;>
      simp only [IsTail, UInt8.le_iff_toNat_le, ← UInt8.toNat_inj, UInt8.toNat_ofNat',
        UInt8.reduceToNat] <;> omega
  · refine .four ?_ ?_ ?_ ?_ ?_ ?_ <;>
      simp only [IsTail, UInt8.le_iff_toNat_le, ← UInt8.toNat_inj, UInt8.toNat_ofNat',
        UInt8.reduceToNat] <;> omega

theorem exists_char {n : Nat} (h : n < 0xD800 ∨ 0xDFFF < n ∧ n < 0x110000) :
    ∃ c : Char, c.val.toNat = n := by
  refine ⟨Char.ofNat n, ?_⟩
  rw [Char.ofNat, dif_pos h]
  rfl

theorem CharBytes.exists_char {l : List UInt8} (h : CharBytes l) :
    ∃ c : Char, utf8EncodeChar c = l := by
  -- The code point is made of the bits that the bytes do not share with all bytes in their place.
  cases h with
  | @one a ha =>
    simp only [UInt8.le_iff_toNat_le, UInt8.reduceToNat] at ha
    obtain ⟨c, hc⟩ := Text.exists_char (n := a.toNat) (by omega)
    refine ⟨c, ?_⟩
    unfold utf8EncodeChar
    dsimp only
    rw [if_pos (by omega)]
    simp [hc]
  | @two a b ha hb =>
    simp only [IsTail, UInt8.le_iff_toNat_le, UInt8.reduceToNat] at ha hb
    obtain ⟨c, hc⟩ := Text.exists_char (n := (a.toNat - 0xC0) * 64 + (b.toNat - 0x80)) (by omega)
    refine ⟨c, ?_⟩
    unfold utf8EncodeChar
    dsimp only
    rw [if_neg (by omega), if_pos (by omega)]
    simp only [List.cons.injEq, and_true, ← UInt8.toNat_inj, UInt8.toNat_ofNat']
    omega
  | @three a b c ha hb hc notOverlong notSurrogate =>
    simp only [IsTail, UInt8.le_iff_toNat_le, ← UInt8.toNat_inj, UInt8.reduceToNat] at *
    obtain ⟨d, hd⟩ := Text.exists_char
      (n := (a.toNat - 0xE0) * 4096 + (b.toNat - 0x80) * 64 + (c.toNat - 0x80)) (by omega)
    refine ⟨d, ?_⟩
    unfold utf8EncodeChar
    dsimp only
    rw [if_neg (by omega), if_neg (by omega), if_pos (by omega)]
    simp only [List.cons.injEq, and_true, ← UInt8.toNat_inj, UInt8.toNat_ofNat']
    omega
  | @four a b c d ha hb hc hd notOverlong notBeyond =>
    simp only [IsTail, UInt8.le_iff_toNat_le, ← UInt8.toNat_inj, UInt8.reduceToNat] at *
    obtain ⟨e, he⟩ := Text.exists_char (n := (a.toNat - 0xF0) * 262144 +
      (b.toNat - 0x80) * 4096 + (c.toNat - 0x80) * 64 + (d.toNat - 0x80)) (by omega)
    refine ⟨e, ?_⟩
    unfold utf8EncodeChar
    dsimp only
    rw [if_neg (by omega), if_neg (by omega), if_neg (by omega)]
    simp only [List.cons.injEq, and_true, ← UInt8.toNat_inj, UInt8.toNat_ofNat']
    omega

theorem wellFormed_iff_exists_flatMap {l : List UInt8} :
    WellFormed l ↔ ∃ cs : List Char, cs.flatMap utf8EncodeChar = l := by
  constructor
  · intro h
    induction h with
    | nil => exact ⟨[], rfl⟩
    | cons hfirst _ ih =>
      obtain ⟨c, rfl⟩ := hfirst.exists_char
      obtain ⟨cs, rfl⟩ := ih
      exact ⟨c :: cs, rfl⟩
  · rintro ⟨cs, rfl⟩
    induction cs with
    | nil => exact .nil
    | cons c cs ih => exact .cons (charBytes_utf8EncodeChar c) ih

theorem fromUTF8?_eq_some_iff {b : ByteArray} {s : String} :
    String.fromUTF8? b = some s ↔ b = s.toUTF8 := by
  constructor
  · intro h
    unfold String.fromUTF8? at h
    split at h
    · cases h
      rfl
    · cases h
  · rintro rfl
    have hvalid : s.toUTF8.IsValidUTF8 := s.isValidUTF8
    rw [String.fromUTF8?, dif_pos hvalid]
    rfl

theorem eq_toUTF8_iff {b : ByteArray} {s : String} :
    b = s.toUTF8 ↔ b.data.toList = utf8Bytes s := by
  rw [utf8Bytes, Array.toList_inj, ← ByteArray.ext_iff]

/-- **Well-formed bytes are those that some text is encoded as.** -/
theorem wellFormed_iff_exists_utf8Bytes {l : List UInt8} :
    WellFormed l ↔ ∃ s, utf8Bytes s = l := by
  rw [wellFormed_iff_exists_flatMap]
  constructor
  · rintro ⟨cs, hcs⟩
    exact ⟨String.ofList cs, by rw [utf8Bytes_eq, String.toList_ofList, hcs]⟩
  · rintro ⟨s, hs⟩
    exact ⟨s.toList, by rw [← utf8Bytes_eq, hs]⟩

theorem utf8Bytes_inj {s t : String} : utf8Bytes s = utf8Bytes t ↔ s = t := by
  refine ⟨fun h => ?_, congrArg utf8Bytes⟩
  have hs : String.fromUTF8? s.toUTF8 = some s := fromUTF8?_eq_some_iff.2 rfl
  have ht : String.fromUTF8? s.toUTF8 = some t := fromUTF8?_eq_some_iff.2 (eq_toUTF8_iff.2 h)
  exact Option.some.inj (hs.symm.trans ht)

end ObjectRuntime.Text
