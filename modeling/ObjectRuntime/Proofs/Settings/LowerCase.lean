import ObjectRuntime.Proofs.Settings.Spelling
/-!
# Lower case and ASCII words

Outside ASCII the lower case of a character has a character outside ASCII in it, but for one that
has a `k` (`lower_cases`).  So a text whose lower case is an ASCII word without that letter is that
word, with each letter in either case.
-/

namespace ObjectRuntime.Text

/-- Where the lower cases of a range are: above ASCII, and not among the surrogates.  The one range
that goes to ASCII is that of the Kelvin sign. -/
def CaseRange.StaysAbove (r : CaseRange) : Prop :=
  0x80 ≤ r.lower ∧
    (r.lower + (r.last - r.first) < 0xD800 ∨
      0xDFFF < r.lower ∧ r.lower + (r.last - r.first) < 0x110000)

instance : DecidablePred CaseRange.StaysAbove := fun r => by
  unfold CaseRange.StaysAbove
  infer_instance

/-- Whether the lower case of a character is one that a text has where it has this character. -/
def LowersTo (c : Char) (part : List Char) : Prop :=
  part = lower c ∨ c = 'Σ' ∧ part = ['ς']

/-- A lower case of a text.  Which of its two lower cases a capital sigma has is up to where it
stands. -/
def Lowers (cs ds : List Char) : Prop :=
  ∃ parts, List.Forall₂ LowersTo cs parts ∧ ds = parts.flatten

theorem caseRanges_stayAbove :
    ∀ r ∈ caseRanges, r.StaysAbove ∨ r = ⟨0x212A, 0x212A, 1, 0x6B⟩ := by
  decide +kernel

theorem CaseRange.lower?_eq_some_iff {r : CaseRange} {n m : Nat} :
    r.lower? n = some m ↔
      (r.first ≤ n ∧ n ≤ r.last ∧ (n - r.first) % r.step = 0) ∧ m = r.lower + (n - r.first) := by
  simp [lower?, eq_comm]

/-- Outside ASCII a lower case is outside ASCII, in part at least, or it is a `k`; the table is gone
through range by range (`CaseRange.StaysAbove`). -/
theorem lower_cases (c : Char) :
    c.toNat < 0x80 ∧ lower c = [c.toLower] ∨ lower c = ['k'] ∨ ∃ d ∈ lower c, 0x80 ≤ d.toNat := by
  unfold lower
  split
  · exact .inr (.inr ⟨'\u0307', by simp, by decide⟩)
  · split
    next hascii => exact .inl ⟨hascii, rfl⟩
    next hascii =>
      right
      cases hn : caseRanges.findSome? (·.lower? c.toNat) with
      | none => exact .inr ⟨c, List.mem_singleton_self c, Nat.not_lt.1 hascii⟩
      | some n =>
        obtain ⟨r, hr, hlower⟩ := List.exists_of_findSome?_eq_some hn
        obtain ⟨⟨hfirst, hlast, -⟩, rfl⟩ := CaseRange.lower?_eq_some_iff.1 hlower
        rcases caseRanges_stayAbove r hr with ⟨habove, hvalid⟩ | rfl
        · refine .inr ⟨_, List.mem_singleton_self _, ?_⟩
          have hcode : (r.lower + (c.toNat - r.first)).isValidChar := by
            unfold Nat.isValidChar
            omega
          rw [Char.toNat_ofNat, if_pos hcode]
          exact Nat.le_add_right_of_le habove
        · left
          have hc : c.toNat = 0x212A := by
            dsimp only at hfirst hlast
            omega
          simp only [hc]

theorem LowersTo.cases {c : Char} {part : List Char} (h : LowersTo c part) :
    c.toNat < 0x80 ∧ part = [c.toLower] ∨ part = ['k'] ∨ ∃ d ∈ part, 0x80 ≤ d.toNat := by
  rcases h with rfl | ⟨-, rfl⟩
  · exact lower_cases c
  · exact .inr (.inr ⟨'ς', List.mem_singleton_self _, by decide⟩)

theorem LowersTo.of_ascii {c : Char} {part : List Char} (h : LowersTo c part)
    (hc : c.toNat < 0x80) : part = [c.toLower] := by
  rcases h with rfl | ⟨rfl, -⟩
  · have hdotted : c ≠ '\u0130' := by
      rintro rfl
      exact absurd hc (by decide)
    rw [lower, if_neg hdotted, if_pos hc]
  · exact absurd hc (by decide)

theorem toNat_lt_of_isLower {c : Char} (h : c.isLower = true) : c.toNat < 0x80 := by
  rw [isLower_iff] at h
  omega

theorem toNat_lt_of_toLower {c : Char} (h : c.toLower.isLower = true) : c.toNat < 0x80 := by
  by_cases hc : c.isUpper = true
  · rw [isUpper_iff] at hc
    omega
  · rw [Char.toLower_eq_of_not_isUpper hc] at h
    exact toNat_lt_of_isLower h

/-- Whichever lower case a text has, it is a word like this only if the text is. -/
theorem Lowers.eq_iff_spells {cs ds : List Char} (h : Lowers cs ds) {word : String}
    (hword : word.toList.all Char.isLower = true) (hk : 'k' ∉ word.toList) :
    ds = word.toList ↔ Spells cs word := by
  obtain ⟨parts, hparts, rfl⟩ := h
  unfold Spells
  generalize word.toList = ws at hword hk
  -- Part by part: each is one letter of the word, or it has a character that the word has not.
  induction hparts generalizing ws with
  | nil => simp [eq_comm]
  | @cons c part cs parts hc hcs ih =>
    constructor
    · rintro rfl
      have hpart : c.toNat < 0x80 ∧ part = [c.toLower] := by
        refine hc.cases.resolve_right ?_
        rintro (rfl | ⟨d, hd, habove⟩)
        · exact hk (by simp)
        · have hlower := List.all_eq_true.1 hword d (by simp [hd])
          exact absurd (toNat_lt_of_isLower hlower) (Nat.not_lt.2 habove)
      obtain ⟨-, rfl⟩ := hpart
      simp only [List.flatten_cons, List.singleton_append, List.all_cons, Bool.and_eq_true,
        List.mem_cons, not_or] at hword hk ⊢
      exact .cons ((toLower_eq_iff hword.1).1 rfl) ((ih _ hword.2 hk.2).1 rfl)
    · intro hspells
      cases hspells with
      | @cons _ w _ ws hw hws =>
        simp only [List.all_cons, Bool.and_eq_true, List.mem_cons, not_or] at hword hk
        have hlower : c.toLower = w := (toLower_eq_iff hword.1).2 hw
        have hascii : c.toNat < 0x80 := toNat_lt_of_toLower (hlower ▸ hword.1)
        rw [List.flatten_cons, hc.of_ascii hascii, hlower, (ih _ hword.2 hk.2).2 hws]
        rfl

theorem lowers_lower (cs : List Char) : Lowers cs (cs.flatMap lower) := by
  refine ⟨cs.map lower, ?_, List.flatMap_def⟩
  rw [List.forall₂_map_right_iff]
  exact List.forall₂_same.2 fun c _ => .inl rfl

end ObjectRuntime.Text
