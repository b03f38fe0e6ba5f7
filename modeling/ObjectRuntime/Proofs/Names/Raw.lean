import ObjectRuntime.Foreign
import ObjectRuntime.Proofs.Utf8
/-!
# Raw names and argument lists

A name at the C interface is a pointer and a length, and what it denotes is up to the bytes alone
that are found there: the text that is encoded as them, if there is one (`decode_eq_ok_iff`).
-/

namespace ObjectRuntime

@[simp] theorem utf8Bytes_empty : utf8Bytes "" = [] := rfl

namespace RawName

/-- How many bytes a caller says there are. -/
def length : RawName → Nat
  | .null n => n.toNat
  | .bytes content => content.size

/-- The bytes of a name.  A null pointer has none unless none are asked for. -/
def encoded? : RawName → Option (List UInt8)
  | .null n => if n = 0 then some [] else none
  | .bytes content => some content.data.toList

/-- There are bytes, and they are UTF-8. -/
def WellFormed (name : RawName) : Prop := ∃ b, name.encoded? = some b ∧ Text.WellFormed b

variable {name name' : RawName} {text : String}

theorem decode_eq_ok_iff : name.decode = .ok text ↔ name.encoded? = some (utf8Bytes text) := by
  cases name with
  | null n =>
    by_cases hn : n = 0
    · subst hn
      have hempty : "" = text ↔ [] = utf8Bytes text := Text.utf8Bytes_inj.symm
      simpa [decode, encoded?] using hempty
    · have hdecode : decode (.null n) = .error .invalidName := by
        unfold decode
        split <;> simp_all
      simp [hdecode, encoded?, hn]
  | bytes content =>
    have hread := Text.fromUTF8?_eq_some_iff (b := content) (s := text)
    simp only [decode, encoded?, Option.some.injEq, ← Text.eq_toUTF8_iff, ← hread]
    cases String.fromUTF8? content <;> simp

theorem wellFormed_iff : name.WellFormed ↔ ∃ text, name.decode = .ok text := by
  simp only [decode_eq_ok_iff]
  constructor
  · rintro ⟨b, hb, hwell⟩
    obtain ⟨text, rfl⟩ := Text.wellFormed_iff_exists_utf8Bytes.1 hwell
    exact ⟨text, hb⟩
  · rintro ⟨text, htext⟩
    exact ⟨_, htext, Text.wellFormed_iff_exists_utf8Bytes.2 ⟨text, rfl⟩⟩

theorem eq_of_decode_eq_error {e : Failure} (h : name.decode = .error e) : e = .invalidName := by
  unfold decode at h
  split at h
  · cases h
  · cases h
    rfl
  · split at h <;> cases h
    rfl

theorem decode_of_not_wellFormed (h : ¬ name.WellFormed) : name.decode = .error .invalidName := by
  cases hname : name.decode with
  | ok text => exact absurd (wellFormed_iff.2 ⟨text, hname⟩) h
  | error e => rw [eq_of_decode_eq_error hname]

theorem decode_of_length_eq_zero (h : name.length = 0) : name.decode = .ok "" := by
  rw [decode_eq_ok_iff, utf8Bytes_empty]
  cases name with
  | null n =>
    have hn : n = 0 := UInt64.toNat_inj.1 h
    simp [encoded?, hn]
  | bytes content =>
    have hempty : content = ByteArray.empty := ByteArray.size_eq_zero_iff.1 h
    rw [encoded?, hempty]
    rfl

end RawName

namespace RawArgs

/-- An argument list is passed as it should be: there is an array, or no argument. -/
def Holds (args : RawArgs) (list : List Pointer) : Prop :=
  0 ≤ args.count ∧
    match args.array with
    | some array => list = array.take args.count.toNat
    | none => args.count = 0 ∧ list = []

variable {args : RawArgs} {list : List Pointer}

theorem decode_of_holds (h : args.Holds list) : args.decode = .ok list := by
  obtain ⟨hcount, h⟩ := h
  rw [decode, if_neg (by omega)]
  cases harray : args.array with
  | some array => simp_all
  | none => simp_all

theorem decode_of_neg (h : args.count < 0) : args.decode = .error (.invalidArgCount args.count) :=
  if_pos h

theorem decode_of_null (hcount : 0 < args.count) (harray : args.array = none) :
    args.decode = .error (.nullObject "argument array") := by
  rw [decode, if_neg (by omega), harray]
  exact if_neg (by omega)

end RawArgs

end ObjectRuntime
