/-!
# UTF-8

Reads bytes as text.  Where they are not UTF-8, the longest beginning of a character that is cut
short, or else a single byte, is read as the replacement character.  Texts are cut at byte
positions, of which those inside a character are no place for a cut.
-/

namespace ObjectRuntime.Text

/-- How many bytes follow a leading byte, and between which the first of them lies. -/
def leading? (b : UInt8) : Option (Nat × UInt8 × UInt8) :=
  if b ≤ 0x7F then some (0, 0x80, 0xBF)
  else if 0xC2 ≤ b && b ≤ 0xDF then some (1, 0x80, 0xBF)
  else if b == 0xE0 then some (2, 0xA0, 0xBF)
  else if b == 0xED then some (2, 0x80, 0x9F)
  else if 0xE1 ≤ b && b ≤ 0xEF then some (2, 0x80, 0xBF)
  else if b == 0xF0 then some (3, 0x90, 0xBF)
  else if 0xF1 ≤ b && b ≤ 0xF3 then some (3, 0x80, 0xBF)
  else if b == 0xF4 then some (3, 0x80, 0x8F)
  else none

/-- The bits that a leading byte contributes. -/
def leadingBits (b : UInt8) : Nat :=
  if b ≤ 0x7F then b.toNat
  else if b ≤ 0xDF then b.toNat % 32
  else if b ≤ 0xEF then b.toNat % 16
  else b.toNat % 8

/-- Takes up to `n` continuation bytes, the first of them between `low` and `high`: the bits so
far, how many bytes are missing, and what is left. -/
def continue_ (low high : UInt8) (bits : Nat) : Nat → List UInt8 → Nat × Nat × List UInt8
  | 0, rest => (bits, 0, rest)
  | n + 1, b :: rest =>
    if low ≤ b && b ≤ high then continue_ 0x80 0xBF (bits * 64 + b.toNat % 64) n rest
    else (bits, n + 1, b :: rest)
  | n + 1, [] => (bits, n + 1, [])

theorem length_continue_le (low high : UInt8) (bits n : Nat) (l : List UInt8) :
    (continue_ low high bits n l).2.2.length ≤ l.length := by
  induction n generalizing low high bits l with
  | zero => simp [continue_]
  | succ n ih =>
    cases l with
    | nil => simp [continue_]
    | cons b rest =>
      simp only [continue_]
      split
      · exact Nat.le_succ_of_le (ih ..)
      · simp

/-- The characters of a list of bytes, with the replacement character where they are not UTF-8. -/
def decodeLossy : List UInt8 → List Char
  | [] => []
  | b :: rest =>
    match leading? b with
    | none => '\ufffd' :: decodeLossy rest
    | some (n, low, high) =>
      match h : continue_ low high (leadingBits b) n rest with
      | (bits, missing, left) =>
        have : left.length ≤ rest.length := by
          simpa [h] using length_continue_le low high (leadingBits b) n rest
        (if missing = 0 then Char.ofNat bits else '\ufffd') :: decodeLossy left
termination_by bytes => bytes.length

/-- The text of bytes up to the first zero byte. -/
def terminated (bytes : List UInt8) : String :=
  String.ofList (decodeLossy (bytes.takeWhile (· ≠ 0)))

/-- The text from a byte position on. -/
def dropBytes? : Nat → List Char → Option (List Char)
  | 0, cs => some cs
  | _ + 1, [] => none
  | n + 1, c :: cs => if c.utf8Size ≤ n + 1 then dropBytes? (n + 1 - c.utf8Size) cs else none

/-- The text up to a byte position. -/
def takeBytes? : Nat → List Char → Option (List Char)
  | 0, _ => some []
  | _ + 1, [] => none
  | n + 1, c :: cs =>
    if c.utf8Size ≤ n + 1 then (takeBytes? (n + 1 - c.utf8Size) cs).map (c :: ·) else none

/-- How many bytes a text takes. -/
def sizeInBytes : List Char → Nat
  | [] => 0
  | c :: cs => c.utf8Size + sizeInBytes cs

end ObjectRuntime.Text
