import ObjectRuntime.Text.Case
/-!
# Decimal numbers

Reads an unsigned number of at most 64 bits: an optional plus sign and one or more ASCII digits.
Real numbers are only told from other texts.
-/

namespace ObjectRuntime.Text

/-- The value of a list of digits, the most significant first. -/
def digitsValue (cs : List Char) : Nat :=
  cs.foldl (fun n c => 10 * n + (c.toNat - '0'.toNat)) 0

/-- The value of one or more ASCII digits. -/
def readDigits? (cs : List Char) : Option Nat :=
  if cs ≠ [] ∧ cs.all Char.isDigit then some (digitsValue cs) else none

/-- The value of an optional plus sign and one or more digits, if 64 bits hold it. -/
def readWord? (cs : List Char) : Option UInt64 :=
  let digits := match cs with
    | '+' :: rest => rest
    | _ => cs
  (readDigits? digits).bind fun n => if n < UInt64.size then some (UInt64.ofNat n) else none

def dropSign : List Char → List Char
  | '+' :: rest | '-' :: rest => rest
  | cs => cs

/-- Whether a text is an exponent, or empty. -/
def isExponent : List Char → Bool
  | [] => true
  | c :: rest => (c == 'e' || c == 'E') && (readDigits? (dropSign rest)).isSome

/-- Whether a text is a real number: an optional sign, then digits with an optional point among
them and an optional exponent, or the word for infinity or for no number. -/
def isReal (cs : List Char) : Bool :=
  let cs := dropSign cs
  let whole := cs.takeWhile Char.isDigit
  let (fraction, rest) := match cs.dropWhile Char.isDigit with
    | '.' :: rest => (rest.takeWhile Char.isDigit, rest.dropWhile Char.isDigit)
    | rest => ([], rest)
  sameWord cs "inf" || sameWord cs "infinity" || sameWord cs "nan" ||
    ((whole != [] || fraction != []) && isExponent rest)

end ObjectRuntime.Text
