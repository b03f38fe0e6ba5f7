import ObjectRuntime.Text.Blank
import ObjectRuntime.Text.Pattern.Syntax
/-!
# Escapes and blanks

The smallest parts of a regular expression.  Where spacing is free, white space means nothing, and
neither does what follows a number sign on its line.
-/

namespace ObjectRuntime.Text.Pattern

/-! ## Blanks -/

/-- The text after blanks; or after the rest of a comment and blanks. -/
def skipBlanks (inComment : Bool) : List Char → List Char
  | [] => []
  | c :: rest =>
    if inComment then skipBlanks (c != '\n') rest
    else if isBlank c then skipBlanks false rest
    else if c = '#' then skipBlanks true rest
    else c :: rest

/-- The text after what means nothing. -/
def skip (free : Bool) (cs : List Char) : List Char := if free then skipBlanks false cs else cs

/-- The next character that may mean something.  A look ahead passes over the sign of a comment, but
not over the comment. -/
def peek? (free : Bool) (cs : List Char) : Option Char :=
  if free then
    match cs.dropWhile isBlank with
    | '#' :: rest => (rest.dropWhile isBlank).head?
    | rest => rest.head?
  else cs.head?

/-! ## Escapes -/

/-- What an escape stands for. -/
inductive Escape where
  | literal (l : Literal)
  | shorthand (negated : Bool)
  | edge
  | boundary
  deriving DecidableEq, Repr

def hexValue? (c : Char) : Option Nat :=
  if c.isDigit then some (c.toNat - '0'.toNat)
  else if 'a' ≤ c ∧ c ≤ 'f' then some (c.toNat - 'a'.toNat + 10)
  else if 'A' ≤ c ∧ c ≤ 'F' then some (c.toNat - 'A'.toNat + 10)
  else none

/-- Reads so many digits in base sixteen behind a value. -/
def hexDigits? (free : Bool) : Nat → Nat → List Char → Option (Nat × List Char)
  | 0, value, cs => some (value, cs)
  | n + 1, value, cs =>
    match skip free cs with
    | [] => none
    | c :: rest => (hexValue? c).bind fun digit => hexDigits? free n (16 * value + digit) rest

/-- Reads the code point of a character in so many digits. -/
def codePoint? (free : Bool) (digits : Nat) (cs : List Char) : Option (Escape × List Char) :=
  (hexDigits? free digits 0 cs).bind fun (code, rest) =>
    if code.isValidChar then some (.literal { code, isByte := digits = 2 }, rest) else none

def isEscapable (c : Char) : Bool :=
  c.toNat < 0x80 && !c.isAlphanum && c != '<' && c != '>'

/-- Reads what follows a backslash.  There are no references to groups and no classes of characters
by property. -/
def escape? (free : Bool) : List Char → Option (Escape × List Char)
  | [] => none
  | c :: rest =>
    match c with
    | 'x' => codePoint? free 2 rest
    | 'u' => codePoint? free 4 rest
    | 'U' => codePoint? free 8 rest
    | 'd' | 's' | 'w' => some (.shorthand false, rest)
    | 'D' | 'S' | 'W' => some (.shorthand true, rest)
    | 'a' => some (.literal { code := 0x07 }, rest)
    | 't' => some (.literal { code := 0x09 }, rest)
    | 'n' => some (.literal { code := 0x0A }, rest)
    | 'v' => some (.literal { code := 0x0B }, rest)
    | 'f' => some (.literal { code := 0x0C }, rest)
    | 'r' => some (.literal { code := 0x0D }, rest)
    | 'A' | 'z' => some (.edge, rest)
    | 'b' | 'B' | '<' | '>' => some (.boundary, rest)
    | _ => if isEscapable c then some (.literal { code := c.toNat }, rest) else none

end ObjectRuntime.Text.Pattern
