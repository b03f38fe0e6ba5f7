import ObjectRuntime.Text.Pattern.Lexeme
/-!
# Brackets

Reads what stands in brackets: characters, ranges, classes by name, other brackets, and the
operations on all of these.
-/

namespace ObjectRuntime.Text.Pattern

/-- A pair of brackets of which only the opening one was read. -/
structure Opened where
  negated : Bool
  /-- What stands to the left of an operation, if there was one. -/
  left : Option Content := none
  contents : List Content := []

namespace Opened

def push (o : Opened) (content : Content) : Opened :=
  { o with contents := content :: o.contents }

def content (o : Opened) : Content :=
  let right : Content := match o.contents with
    | [] => .empty
    | [content] => content
    | contents => .union contents.reverse
  match o.left with
  | some left => .operation left right
  | none => right

/-- Goes on to the right of an operation. -/
def operate (o : Opened) : Opened := { o with left := some o.content, contents := [] }

end Opened

/-- The classes that go by a name between colons. -/
def classNames : List String :=
  ["alnum", "alpha", "ascii", "blank", "cntrl", "digit", "graph", "lower", "print", "punct",
    "space", "upper", "word", "xdigit"]

/-- Reads a class by name after its opening bracket. -/
def namedClass? : List Char → Option (Member × List Char)
  | ':' :: rest =>
    let (negated, rest) := match rest with
      | '^' :: rest => (true, rest)
      | _ => (false, rest)
    match rest.dropWhile (· ≠ ':') with
    | ':' :: ']' :: left =>
      if classNames.contains (String.ofList (rest.takeWhile (· ≠ ':'))) then
        some (.named negated, left)
      else none
    | _ => none
  | _ => none

/-- Reads dashes that stand for themselves. -/
def dashes (free : Bool) : Nat → Opened → List Char → Opened × List Char
  | fuel + 1, o, '-' :: rest =>
    dashes free fuel (o.push (.member (.literal { code := '-'.toNat }))) (skip free rest)
  | _, o, cs => (o, cs)

/-- Reads what may come first in brackets and has no other place: a caret, dashes that stand for
themselves, and, if there are none, a closing bracket that does. -/
def opened (free : Bool) (cs : List Char) : Opened × List Char :=
  let cs := skip free cs
  let (o, cs) : Opened × List Char := match cs with
    | '^' :: rest => ({ negated := true }, skip free rest)
    | _ => ({ negated := false }, cs)
  match cs with
  | ']' :: rest => (o.push (.member (.literal { code := ']'.toNat })), skip free rest)
  | _ => dashes free cs.length o cs

/-- Reads a character or a shorthand. -/
def one? (free : Bool) : List Char → Option (Escape × List Char)
  | '\\' :: rest => escape? free rest
  | c :: rest => some (.literal { code := c.toNat }, rest)
  | [] => none

def Escape.toMember? : Escape → Option Member
  | .literal l => some (.literal l)
  | .shorthand negated => some (.shorthand negated)
  | .edge | .boundary => none

/-- Reads a character, a shorthand or a range of characters.  A dash before a closing bracket or
another dash makes no range. -/
def member? (free : Bool) (cs : List Char) : Option (Member × List Char) := do
  let (first, rest) ← one? free cs
  match skip free rest with
  | '-' :: after =>
    if peek? free after = some ']' ∨ peek? free after = some '-' then
      return (← first.toMember?, '-' :: after)
    else
      match first, ← one? free (skip free after) with
      | .literal first, (.literal last, rest) =>
        if first.code ≤ last.code then return (.range first last, rest) else none
      | _, _ => none
  | rest => return (← first.toMember?, rest)

/-- Reads the rest of brackets, innermost first: whether they are negated, and their content. -/
def brackets? (free : Bool) :
    Nat → Opened → List Opened → List Char → Option (Bool × Content × List Char)
  | 0, _, _, _ => none
  | fuel + 1, o, outer, cs =>
    match skip free cs with
    | [] => none
    | ']' :: rest =>
      match outer with
      | [] => some (o.negated, o.content, rest)
      | next :: outer => brackets? free fuel (next.push (.bracketed o.negated o.content)) outer rest
    | '[' :: rest =>
      match namedClass? rest with
      | some (m, rest) => brackets? free fuel (o.push (.member m)) outer rest
      | none =>
        let (inner, rest) := opened free rest
        brackets? free fuel inner (o :: outer) rest
    | '&' :: '&' :: rest | '-' :: '-' :: rest | '~' :: '~' :: rest =>
      brackets? free fuel o.operate outer rest
    | cs =>
      (member? free cs).bind fun (m, rest) => brackets? free fuel (o.push (.member m)) outer rest

end ObjectRuntime.Text.Pattern
