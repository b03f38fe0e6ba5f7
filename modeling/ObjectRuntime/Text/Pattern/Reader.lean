import ObjectRuntime.Text.Alphanumeric
import ObjectRuntime.Text.Pattern.Brackets
/-!
# Reading regular expressions

The texts in question stand between braces and so have no closing brace in them.  What needs one,
such as a counted repetition, is never complete.
-/

namespace ObjectRuntime.Text.Pattern

/-! ## Groups -/

/-- What an opening parenthesis begins. -/
inductive Opening where
  | group (name : Option String) (flags : Flags)
  /-- Flags for what follows, in parentheses of their own. -/
  | settings (flags : Flags)

/-- Whether a text can name a group. -/
def isGroupName : List Char → Bool
  | [] => false
  | c :: rest =>
    (c == '_' || isAlphabetic c) &&
      rest.all fun c => c == '_' || c == '.' || c == '[' || c == ']' || isAlphanumeric c

/-- Reads the rest of a group's name. -/
def groupName? (cs : List Char) : Option (Opening × List Char) :=
  let name := cs.takeWhile (· ≠ '>')
  match cs.dropWhile (· ≠ '>') with
  | _ :: rest =>
    if isGroupName name then some (.group (some (String.ofList name)) [], rest) else none
  | [] => none

/-- Reads flags that are all to be switched on or off.  No flag may stand twice. -/
def flags? (on : Bool) (flags : Flags) : List Char → Option Flags
  | [] => some flags.reverse
  | '-' :: rest => if on ∧ rest ≠ [] then flags? false flags rest else none
  | c :: rest =>
    if "imsURux".toList.contains c ∧ flags.lookup c = none then flags? on ((c, on) :: flags) rest
    else none

/-- Reads what follows an opening parenthesis; there is no looking ahead or behind. -/
def opening? : List Char → Option (Opening × List Char)
  | '?' :: '=' :: _ | '?' :: '!' :: _ | '?' :: '<' :: '=' :: _ | '?' :: '<' :: '!' :: _ => none
  | '?' :: 'P' :: '<' :: rest | '?' :: '<' :: rest => groupName? rest
  | '?' :: rest =>
    match flags? true [] (rest.takeWhile fun c => c ≠ ')' ∧ c ≠ ':'),
        rest.dropWhile fun c => c ≠ ')' ∧ c ≠ ':' with
    | some flags, ':' :: rest => some (.group none flags, rest)
    | some flags, ')' :: rest => if flags = [] then none else some (.settings flags, rest)
    | _, _ => none
  | rest => some (.group none [], rest)

/-! ## Expressions -/

/-- A group, or the whole expression, of which only the beginning was read. -/
structure Level where
  flags : Flags := []
  /-- Whether spacing is free behind the group. -/
  freeOutside : Bool := false
  branches : List Expression := []
  parts : List Expression := []

namespace Level

def push (l : Level) (e : Expression) : Level := { l with parts := e :: l.parts }

def branch (l : Level) : Expression :=
  match l.parts with
  | [] => .empty
  | [e] => e
  | parts => .concatenation parts.reverse

def alternate (l : Level) : Level := { l with branches := l.branch :: l.branches, parts := [] }

def expression (l : Level) : Expression :=
  match l.branches with
  | [] => l.branch
  | branches => .alternation (l.branch :: branches).reverse

/-- Repeats the part that was read last, if there is one and it is no setting of flags. -/
def repeat? (l : Level) : Option Level :=
  match l.parts with
  | [] | .settings _ :: _ => none
  | e :: parts => some { l with parts := .repetition e :: parts }

end Level

/-- What an escape stands for outside brackets. -/
def Escape.toExpression : Escape → Expression
  | .literal l => .literal l
  | .shorthand negated => .shorthand negated
  | .edge => .edge
  | .boundary => .boundary

/-- Reads the rest of an expression, given whether spacing is free, the names of groups so far, and
the groups that are open, innermost first. -/
def read? : Nat → Bool → List String → Level → List Level → List Char → Option Expression
  | 0, _, _, _, _, _ => none
  | fuel + 1, free, names, l, outer, cs =>
    match skip free cs with
    | [] => if outer.isEmpty then some l.expression else none
    | '(' :: rest => do
      match ← opening? (skip free rest) with
      | (.settings flags, rest) =>
        read? fuel ((flags.lookup 'x').getD free) names (l.push (.settings flags)) outer rest
      | (.group name flags, rest) =>
        if name.any names.contains then none
        else
          read? fuel ((flags.lookup 'x').getD free) (name.toList ++ names)
            { flags, freeOutside := free } (l :: outer) rest
    | ')' :: rest =>
      match outer with
      | [] => none
      | next :: outer =>
        read? fuel l.freeOutside names (next.push (.group l.flags l.expression)) outer rest
    | '|' :: rest => read? fuel free names l.alternate outer rest
    | '[' :: rest => do
      let (o, rest) := opened free rest
      let (negated, content, rest) ← brackets? free (rest.length + 1) o [] rest
      read? fuel free names (l.push (.bracketed negated content)) outer rest
    | '*' :: rest | '+' :: rest | '?' :: rest => do
      let rest := match rest with
        | '?' :: rest => rest
        | _ => rest
      read? fuel free names (← l.repeat?) outer rest
    | '\x7b' :: _ => none
    | '\\' :: rest => do
      let (escape, rest) ← escape? free rest
      read? fuel free names (l.push escape.toExpression) outer rest
    | '.' :: rest => read? fuel free names (l.push .dot) outer rest
    | '^' :: rest | '$' :: rest => read? fuel free names (l.push .edge) outer rest
    | c :: rest => read? fuel free names (l.push (.literal { code := c.toNat })) outer rest

end ObjectRuntime.Text.Pattern
