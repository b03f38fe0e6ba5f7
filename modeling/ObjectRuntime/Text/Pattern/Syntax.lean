/-!
# Regular expressions

What a regular expression consists of, as far as it matters for whether it can be used: what the
characters are that it names does not, except whether they are ASCII.
-/

namespace ObjectRuntime.Text.Pattern

/-- A character of an expression. -/
structure Literal where
  code : Nat
  isByte : Bool := false
  deriving DecidableEq, Repr

/-- Flags with whether they are switched on, in the order in which they stand. -/
abbrev Flags := List (Char × Bool)

/-- What can stand for one character. -/
inductive Member where
  | literal (l : Literal)
  | range (first last : Literal)
  /-- A class by name, such as the letters. -/
  | named (negated : Bool)
  /-- An escape for digits, white space or the characters of words. -/
  | shorthand (negated : Bool)
  deriving DecidableEq, Repr

/-- What stands in a pair of brackets. -/
inductive Content where
  | empty
  | member (m : Member)
  /-- Two or more one after the other. -/
  | union (l : List Content)
  | bracketed (negated : Bool) (content : Content)
  /-- An intersection or a difference. -/
  | operation (left right : Content)

/-- A regular expression. -/
inductive Expression where
  | empty
  | settings (flags : Flags)
  | literal (l : Literal)
  | dot
  /-- The beginning or the end of a line or of the text. -/
  | edge
  /-- Where words begin or end. -/
  | boundary
  | shorthand (negated : Bool)
  | bracketed (negated : Bool) (content : Content)
  | repetition (e : Expression)
  | group (flags : Flags) (e : Expression)
  | alternation (l : List Expression)
  | concatenation (l : List Expression)

/-! ## Nesting -/

mutual

/-- How deeply the content of brackets is nested. -/
def Content.depth : Content → Nat
  | .empty | .member _ => 0
  | .union l => 1 + depths l
  | .bracketed _ content => 1 + content.depth
  | .operation left right => 1 + max left.depth right.depth

def Content.depths : List Content → Nat
  | [] => 0
  | content :: rest => max content.depth (depths rest)

end

mutual

/-- How deeply an expression is nested. -/
def Expression.depth : Expression → Nat
  | .empty | .settings _ | .literal _ | .dot | .edge | .boundary | .shorthand _ => 0
  | .bracketed _ content => 1 + content.depth
  | .repetition e => 1 + e.depth
  | .group _ e => 1 + e.depth
  | .alternation l => 1 + depths l
  | .concatenation l => 1 + depths l

def Expression.depths : List Expression → Nat
  | [] => 0
  | e :: rest => max e.depth (depths rest)

end

end ObjectRuntime.Text.Pattern
