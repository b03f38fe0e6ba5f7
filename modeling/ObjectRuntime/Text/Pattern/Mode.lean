import ObjectRuntime.Text.Pattern.Syntax
/-!
# Modes

Whether a regular expression has a meaning, which hangs on the flags in force.  Characters are meant
at first.  There are no tables for them, so that they have neither classes nor letter case, and
words have no boundaries.  Where bytes are meant, whatever matches still has to be text, so that
nothing can stand for a byte outside ASCII.
-/

namespace ObjectRuntime.Text.Pattern

/-- How an expression is to be understood at some place. -/
structure Mode where
  caseless : Bool := false
  unicode : Bool := true
  deriving DecidableEq, Repr

namespace Mode

/-- The mode once flags are set. -/
def set (mode : Mode) (flags : Flags) : Mode where
  caseless := (flags.lookup 'i').getD mode.caseless
  unicode := (flags.lookup 'u').getD mode.unicode

/-- Whether a character can be meant. -/
def allowsLiteral (mode : Mode) (l : Literal) : Bool :=
  if mode.unicode then !mode.caseless else !l.isByte || l.code < 0x80

def allowsShorthand (mode : Mode) (negated : Bool) : Bool := !mode.unicode && !negated

def allowsMember (mode : Mode) : Member → Bool
  | .literal l => if mode.unicode then !mode.caseless else l.code < 0x80
  | .range first last =>
    if mode.unicode then !mode.caseless else first.code < 0x80 && last.code < 0x80
  | .named negated => if mode.unicode then !mode.caseless else !negated
  | .shorthand negated => mode.allowsShorthand negated

mutual

def allowsContent (mode : Mode) : Content → Bool
  | .empty => true
  | .member m => mode.allowsMember m
  | .union l => mode.allowsContents l
  | .bracketed negated content => (mode.unicode || !negated) && mode.allowsContent content
  | .operation left right => mode.allowsContent left && mode.allowsContent right

def allowsContents (mode : Mode) : List Content → Bool
  | [] => true
  | content :: rest => mode.allowsContent content && mode.allowsContents rest

end

mutual

/-- The mode behind an expression, if the expression has a meaning.  Flags hold up to the end of the
group that they are in, in other branches too. -/
def after? (mode : Mode) : Expression → Option Mode
  | .empty | .edge => some mode
  | .settings flags => some (mode.set flags)
  | .literal l => if mode.allowsLiteral l then some mode else none
  | .dot => if mode.unicode then some mode else none
  | .boundary => if mode.unicode then none else some mode
  | .shorthand negated => if mode.allowsShorthand negated then some mode else none
  | .bracketed negated content =>
    if (mode.unicode || !negated) && mode.allowsContent content then some mode else none
  | .repetition e => mode.after? e
  | .group flags e => ((mode.set flags).after? e).map fun _ => mode
  | .alternation l => mode.afterAll? l
  | .concatenation l => mode.afterAll? l

def afterAll? (mode : Mode) : List Expression → Option Mode
  | [] => some mode
  | e :: rest => (mode.after? e).bind fun mode => mode.afterAll? rest

end

end Mode

end ObjectRuntime.Text.Pattern
