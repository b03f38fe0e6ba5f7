import ObjectRuntime.Text.Pattern.Mode
import ObjectRuntime.Text.Pattern.Reader
/-!
# Usable regular expressions

Whether a text is a regular expression that can be used: it can be read, it is not nested too
deeply, and it has a meaning.
-/

namespace ObjectRuntime.Text

/-- How deeply a regular expression may be nested. -/
def Pattern.maxDepth : Nat := 250

/-- Whether a text without a closing brace is a regular expression that can be used. -/
def isPattern (cs : List Char) : Bool :=
  match Pattern.read? (cs.length + 1) false [] {} [] cs with
  | some e => e.depth ≤ Pattern.maxDepth && (({} : Pattern.Mode).after? e).isSome
  | none => false

end ObjectRuntime.Text
