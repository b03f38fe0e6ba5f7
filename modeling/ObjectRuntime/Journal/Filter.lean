import ObjectRuntime.Journal.Level
import ObjectRuntime.Text.Decimal
import ObjectRuntime.Text.Pattern
import ObjectRuntime.Text.Utf8
/-!
# Filters

Which events get through.  A filter is a list of directives; of those that match an event the most
specific one decides, and where none matches nothing gets through.
-/

namespace ObjectRuntime

/-- A threshold for the events that match; `none` lets nothing through. -/
structure Directive where
  target : Option String := none
  field : Option String := none
  threshold : Option Level
  /-- Whether only what happens inside certain spans is meant, which is no event of this library. -/
  insideSpans : Bool := false
  deriving DecidableEq, Repr

/-- Directives, of which the most specific one that matches counts. -/
structure Filter where
  directives : List Directive
  deriving DecidableEq, Repr

namespace Directive

/-! ## Which events match -/

def covers (d : Directive) (target : String) (fields : List String) : Bool :=
  !d.insideSpans && (d.target.all fun t => t.toList.isPrefixOf target.toList) &&
    d.field.all fields.contains

/-- How much of a target is fixed. -/
def reach (d : Directive) : Nat :=
  match d.target with
  | some target => target.utf8ByteSize + 1
  | none => 0

/-- Whether a directive is as specific as another one that matches the same event: the longer target
counts first, then whether a field is asked for, then the order of the fields. -/
def isAsSpecificAs (d other : Directive) : Bool :=
  if d.reach ≠ other.reach then other.reach < d.reach
  else match d.field, other.field with
    | _, none => true
    | none, some _ => false
    | some name, some otherName => otherName ≤ name

/-! ## Reading -/

/-- The threshold that a word names: a level, `off`, or a number from zero to five. -/
def threshold? (word : List Char) : Option (Option Level) :=
  if Text.sameWord word "off" then some none
  else if Text.sameWord word "error" then some (some .error)
  else if Text.sameWord word "warn" then some (some .warn)
  else if Text.sameWord word "info" then some (some .info)
  else if Text.sameWord word "debug" then some (some .debug)
  else if Text.sameWord word "trace" then some (some .trace)
  else match Text.readWord? word with
    | some 0 => some none
    | some 1 => some (some .error)
    | some 2 => some (some .warn)
    | some 3 => some (some .info)
    | some 4 => some (some .debug)
    | some 5 => some (some .trace)
    | _ => none

def startsTarget (c : Char) : Bool := c == '-' || c == ':' || c == '_' || Text.isAlphanumeric c

/-- The part of a directive that is so long and begins at a byte position. -/
def piece? (whole : List Char) (start : Nat) (part : List Char) : Option (List Char) :=
  (Text.dropBytes? start whole).bind (Text.takeBytes? (Text.sizeInBytes part))

/-- Reads what comes at a position after target and brackets: an equals sign, and a threshold unless
everything is meant. -/
def withThreshold? (whole : List Char) (position : Nat) (rest : List Char) (d : Directive) :
    Option Directive :=
  match rest with
  | [] => some d
  | '=' :: _ =>
    match Text.dropBytes? (position + 1) whole with
    | some [] => some d
    | some word => (threshold? word).map fun threshold => { d with threshold }
    | none => none
  | _ => none

/-- Whether a field can be compared with a text: a number or a regular expression. -/
def isComparable (value : List Char) : Bool := Text.isReal value || Text.isPattern value

/-- Adds a condition on a field, which is a name, or a name, an equals sign and a value. -/
def withField? (condition : List Char) (d : Directive) : Option Directive :=
  let name := condition.takeWhile (· ≠ '=')
  match condition.dropWhile (· ≠ '=') with
  | [] => if name = [] then none else some { d with field := some (String.ofList name) }
  | _ :: rest =>
    if isComparable (rest.takeWhile (· ≠ '=')) then some { d with insideSpans := true } else none

/-- Reads what comes after an opening bracket that ends at a position: the name of a span, and a
condition on a field in braces, of which both can be left out. -/
def afterBracket? (whole : List Char) (position : Nat) (rest : List Char) (d : Directive) :
    Option Directive := do
  let name := rest.takeWhile fun c => c ≠ ']' ∧ c ≠ '\x7b'
  let position := position + Text.sizeInBytes name
  match rest.dropWhile fun c => c ≠ ']' ∧ c ≠ '\x7b' with
  | ']' :: rest => withThreshold? whole (position + 1) rest { d with insideSpans := true }
  | '\x7b' :: rest =>
    let condition := rest.takeWhile (· ≠ '\x7d')
    match rest.dropWhile (· ≠ '\x7d') with
    | '\x7d' :: ']' :: rest =>
      let d ← withField? (← piece? whole (position + 1) condition) d
      withThreshold? whole (position + Text.sizeInBytes condition + 3) rest
        { d with insideSpans := d.insideSpans || name != [] }
    | _ => none
  | _ => none

/-- Reads a directive: a threshold for everything, or a target or brackets or both, and a threshold
unless everything is meant.  Parts are found in the text without the white space around it, but are
cut from the whole text at the same positions; white space in front so moves the cuts. -/
def parse? (whole : List Char) : Option Directive :=
  let text := Text.strip whole
  match text with
  | [] => none
  | '[' :: rest => afterBracket? whole 1 rest { threshold := some .trace }
  | c :: _ =>
    if startsTarget c then
      let target := text.takeWhile fun c => c ≠ '=' ∧ c ≠ '['
      let position := Text.sizeInBytes target
      let d : Option Directive := (piece? whole 0 target).map fun target =>
        { target := some (String.ofList target), threshold := some .trace }
      match text.dropWhile fun c => c ≠ '=' ∧ c ≠ '[' with
      | [] =>
        match threshold? whole with
        | some threshold => some { threshold }
        | none => some { target := some (String.ofList whole), threshold := some .trace }
      | '[' :: rest => d.bind (afterBracket? whole (position + 1) rest)
      | rest => d.bind (withThreshold? whole position rest)
    else none

end Directive

namespace Filter

/-- The filter that lets the library's own events through from a level on. -/
def atLevel (level : Level) : Filter := ⟨[{ target := some "kindrt", threshold := some level }]⟩

def splitCommas : List Char → List (List Char)
  | [] => [[]]
  | c :: cs =>
    match splitCommas cs with
    | piece :: rest => if c = ',' then [] :: piece :: rest else (c :: piece) :: rest
    | [] => [[c]]

/-- Reads directives between commas; a single bad one spoils them all. -/
def parse? (s : String) : Option Filter :=
  (((splitCommas s.toList).filter (· ≠ [])).mapM Directive.parse?).map Filter.mk

/-- The directive that counts for an event: the most specific one, and of two that are equally so
the later. -/
def governing (f : Filter) (target : String) (fields : List String) : Option Directive :=
  (f.directives.filter (·.covers target fields)).foldl (fun best d =>
    match best with
    | some b => if d.isAsSpecificAs b then some d else some b
    | none => some d) none

/-- Whether an event of this target, with these fields and of this level gets through. -/
def admits (f : Filter) (target : String) (fields : List String) (level : Level) : Bool :=
  match (f.governing target fields).bind (·.threshold) with
  | some threshold => threshold.admits level
  | none => false

end Filter

end ObjectRuntime
