import ObjectRuntime.Heap
import ObjectRuntime.Slot
import ObjectRuntime.Table
/-!
# The registry of kinds

A `Kind` is registered once, with empty slots and no members.  After that its slots and members can
be written any number of times, and what was written last counts.
-/

namespace ObjectRuntime

/-- The kind of every nil. -/
def nilKind : KindId := 1

/-- The kind of every function object. -/
def functionKind : KindId := 2

/-- The member that stands in for an object whose kind has no direct apply slot. -/
def callMember : String := "__call__"

/-- What a registered kind says about its objects. -/
structure Kind (κ : Type) where
  destructor : Destructor κ := .empty
  apply : Apply κ := .viaCallMember
  members : Table String Ref := ∅

/-- The registered kinds. -/
structure Registry (κ : Type) where
  kinds : Table KindId (Kind κ) := ∅

namespace Registry

variable {κ : Type}

instance : EmptyCollection (Registry κ) := ⟨{}⟩

/-- What every runtime starts with: nil has no behaviour, and a function object forwards to the
code that it wraps and owns nothing but its storage. -/
def builtin : Registry κ where
  kinds := ((∅ : Table KindId (Kind κ)).insert nilKind {}).insert functionKind
    { destructor := .native .stock, apply := .direct (.native .stock) }

def contains (g : Registry κ) (kind : KindId) : Bool := g.kinds.contains kind

def size (g : Registry κ) : Nat := g.kinds.size

def find (g : Registry κ) (kind : KindId) : Except Failure (Kind κ) :=
  match g.kinds.get? kind with
  | some d => .ok d
  | none => .error (.unregisteredKind kind)

def destructor (g : Registry κ) (kind : KindId) : Except Failure (Destructor κ) :=
  (g.find kind).map (·.destructor)

def apply (g : Registry κ) (kind : KindId) : Except Failure (Apply κ) :=
  (g.find kind).map (·.apply)

/-- The object that `kind` binds to `name`. -/
def member (g : Registry κ) (kind : KindId) (name : String) : Except Failure Ref :=
  match g.find kind with
  | .error e => .error e
  | .ok d =>
    match d.members.get? name with
    | some r => .ok r
    | none => .error (.unregisteredMember kind name)

/-- The names that `kind` binds, in ascending order. -/
def memberNames (g : Registry κ) (kind : KindId) : Except Failure (List String) :=
  (g.find kind).map fun d => d.members.keys.mergeSort fun a b => decide (a ≤ b)

/-- Registers a new kind, with empty slots and no members. -/
def register (g : Registry κ) (kind : KindId) : Except Failure (Registry κ) :=
  if g.contains kind then .error (.duplicateKind kind)
  else .ok ⟨g.kinds.insert kind {}⟩

def setDestructor (g : Registry κ) (kind : KindId) (slot : Destructor κ) :
    Except Failure (Registry κ) :=
  (g.find kind).map fun d => ⟨g.kinds.insert kind { d with destructor := slot }⟩

def setApply (g : Registry κ) (kind : KindId) (slot : Apply κ) :
    Except Failure (Registry κ) :=
  (g.find kind).map fun d => ⟨g.kinds.insert kind { d with apply := slot }⟩

/-- Binds a member of a registered kind; also says what the name was bound to before. -/
def setMember (g : Registry κ) (kind : KindId) (name : String) (value : Ref) :
    Except Failure (Registry κ × Option Ref) :=
  (g.find kind).map fun d =>
    (⟨g.kinds.insert kind { d with members := d.members.insert name value }⟩, d.members.get? name)

/-! ## What the writes do to members -/

theorem find_insert (g : Registry κ) (kind kind' : KindId) (d : Kind κ) :
    (⟨g.kinds.insert kind d⟩ : Registry κ).find kind' =
      if kind' = kind then .ok d else g.find kind' := by
  unfold find
  rw [Table.get?_insert]
  by_cases h : kind' = kind <;> simp [h]

theorem member_eq_ok_iff {g : Registry κ} {kind : KindId} {name : String} {r : Ref} :
    g.member kind name = .ok r ↔
      ∃ d, g.find kind = .ok d ∧ d.members.get? name = some r := by
  unfold member
  cases g.find kind with
  | error e => simp
  | ok d => cases h : d.members.get? name <;> simp [h]

theorem member_of_register {g g' : Registry κ} {kind kind' : KindId} {name : String} {r : Ref}
    (hg : g.register kind = .ok g') (h : g'.member kind' name = .ok r) :
    g.member kind' name = .ok r := by
  unfold register at hg
  split at hg
  · cases hg
  · cases hg
    obtain ⟨d, hd, hr⟩ := member_eq_ok_iff.1 h
    rw [find_insert] at hd
    split at hd
    · cases hd
      cases hr
    · exact member_eq_ok_iff.2 ⟨d, hd, hr⟩

theorem member_of_insert {g : Registry κ} {kind kind' : KindId} {name : String} {r : Ref}
    {d d' : Kind κ} (hd : g.find kind = .ok d)
    (h : (⟨g.kinds.insert kind d'⟩ : Registry κ).member kind' name = .ok r)
    (hmembers : d'.members = d.members) :
    g.member kind' name = .ok r := by
  obtain ⟨e, he, hr⟩ := member_eq_ok_iff.1 h
  rw [find_insert] at he
  split at he
  next hkind =>
    cases he
    rw [hmembers] at hr
    exact member_eq_ok_iff.2 ⟨d, hkind ▸ hd, hr⟩
  · exact member_eq_ok_iff.2 ⟨e, he, hr⟩

theorem member_of_setDestructor {g g' : Registry κ} {kind kind' : KindId} {slot : Destructor κ}
    {name : String} {r : Ref} (hg : g.setDestructor kind slot = .ok g')
    (h : g'.member kind' name = .ok r) : g.member kind' name = .ok r := by
  unfold setDestructor at hg
  cases hd : g.find kind with
  | error e => rw [hd] at hg; cases hg
  | ok d =>
    rw [hd] at hg
    cases hg
    exact member_of_insert hd h rfl

theorem member_of_setApply {g g' : Registry κ} {kind kind' : KindId} {slot : Apply κ}
    {name : String} {r : Ref} (hg : g.setApply kind slot = .ok g')
    (h : g'.member kind' name = .ok r) : g.member kind' name = .ok r := by
  unfold setApply at hg
  cases hd : g.find kind with
  | error e => rw [hd] at hg; cases hg
  | ok d =>
    rw [hd] at hg
    cases hg
    exact member_of_insert hd h rfl

theorem member_of_setMember {g g' : Registry κ} {kind kind' : KindId} {name name' : String}
    {r r' : Ref} {replaced : Option Ref} (hg : g.setMember kind name r = .ok (g', replaced))
    (h : g'.member kind' name' = .ok r') : g.member kind' name' = .ok r' ∨ r' = r := by
  unfold setMember at hg
  cases hd : g.find kind with
  | error e => rw [hd] at hg; cases hg
  | ok d =>
    rw [hd] at hg
    cases hg
    obtain ⟨e, he, hr⟩ := member_eq_ok_iff.1 h
    rw [find_insert] at he
    split at he
    next hkind =>
      cases he
      rw [Table.get?_insert] at hr
      split at hr
      · cases hr
        exact .inr rfl
      · exact .inl (member_eq_ok_iff.2 ⟨d, hkind ▸ hd, hr⟩)
    · exact .inl (member_eq_ok_iff.2 ⟨e, he, hr⟩)

theorem member_builtin (kind : KindId) (name : String) (r : Ref) :
    (builtin : Registry κ).member kind name ≠ .ok r := by
  intro h
  obtain ⟨d, hd, hr⟩ := member_eq_ok_iff.1 h
  simp only [builtin, find, Table.get?_insert, Table.get?_empty] at hd
  split at hd
  next hsome =>
    split at hsome
    · cases hsome
      cases hd
      cases hr
    · split at hsome
      · cases hsome
        cases hd
        cases hr
      · cases hsome
  · cases hd

end Registry

end ObjectRuntime
