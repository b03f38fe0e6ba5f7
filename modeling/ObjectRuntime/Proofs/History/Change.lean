import ObjectRuntime.Operation
import ObjectRuntime.Proofs.History.ByteOrder
/-!
# What a registry remembers

A registry is written by four kinds of calls, each about one kind.  Its `History` is the list of
those that succeeded, and what it says about a kind is what the last call of each sort wrote.
-/

namespace ObjectRuntime

variable {κ : Type}

/-- A call that writes a registry, if it succeeds. -/
inductive Change (κ : Type) where
  | register (kind : KindId)
  | setDestructor (kind : KindId) (slot : Destructor κ)
  | setApply (kind : KindId) (slot : Apply κ)
  | setMember (kind : KindId) (name : String) (object : Ref)
  deriving DecidableEq, Repr

namespace Change

/-- The kind that a call is about. -/
def kind : Change κ → KindId
  | register kind | setDestructor kind _ | setApply kind _ | setMember kind _ _ => kind

/-- Whether a call registers a kind, and so needs one that is not registered; the others need one
that is. -/
def registers : Change κ → Bool
  | register _ => true
  | _ => false

/-- How a call fails, if it does. -/
def refusal : Change κ → Failure
  | register kind => .duplicateKind kind
  | setDestructor kind _ | setApply kind _ | setMember kind _ _ => .unregisteredKind kind

/-- What a call makes of what was said about its kind. -/
def write : Change κ → Kind κ → Kind κ
  | register _, d => d
  | setDestructor _ slot, d => { d with destructor := slot }
  | setApply _ slot, d => { d with apply := slot }
  | setMember _ name object, d => { d with members := d.members.insert name object }

/-- The kind that a call registers. -/
def registered? : Change κ → Option KindId
  | register kind => some kind
  | _ => none

/-- The destructor that a call sets for a kind. -/
def destructorSlot? (kind : KindId) : Change κ → Option (Destructor κ)
  | setDestructor k slot => if k = kind then some slot else none
  | _ => none

/-- The apply slot that a call sets for a kind. -/
def applySlot? (kind : KindId) : Change κ → Option (Apply κ)
  | setApply k slot => if k = kind then some slot else none
  | _ => none

/-- The object that a call binds to a name of a kind. -/
def member? (kind : KindId) (name : String) : Change κ → Option Ref
  | setMember k n object => if k = kind ∧ n = name then some object else none
  | _ => none

theorem eq_none_of_ne {c : Change κ} {kind : KindId} (h : kind ≠ c.kind) :
    c.destructorSlot? kind = none ∧ c.applySlot? kind = none ∧
      ∀ name, c.member? kind name = none := by
  have h := Ne.symm h
  cases c <;> simp_all [destructorSlot?, applySlot?, member?, Change.kind]

theorem destructor_write (c : Change κ) (d : Kind κ) :
    (c.write d).destructor = (c.destructorSlot? c.kind).getD d.destructor := by
  cases c <;> simp [write, destructorSlot?, Change.kind]

theorem apply_write (c : Change κ) (d : Kind κ) :
    (c.write d).apply = (c.applySlot? c.kind).getD d.apply := by
  cases c <;> simp [write, applySlot?, Change.kind]

theorem member_write (c : Change κ) (d : Kind κ) (name : String) :
    (c.write d).members.get? name = (c.member? c.kind name).or (d.members.get? name) := by
  cases c with
  | setMember kind n object =>
    simp only [write, member?, Change.kind, Table.get?_insert, eq_comm (a := name)]
    split <;> simp_all
  | _ => rfl

end Change

/-- The calls on a registry that succeeded, in order. -/
abbrev History (κ : Type) := List (Change κ)

namespace History

/-- The last thing of one sort that was written. -/
def last {α : Type} (sort : Change κ → Option α) (l : History κ) : Option α :=
  (l.filterMap sort).getLast?

/-- The kinds that were registered, in order. -/
def kinds (l : History κ) : List KindId := l.filterMap Change.registered?

/-- What was last written about a kind. -/
def destructor (l : History κ) (kind : KindId) : Destructor κ :=
  (l.last (Change.destructorSlot? kind)).getD .empty

def apply (l : History κ) (kind : KindId) : Apply κ :=
  (l.last (Change.applySlot? kind)).getD .viaCallMember

def member? (l : History κ) (kind : KindId) (name : String) : Option Ref :=
  l.last (Change.member? kind name)

/-- How the registry of every runtime is set up. -/
def builtin : History κ :=
  [.register nilKind, .register functionKind, .setApply functionKind (.direct (.native .stock)),
    .setDestructor functionKind (.native .stock)]

theorem last_concat {α : Type} (sort : Change κ → Option α) (l : History κ) (c : Change κ) :
    last sort (l ++ [c]) = (sort c).or (l.last sort) := by
  unfold last
  cases h : sort c <;> simp [List.filterMap_append, h]

theorem kinds_concat (l : History κ) (c : Change κ) :
    kinds (l ++ [c]) = if c.registers then l.kinds ++ [c.kind] else l.kinds := by
  cases c <;> simp [kinds, Change.registered?, Change.registers, Change.kind]

end History

namespace Registry

variable {g g' : Registry κ} {l : History κ} {c : Change κ}

/-- What is on record for a kind; nothing is set for one that is not registered. -/
def entry (g : Registry κ) (kind : KindId) : Kind κ := (g.kinds.get? kind).getD {}

/-- What a call makes of a registry. -/
def make (g : Registry κ) : Change κ → Except Failure (Registry κ)
  | .register kind => g.register kind
  | .setDestructor kind slot => g.setDestructor kind slot
  | .setApply kind slot => g.setApply kind slot
  | .setMember kind name object => (g.setMember kind name object).map (·.1)

/-- Makes calls in a row, whether or not they succeed; also says which did. -/
def makeAll (g : Registry κ) : List (Change κ) → Registry κ × History κ
  | [] => (g, [])
  | c :: calls =>
    match g.make c with
    | .ok g => ((g.makeAll calls).1, c :: (g.makeAll calls).2)
    | .error _ => g.makeAll calls

theorem find_eq (g : Registry κ) (kind : KindId) :
    g.find kind =
      if g.contains kind then .ok (g.entry kind) else .error (.unregisteredKind kind) := by
  unfold find contains Table.contains entry
  cases g.kinds.get? kind <;> rfl

theorem entry_of_not_contains {kind : KindId} (h : g.contains kind = false) :
    g.entry kind = {} := by
  rw [contains, Table.contains, Option.isSome_eq_false_iff, Option.isNone_iff_eq_none] at h
  rw [entry, h]
  rfl

/-- **A call fails if its kind is registered and it registers it again, or if it is not and the call
needs it to be.**  Otherwise it writes the record of its kind and no other. -/
theorem make_eq (g : Registry κ) (c : Change κ) :
    g.make c = if g.contains c.kind = c.registers then .error c.refusal
      else .ok ⟨g.kinds.insert c.kind (c.write (g.entry c.kind))⟩ := by
  cases c with
  | register kind =>
    simp only [make, register, Change.kind, Change.registers, Change.refusal, Change.write]
    by_cases h : g.contains kind = true
    · simp [h]
    · simp [h, entry_of_not_contains (Bool.eq_false_iff.2 h)]
  | setDestructor kind _ | setApply kind _ | setMember kind _ _ =>
    simp only [make, setDestructor, setApply, setMember, Change.kind, Change.registers,
      Change.refusal, Change.write, find_eq]
    by_cases h : g.contains kind = true <;> simp [h, Except.map]

theorem make_eq_error_iff {e : Failure} :
    g.make c = .error e ↔ g.contains c.kind = c.registers ∧ e = c.refusal := by
  rw [make_eq]
  split <;> simp_all [eq_comm]

theorem make_eq_ok_iff : g.make c = .ok g' ↔ g.contains c.kind ≠ c.registers ∧
    g' = ⟨g.kinds.insert c.kind (c.write (g.entry c.kind))⟩ := by
  rw [make_eq]
  split <;> simp_all [eq_comm]

theorem entry_insert (kind kind' : KindId) (d : Kind κ) :
    (⟨g.kinds.insert kind d⟩ : Registry κ).entry kind' =
      if kind' = kind then d else g.entry kind' := by
  unfold entry
  rw [Table.get?_insert]
  split <;> rfl

/-! ## What is on record was written last -/

/-- What is on record for every kind is what was last written in a history. -/
structure Records (g : Registry κ) (l : History κ) : Prop where
  contains : ∀ kind, g.contains kind = true ↔ kind ∈ l.kinds
  nodup : l.kinds.Nodup
  size : g.size = l.kinds.length
  destructor : ∀ kind, (g.entry kind).destructor = l.destructor kind
  apply : ∀ kind, (g.entry kind).apply = l.apply kind
  member : ∀ kind name, (g.entry kind).members.get? name = l.member? kind name

theorem Records.empty : Records (∅ : Registry κ) [] where
  contains kind := by simp [Registry.contains, History.kinds]; rfl
  nodup := List.nodup_nil
  size := rfl
  destructor _ := rfl
  apply _ := rfl
  member _ _ := rfl

theorem Records.make (h : g.Records l) (hc : g.make c = .ok g') : g'.Records (l ++ [c]) := by
  obtain ⟨hallowed, rfl⟩ := make_eq_ok_iff.1 hc
  have hcontained : g.contains c.kind = !c.registers := Bool.eq_not_of_ne hallowed
  have hmem : c.kind ∈ l.kinds ↔ c.registers = false := by
    rw [← h.contains, hcontained, Bool.not_eq_true']
  refine ⟨fun kind => ?_, ?_, ?_, fun kind => ?_, fun kind => ?_, fun kind name => ?_⟩
  · have hother := h.contains kind
    rw [Registry.contains, Table.contains_insert, ← Registry.contains, Bool.or_eq_true,
      decide_eq_true_iff, hother, History.kinds_concat]
    split
    next hr => rw [List.mem_append, List.mem_singleton, or_comm]
    next hr => exact or_iff_right_of_imp fun hkind => hkind ▸ hmem.2 (Bool.eq_false_iff.2 hr)
  · rw [History.kinds_concat]
    split
    next hr =>
      refine List.nodup_append.2 ⟨h.nodup, by simp, fun kind hkind _ hc => ?_⟩
      rintro rfl
      rw [List.mem_singleton.1 hc, hmem, hr] at hkind
      cases hkind
    · exact h.nodup
  · rw [Registry.size, Table.size_insert, ← Registry.contains, hcontained, ← Registry.size, h.size,
      History.kinds_concat]
    cases c.registers <;> simp
  · rw [entry_insert, History.destructor, History.last_concat, Option.getD_or]
    by_cases hkind : kind = c.kind
    · rw [if_pos hkind, hkind, c.destructor_write, h.destructor, History.destructor]
    · rw [if_neg hkind, (Change.eq_none_of_ne hkind).1, h.destructor]
      rfl
  · rw [entry_insert, History.apply, History.last_concat, Option.getD_or]
    by_cases hkind : kind = c.kind
    · rw [if_pos hkind, hkind, c.apply_write, h.apply, History.apply]
    · rw [if_neg hkind, (Change.eq_none_of_ne hkind).2.1, h.apply]
      rfl
  · rw [entry_insert, History.member?, History.last_concat]
    by_cases hkind : kind = c.kind
    · rw [if_pos hkind, hkind, c.member_write, h.member, History.member?]
    · rw [if_neg hkind, (Change.eq_none_of_ne hkind).2.2, h.member]
      rfl

theorem Records.makeAll (h : g.Records l) (calls : List (Change κ)) :
    (g.makeAll calls).1.Records (l ++ (g.makeAll calls).2) := by
  induction calls generalizing g l with
  | nil => simpa [Registry.makeAll] using h
  | cons c calls ih =>
    unfold Registry.makeAll
    cases hc : g.make c with
    | error e => exact ih h
    | ok g' =>
      have hnext := ih (h.make hc)
      rwa [List.append_assoc] at hnext

/-- Every runtime starts as if the calls of `History.builtin` had been made on an empty registry. -/
theorem makeAll_builtin :
    (∅ : Registry κ).makeAll History.builtin = (.builtin, History.builtin) := rfl

theorem Records.builtin : Records (builtin : Registry κ) History.builtin := by
  have h := (Records.empty (κ := κ)).makeAll History.builtin
  rwa [makeAll_builtin] at h

/-! ## What a registry tells -/

/-- What a registry tells about every kind, and which calls it refuses, is what a history says. -/
structure Follows (g : Registry κ) (l : History κ) : Prop where
  contains : ∀ kind, g.contains kind = true ↔ kind ∈ l.kinds
  /-- Every kind was registered once. -/
  size : l.kinds.Nodup ∧ g.size = l.kinds.length
  isEmpty : ∀ cap, ({ registry := g, cap } : Runtime κ).answer .isEmpty =
    .ok (.flag (decide (l.kinds = [])))
  destructor : ∀ kind, g.destructor kind =
    if kind ∈ l.kinds then .ok (l.destructor kind) else .error (.unregisteredKind kind)
  apply : ∀ kind, g.apply kind =
    if kind ∈ l.kinds then .ok (l.apply kind) else .error (.unregisteredKind kind)
  member : ∀ kind name, g.member kind name =
    if kind ∈ l.kinds then
      match l.member? kind name with
      | some r => .ok r
      | none => .error (.unregisteredMember kind name)
    else .error (.unregisteredKind kind)
  notNull : ∀ cap kind name, ({ registry := g, cap } : Runtime κ).answer (.member kind name) ≠
    .ok (.object none)
  /-- The names are those that are bound, in ascending order of their bytes. -/
  memberNames : ∀ kind ∈ l.kinds, ∃ names, g.memberNames kind = .ok names ∧
    (∀ name, name ∈ names ↔ ∃ r, g.member kind name = .ok r) ∧
    names.Pairwise fun a b => utf8Bytes a < utf8Bytes b
  memberNames_of_not_mem : ∀ kind ∉ l.kinds, g.memberNames kind = .error (.unregisteredKind kind)
  /-- A kind is registered unless it was before, and slots and members of every registered kind can
  be written. -/
  refuses : ∀ c e, g.make c = .error e ↔
    (c.kind ∈ l.kinds ↔ c.registers = true) ∧ e = c.refusal

theorem Records.find_eq (h : g.Records l) (kind : KindId) : g.find kind =
    if kind ∈ l.kinds then .ok (g.entry kind) else .error (.unregisteredKind kind) := by
  rw [Registry.find_eq]
  simp only [h.contains]

theorem Records.follows (h : g.Records l) : g.Follows l where
  contains := h.contains
  size := ⟨h.nodup, h.size⟩
  isEmpty cap := by
    simp only [Runtime.answer, h.size]
    cases l.kinds <;> rfl
  destructor kind := by
    rw [Registry.destructor, h.find_eq, ← h.destructor]
    split <;> rfl
  apply kind := by
    rw [Registry.apply, h.find_eq, ← h.apply]
    split <;> rfl
  member kind name := by
    rw [Registry.member, h.find_eq, ← h.member]
    by_cases hmem : kind ∈ l.kinds
    · cases hname : (g.entry kind).members.get? name <;> simp only [if_pos hmem, hname]
    · simp only [if_neg hmem]
  notNull cap kind name := by
    simp only [Runtime.answer]
    cases g.member kind name <;> simp [Except.map]
  memberNames kind hmem := by
    have hfind : g.find kind = .ok (g.entry kind) := by rw [h.find_eq, if_pos hmem]
    refine ⟨(g.entry kind).members.keys.mergeSort fun a b => decide (a ≤ b),
      by rw [Registry.memberNames, hfind]; rfl, fun name => ?_,
      pairwise_utf8Bytes_mergeSort (g.entry kind).members.nodup_keys⟩
    rw [List.mem_mergeSort, Table.mem_keys_iff, Table.contains, Option.isSome_iff_exists]
    simp only [member_eq_ok_iff, hfind, Except.ok.injEq, exists_eq_left']
  memberNames_of_not_mem kind hmem := by
    rw [Registry.memberNames, h.find_eq, if_neg hmem]
    rfl
  refuses c e := by
    rw [make_eq_error_iff, ← h.contains, Bool.eq_iff_iff]

end Registry

end ObjectRuntime
