/-!
# Tables

A table binds each of finitely many keys to one value.  Binding a key again replaces its value, so
what a key is bound to is what was last written for it.
-/

namespace ObjectRuntime

/-- Finitely many keys, each bound to one value. -/
structure Table (α β : Type) where
  entries : List (α × β) := []
  nodup_keys : (entries.map Prod.fst).Nodup := by simp

namespace Table

variable {α β : Type}

instance : EmptyCollection (Table α β) := ⟨{}⟩

instance : Inhabited (Table α β) := ⟨∅⟩

def keys (t : Table α β) : List α := t.entries.map Prod.fst

def size (t : Table α β) : Nat := t.entries.length

theorem eq_of_entries {t t' : Table α β} (h : t.entries = t'.entries) : t = t' := by
  cases t
  cases t'
  cases h
  rfl

variable [DecidableEq α]

/-- What `key` is bound to in a list of entries. -/
def find? (key : α) : List (α × β) → Option β
  | [] => none
  | (k, v) :: rest => if k = key then some v else find? key rest

/-- The entries with the value of `key` replaced where it is bound. -/
def replace (key : α) (value : β) : List (α × β) → List (α × β)
  | [] => []
  | (k, v) :: rest => if k = key then (k, value) :: rest else (k, v) :: replace key value rest

def get? (t : Table α β) (key : α) : Option β := find? key t.entries

def contains (t : Table α β) (key : α) : Bool := (t.get? key).isSome

theorem map_fst_replace (key : α) (value : β) (l : List (α × β)) :
    (replace key value l).map Prod.fst = l.map Prod.fst := by
  induction l with
  | nil => rfl
  | cons e rest ih => by_cases h : e.1 = key <;> simp [replace, h, ih]

theorem find?_eq_none_iff (key : α) (l : List (α × β)) :
    find? key l = none ↔ key ∉ l.map Prod.fst := by
  induction l with
  | nil => simp [find?]
  | cons e rest ih => by_cases h : e.1 = key <;> simp_all [find?, eq_comm]

/-- Binds `key` to `value`, in place of what it was bound to. -/
def insert (t : Table α β) (key : α) (value : β) : Table α β :=
  match h : find? key t.entries with
  | some _ => ⟨replace key value t.entries, by rw [map_fst_replace]; exact t.nodup_keys⟩
  | none => ⟨(key, value) :: t.entries, by
      simpa using ⟨by simpa using (find?_eq_none_iff key t.entries).1 h, t.nodup_keys⟩⟩

def erase (t : Table α β) (key : α) : Table α β :=
  ⟨t.entries.filter (·.1 ≠ key),
    t.nodup_keys.sublist (List.filter_sublist.map Prod.fst)⟩

/-! ## What the operations do to a look-up -/

@[simp] theorem get?_empty (key : α) : (∅ : Table α β).get? key = none := rfl

theorem find?_replace (key key' : α) (value : β) (l : List (α × β)) :
    find? key' (replace key value l) =
      if key' = key then (find? key l).map fun _ => value else find? key' l := by
  induction l with
  | nil => simp [find?, replace]
  | cons e rest ih =>
    by_cases h : e.1 = key <;> by_cases h' : e.1 = key' <;>
      simp_all [find?, replace, eq_comm]

theorem get?_insert (t : Table α β) (key key' : α) (value : β) :
    (t.insert key value).get? key' = if key' = key then some value else t.get? key' := by
  unfold insert get?
  split
  next old h => rw [find?_replace, h]; rfl
  next h => simp [find?, eq_comm]

theorem contains_insert (t : Table α β) (key key' : α) (value : β) :
    (t.insert key value).contains key' = (decide (key' = key) || t.contains key') := by
  unfold contains
  rw [get?_insert]
  by_cases h : key' = key <;> simp [h]

theorem mem_keys_iff (t : Table α β) (key : α) : key ∈ t.keys ↔ t.contains key = true := by
  have absent := find?_eq_none_iff key t.entries
  unfold contains get? keys
  cases h : find? key t.entries <;> simp_all

theorem mem_keys_insert {t : Table α β} {key key' : α} {value : β} :
    key' ∈ (t.insert key value).keys ↔ key' = key ∨ key' ∈ t.keys := by
  simp [mem_keys_iff, contains_insert]

theorem size_insert (t : Table α β) (key : α) (value : β) :
    (t.insert key value).size = if t.contains key then t.size else t.size + 1 := by
  have length_replace : (replace key value t.entries).length = t.entries.length := by
    simpa using congrArg List.length (map_fst_replace key value t.entries)
  unfold insert size contains get?
  split <;> simp_all

theorem insert_insert (t : Table α β) (key : α) (value value' : β) :
    (t.insert key value).insert key value' = t.insert key value' := by
  have replace_replace (l : List (α × β)) :
      replace key value' (replace key value l) = replace key value' l := by
    induction l with
    | nil => rfl
    | cons e rest ih => by_cases h : e.1 = key <;> simp [replace, h, ih]
  have hentries (t : Table α β) (value : β) : (t.insert key value).entries =
      if (t.get? key).isSome then replace key value t.entries else (key, value) :: t.entries := by
    unfold insert get?
    split <;> simp_all
  have hbound : ((t.insert key value).get? key).isSome = true := by simp [get?_insert]
  have hsame : ((t.insert key value).insert key value').entries =
      (t.insert key value').entries := by
    rw [hentries, if_pos hbound, hentries t, hentries t]
    split
    · exact replace_replace _
    · simp [replace]
  exact eq_of_entries hsame

end Table

end ObjectRuntime
