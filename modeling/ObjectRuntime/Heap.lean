import ObjectRuntime.Failure
/-!
# The heap

Objects and raw blocks, named by the order in which they came to be.  A name is never used twice
and what it names stays on record (`cell?`) after its storage was given back, so a stale reference
is visible as such (`live?`) instead of meaning another object.
-/

namespace ObjectRuntime

/-- A runtime, by the order in which runtimes came to be. -/
abbrev RuntimeId := Nat

/-- A raw block, by the order in which raw blocks were served. -/
abbrev BlockId := Nat

/-- An object: the nil of a runtime, or one of the objects in order of creation. -/
inductive Ref where
  | nil (runtime : RuntimeId)
  | object (serial : Nat)
  deriving DecidableEq, Repr

/-- An object pointer; `none` is the null pointer. -/
abbrev Pointer := Option Ref

/-- Storage that an allocator served: an object's or a raw block. -/
inductive Address where
  | object (ref : Ref)
  | block (id : BlockId)
  deriving DecidableEq, Repr

/-- What an object's storage holds after the header. -/
inductive Body (κ : Type) where
  | nothing
  | payload (bytes : Array UInt8)
  /-- The host code that a function object wraps. -/
  | code (entry : κ)
  deriving Repr

/-- An object: its header, what follows the header, and whether its storage was given back. -/
structure Cell (κ : Type) where
  kind : KindId
  body : Body κ
  /-- The references, as an integer without bounds.  It stands for an atomic count of 64 bits, with
  a sign, which wraps around at its limits; counts are taken to stay away from these. -/
  count : Int := 1
  released : Bool := false
  deriving Repr

/-- All storage, each piece under its own name. -/
structure Heap (κ : Type) where
  nils : Array (Cell κ) := #[]
  objects : Array (Cell κ) := #[]
  blocks : Array Bool := #[]

theorem toNat_eq_ite (b : Bool) : b.toNat = if b then 1 else 0 := by
  cases b <;> rfl

theorem countP_modify {α : Type} (p : α → Bool) {xs : Array α} {i : Nat} {a : α}
    (ha : xs[i]? = some a) (f : α → α) :
    (xs.modify i f).countP p + (p a).toNat = xs.countP p + (p (f a)).toNat := by
  obtain ⟨l⟩ := xs
  simp only [List.getElem?_toArray] at ha
  simp only [← Array.countP_toList, Array.toList_modify]
  induction l generalizing i with
  | nil => simp at ha
  | cons b l ih =>
    cases i with
    | zero =>
      obtain rfl : b = a := by simpa using ha
      simp only [List.modify_zero_cons, List.countP_cons]
      cases p b <;> cases p (f b) <;> simp
    | succ i =>
      have := ih (i := i) (by simpa using ha)
      simp only [List.modify_succ_cons, List.countP_cons]
      omega

namespace Heap

variable {κ : Type}

instance : EmptyCollection (Heap κ) := ⟨{}⟩

/-- What is on record for an object, given back or not. -/
def cell? (h : Heap κ) : Ref → Option (Cell κ)
  | .nil i => h.nils[i]?
  | .object n => h.objects[n]?

/-- An object whose storage has not been given back. -/
def live? (h : Heap κ) (r : Ref) : Option (Cell κ) :=
  (h.cell? r).filter (!·.released)

def update (h : Heap κ) (r : Ref) (f : Cell κ → Cell κ) : Heap κ :=
  match r with
  | .nil i => { h with nils := h.nils.modify i f }
  | .object n => { h with objects := h.objects.modify n f }

def addCount (h : Heap κ) (r : Ref) (d : Int) : Heap κ :=
  h.update r fun c => { c with count := c.count + d }

/-- The name of the next object. -/
def nextObject (h : Heap κ) : Ref := .object h.objects.size

def nextNil (h : Heap κ) : Ref := .nil h.nils.size

def nextBlock (h : Heap κ) : BlockId := h.blocks.size

/-- Adds an object under the next name. -/
def addObject (h : Heap κ) (c : Cell κ) : Heap κ := { h with objects := h.objects.push c }

def addNil (h : Heap κ) (c : Cell κ) : Heap κ := { h with nils := h.nils.push c }

def addBlock (h : Heap κ) : Heap κ := { h with blocks := h.blocks.push false }

/-- Whether a raw block was served and not given back. -/
def liveBlock (h : Heap κ) (b : BlockId) : Bool := h.blocks[b]? == some false

/-- Puts on record that a piece of storage was given back. -/
def release (h : Heap κ) : Address → Heap κ
  | .object r => h.update r ({ · with released := true })
  | .block b => { h with blocks := h.blocks.setIfInBounds b true }

/-! ## What the operations do to the record of an object -/

theorem cell?_update (h : Heap κ) (r r' : Ref) (f : Cell κ → Cell κ) :
    (h.update r f).cell? r' = if r' = r then (h.cell? r').map f else h.cell? r' := by
  cases r <;> cases r' <;> simp [update, cell?, Array.getElem?_modify, eq_comm]

@[simp] theorem size_nils_update (h : Heap κ) (r : Ref) (f : Cell κ → Cell κ) :
    (h.update r f).nils.size = h.nils.size := by
  cases r <;> simp [update]

theorem cell?_addCount (h : Heap κ) (r r' : Ref) (d : Int) :
    (h.addCount r d).cell? r' =
      if r' = r then (h.cell? r').map fun c => { c with count := c.count + d } else h.cell? r' :=
  cell?_update h r r' _

theorem cell?_addObject (h : Heap κ) (c : Cell κ) (r : Ref) :
    (h.addObject c).cell? r = if r = h.nextObject then some c else h.cell? r := by
  cases r <;> simp [addObject, cell?, nextObject, Array.getElem?_push]

theorem cell?_addNil (h : Heap κ) (c : Cell κ) (r : Ref) :
    (h.addNil c).cell? r = if r = h.nextNil then some c else h.cell? r := by
  cases r <;> simp [addNil, cell?, nextNil, Array.getElem?_push]

@[simp] theorem cell?_addBlock (h : Heap κ) (r : Ref) : h.addBlock.cell? r = h.cell? r := by
  cases r <;> rfl

@[simp] theorem cell?_empty (r : Ref) : (∅ : Heap κ).cell? r = none := by
  cases r <;> rfl

theorem cell?_release_object (h : Heap κ) (r r' : Ref) :
    (h.release (.object r)).cell? r' =
      if r' = r then (h.cell? r').map ({ · with released := true }) else h.cell? r' :=
  cell?_update h r r' _

@[simp] theorem cell?_release_block (h : Heap κ) (b : BlockId) (r : Ref) :
    (h.release (.block b)).cell? r = h.cell? r := by
  cases r <;> rfl

theorem cell?_nextObject (h : Heap κ) : h.cell? h.nextObject = none := by
  simp [cell?, nextObject]

theorem cell?_nextNil (h : Heap κ) : h.cell? h.nextNil = none := by
  simp [cell?, nextNil]

theorem live?_eq_some_iff {h : Heap κ} {r : Ref} {c : Cell κ} :
    h.live? r = some c ↔ h.cell? r = some c ∧ c.released = false := by
  simp [live?, Option.filter_eq_some_iff]

theorem live?_eq_none {h : Heap κ} {r : Ref} {c : Cell κ} (hc : h.cell? r = some c)
    (hreleased : c.released = true) : h.live? r = none := by
  rw [live?, hc, Option.filter_some, hreleased]
  rfl

theorem live?_addCount {h : Heap κ} {r : Ref} {c : Cell κ} (hc : h.live? r = some c) (d : Int) :
    (h.addCount r d).live? r = some { c with count := c.count + d } := by
  rw [live?_eq_some_iff] at hc ⊢
  rw [cell?_addCount, if_pos rfl, hc.1]
  exact ⟨rfl, hc.2⟩

@[simp] theorem live?_release_object (h : Heap κ) (r : Ref) :
    (h.release (.object r)).live? r = none := by
  rw [live?, cell?_release_object, if_pos rfl]
  cases h.cell? r <;> rfl

end Heap

end ObjectRuntime
