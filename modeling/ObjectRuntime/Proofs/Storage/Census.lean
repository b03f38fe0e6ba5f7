import ObjectRuntime.Heap
/-!
# How much storage is on record

A heap keeps a record of every piece of storage that was served: the nils, the other objects and
the raw blocks, each marked once it was given back.  What the operations do to the number of pieces
`inUse`, and to the number of those `givenBack`, is all that the counters of an allocator depend
on.
-/

namespace ObjectRuntime.Heap

variable {κ : Type}

/-- How many pieces of storage are on record as given back, or as not given back. -/
def pieces (h : Heap κ) (gone : Bool) : Nat :=
  h.nils.countP (·.released == gone) + h.objects.countP (·.released == gone) +
    h.blocks.countP (· == gone)

/-- How many pieces of storage were served and not given back. -/
def inUse (h : Heap κ) : Nat := h.pieces false

/-- How many pieces of storage were given back. -/
def givenBack (h : Heap κ) : Nat := h.pieces true

@[simp] theorem pieces_empty (gone : Bool) : (∅ : Heap κ).pieces gone = 0 := rfl

theorem pieces_update (h : Heap κ) {r : Ref} {c : Cell κ} (hc : h.cell? r = some c)
    (f : Cell κ → Cell κ) (gone : Bool) :
    (h.update r f).pieces gone + (c.released == gone).toNat =
      h.pieces gone + ((f c).released == gone).toNat := by
  cases r with
  | nil i =>
    have := countP_modify (fun c : Cell κ => c.released == gone) hc f
    simp only [update, pieces]
    omega
  | object n =>
    have := countP_modify (fun c : Cell κ => c.released == gone) hc f
    simp only [update, pieces]
    omega

theorem pieces_update_of_released (h : Heap κ) (r : Ref) {f : Cell κ → Cell κ}
    (hf : ∀ c, (f c).released = c.released) (gone : Bool) :
    (h.update r f).pieces gone = h.pieces gone := by
  cases hc : h.cell? r with
  | none =>
    have hsame {xs : Array (Cell κ)} {i : Nat} (hi : xs[i]? = none) : xs.modify i f = xs := by
      refine Array.ext_getElem? fun j => ?_
      rw [Array.getElem?_modify]
      split
      next hij => rw [← hij, hi, Option.map_none]
      · rfl
    cases r with
    | nil i => rw [update, hsame hc]
    | object n => rw [update, hsame hc]
  | some c =>
    have := h.pieces_update hc f gone
    rw [hf] at this
    omega

@[simp] theorem pieces_addCount (h : Heap κ) (r : Ref) (d : Int) (gone : Bool) :
    (h.addCount r d).pieces gone = h.pieces gone :=
  h.pieces_update_of_released r (f := fun c => { c with count := c.count + d }) (fun _ => rfl) gone

@[simp] theorem pieces_addObject (h : Heap κ) (c : Cell κ) (gone : Bool) :
    (h.addObject c).pieces gone = h.pieces gone + (c.released == gone).toNat := by
  simp only [addObject, pieces, Array.countP_push, toNat_eq_ite]
  omega

@[simp] theorem pieces_addNil (h : Heap κ) (c : Cell κ) (gone : Bool) :
    (h.addNil c).pieces gone = h.pieces gone + (c.released == gone).toNat := by
  simp only [addNil, pieces, Array.countP_push, toNat_eq_ite]
  omega

@[simp] theorem pieces_addBlock (h : Heap κ) (gone : Bool) :
    h.addBlock.pieces gone = h.pieces gone + (!gone).toNat := by
  simp only [addBlock, pieces, Array.countP_push]
  cases gone <;> simp [Nat.add_assoc]

theorem pieces_release_object {h : Heap κ} {r : Ref} {c : Cell κ} (hc : h.live? r = some c) :
    (h.release (.object r)).inUse + 1 = h.inUse ∧
      (h.release (.object r)).givenBack = h.givenBack + 1 := by
  obtain ⟨hcell, hlive⟩ := live?_eq_some_iff.1 hc
  have hmove := h.pieces_update hcell ({ · with released := true })
  have hused := hmove false
  have hgone := hmove true
  rw [hlive] at hused hgone
  exact ⟨hused, hgone⟩

theorem pieces_release_block {h : Heap κ} {b : BlockId} (hb : h.liveBlock b = true) :
    (h.release (.block b)).inUse + 1 = h.inUse ∧
      (h.release (.block b)).givenBack = h.givenBack + 1 := by
  have hblock : h.blocks[b]? = some false := by simpa [liveBlock] using hb
  have hset : h.blocks.setIfInBounds b true = h.blocks.modify b fun _ => true := by
    refine Array.ext_getElem? fun i => ?_
    simp only [Array.getElem?_setIfInBounds, Array.getElem?_modify]
    split
    next hi =>
      obtain ⟨hb', -⟩ := Array.getElem?_eq_some_iff.1 hblock
      rw [← hi, if_pos hb', hblock, Option.map_some]
    · rfl
  have hused := countP_modify (· == false) hblock fun _ => true
  have hgone := countP_modify (· == true) hblock fun _ => true
  simp only [inUse, givenBack, pieces, release, hset]
  simp at hused hgone ⊢
  omega

end ObjectRuntime.Heap
