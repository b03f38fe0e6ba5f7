import ObjectRuntime.Proofs.Ledger.Record
/-!
# Function objects

An object keeps its kind for ever, and a function object the code that it wraps (`Cell.Continues`).
So as long as function objects are made as such, every object of their kind is one
(`Heap.FunctionsWrap`).
-/

namespace ObjectRuntime

variable {κ σ φ : Type}

/-- A later record of an object: the kind is the same, and so is the code, if there is any. -/
structure Cell.Continues (c c' : Cell κ) : Prop where
  kind : c'.kind = c.kind
  code : ∀ code, c.body = .code code → c'.body = .code code

namespace Cell.Continues

theorem refl (c : Cell κ) : c.Continues c := ⟨rfl, fun _ => id⟩

theorem trans {c c' c'' : Cell κ} (h : c.Continues c') (h' : c'.Continues c'') :
    c.Continues c'' :=
  ⟨h'.kind.trans h.kind, fun code hcode => h'.code code (h.code code hcode)⟩

theorem write (c : Cell κ) (start : Nat) (bytes : List UInt8) :
    c.Continues { c with body := World.writeBody start bytes c.body } :=
  ⟨rfl, fun code hcode => by
    dsimp only
    rw [hcode]
    rfl⟩

theorem lasting : Cell.Lasting (κ := κ) Cell.Continues where
  refl := refl
  trans := trans
  count _ _ := ⟨rfl, fun _ => id⟩
  release _ := ⟨rfl, fun _ => id⟩

end Cell.Continues

theorem Outcome.continues_or_made {w w' : World κ} {request : Request κ} {turn : Turn κ}
    (h : Outcome w request w' turn) {r : Ref} {c' : Cell κ} (hc' : w'.heap.cell? r = some c') :
    (∃ c, w.heap.cell? r = some c ∧ c.Continues c') ∨ request.Makes c' ∨ c'.kind = nilKind := by
  cases hc : w.heap.cell? r with
  | none => exact .inr (h.made_or_nil hc hc')
  | some c =>
    obtain ⟨d, hd, hcontinues⟩ := h.lasts Cell.Continues.lasting hc fun start bytes _ =>
      .write c start bytes
    obtain rfl : d = c' := Option.some.inj (hd.symm.trans hc')
    exact .inl ⟨c, rfl, hcontinues⟩

/-- Every object of the kind of function objects wraps host code. -/
def Heap.FunctionsWrap (h : Heap κ) : Prop :=
  ∀ r c, h.cell? r = some c → c.kind = functionKind → ∃ code, c.body = .code code

/-- Whether an object of the kind of function objects is to be made that wraps nothing. -/
def Control.forgesFunction : Control κ → Bool
  | .perform (.on _ (.newObject kind _)) | .perform (.service (.createObject kind _)) =>
    kind == functionKind
  | _ => false

namespace Heap.FunctionsWrap

theorem perform {w : World κ} {request : Request κ} (h : w.heap.FunctionsWrap)
    (hrequest : (Control.perform request).forgesFunction = false) :
    (w.perform request).1.heap.FunctionsWrap := by
  intro r c' hc' hkind
  rcases (w.perform_outcome request).continues_or_made hc' with ⟨c, hc, hcont⟩ | hmakes | hnil
  · obtain ⟨code, hcode⟩ := h r c hc (hcont.kind ▸ hkind)
    exact ⟨code, hcont.code code hcode⟩
  · unfold Request.Makes at hmakes
    split at hmakes
    · subst hmakes
      exact absurd hkind (by simpa [Control.forgesFunction] using hrequest)
    · subst hmakes
      exact absurd hkind (by simpa [Control.forgesFunction] using hrequest)
    · exact ⟨_, by rw [hmakes]⟩
    · cases hmakes
  · rw [hnil] at hkind
    cases hkind

variable {host : Host κ σ φ} {m : Moment κ σ φ}

theorem step (h : m.world.heap.FunctionsWrap) (hcontrol : m.control.forgesFunction = false) :
    (m.step host).world.heap.FunctionsWrap := by
  rw [Moment.world_step]
  split
  next request hrequest => exact h.perform (hrequest ▸ hcontrol)
  next => rwa [(m.world.resume_frame _ _).1]
  · exact h

theorem run (h : m.world.heap.FunctionsWrap) (n : Nat)
    (hcontrol : ∀ k < n, (m.run host k).control.forgesFunction = false) :
    (m.run host n).world.heap.FunctionsWrap := by
  induction n with
  | zero => exact h
  | succ n ih =>
    rw [Moment.run_succ]
    exact (ih fun k hk => hcontrol k (by omega)).step (hcontrol n (by omega))

end Heap.FunctionsWrap

end ObjectRuntime
