import ObjectRuntime.Proofs.Ledger.Balance
/-!
# The discipline of clients

What clients have to keep to so that nothing in use is taken from under them (`Disciplined`): they
write no headers, free an object only in its own destructor, take references only to objects that
are still held by somebody, and give back no more references than they were handed.
-/

namespace ObjectRuntime

variable {κ σ φ : Type}

/-- Whether an object is in use and has a count of at least 1. -/
def Heap.held (h : Heap κ) (r : Ref) : Bool := (h.live? r).any fun c => 1 ≤ c.count

theorem Heap.held_iff {h : Heap κ} {r : Ref} :
    h.held r = true ↔ ∃ c, h.live? r = some c ∧ 1 ≤ c.count := by
  simp [held, Option.any_eq_true]

namespace World

/-- Whether clients may ask for this while the objects that `destroys` says are being destroyed. -/
def permits (w : World κ) (destroys : Ref → Bool) : Request κ → Bool
  | .service (.setCount _ _) => false
  | .service (.freeObject (some r)) => destroys r
  | .on _ (.retain (some r)) | .on _ (.setMember _ _ (some r)) | .handle (.borrow _ (some r)) =>
    w.heap.held r
  | _ => true

theorem ne_setCount_of_permits {w : World κ} {destroys : Ref → Bool} {request : Request κ}
    (h : w.permits destroys request = true) (r : Ref) (n : Int) :
    request ≠ .service (.setCount r n) := by
  rintro rfl
  cases h

/-- Whether a handle that is to be cloned stands for an object that is held. -/
def clonesHeld (w : World κ) : Request κ → Bool
  | .handle (.clone h) => (w.handle? h).all fun handle => w.heap.held handle.object
  | _ => true

end World

/-- Whether a frame belongs to the destructor of an object. -/
def Frame.destroys (r : Ref) : Frame κ φ → Bool
  | .host (some run) _ => run.role.isDestructor && run.receiver == r
  | _ => false

namespace Moment

variable (host : Host κ σ φ) (m : Moment κ σ φ)

/-- Whether the destructor of an object is running. -/
def destroys (r : Ref) : Bool := m.stack.any (·.destroys r)

/-- Whether what is asked for at this moment is permitted. -/
def isPermitted : Bool :=
  match m.control with
  | .perform request => m.world.permits m.destroys request
  | _ => true

/-- Whether a handle that is cloned at this moment stands for an object that is held. -/
def clonesHeld : Bool :=
  match m.control with
  | .perform request => m.world.clonesHeld request
  | _ => true

/-- Clients keep to the discipline for so many steps. -/
structure Disciplined (n : Nat) : Prop where
  permitted : ∀ k < n, (m.run host k).isPermitted = true
  /-- No more references to an object are given back than were handed out. -/
  solvent : ∀ k ≤ n, ∀ r, (m.ledger host k).returned r ≤ (m.ledger host k).handedOut r

variable {host m}

theorem Disciplined.mono {n k : Nat} (h : m.Disciplined host n) (hk : k ≤ n) :
    m.Disciplined host k :=
  ⟨fun j hj => h.permitted j (by omega), fun j hj => h.solvent j (by omega)⟩

end Moment

namespace Ledger

theorem tally_eq_zero {l : Ledger} {r : Ref} (h : ∀ e ∈ l, e.object ≠ r) (sort : Cause → Bool) :
    l.tally sort r = 0 := by
  rw [tally, List.countP_eq_zero]
  intro e he
  simp [h e he]

/-- Only the objects in a ledger need to be looked at to see that no more was given back than was
handed out. -/
theorem solvent_of_mem {l : Ledger}
    (h : ∀ e ∈ l, l.returned e.object ≤ l.handedOut e.object) (r : Ref) :
    l.returned r ≤ l.handedOut r := by
  by_cases hr : ∃ e ∈ l, e.object = r
  · obtain ⟨e, he, rfl⟩ := hr
    exact h e he
  · rw [returned, tally_eq_zero fun e he hr' => hr ⟨e, he, hr'⟩]
    exact Nat.zero_le _

theorem disciplined_of_mem {host : Host κ σ φ} {m : Moment κ σ φ} {n : Nat}
    (hpermitted : ∀ k < n, (m.run host k).isPermitted = true)
    (hsolvent : ∀ k < n + 1, ∀ e ∈ m.ledger host k,
      (m.ledger host k).returned e.object ≤ (m.ledger host k).handedOut e.object) :
    m.Disciplined host n :=
  ⟨hpermitted, fun k hk => solvent_of_mem (hsolvent k (by omega))⟩

/-- A ledger that leaves a reference for each time that an object was bound, and one more for each
nil. -/
structure Covers (l : Ledger) : Prop where
  object : ∀ r, (l.bound r : Int) ≤ 1 + l.net r
  nil : ∀ i, (l.bound (.nil i) : Int) ≤ l.net (.nil i)

theorem Covers.of_solvent {l : Ledger} (hclients : ∀ r, l.returned r ≤ l.handedOut r)
    (hmethods : ∀ r, l.tally (· == .methodRelease) r ≤ l.tally (· == .methodLookup) r) :
    l.Covers := by
  refine ⟨fun r => ?_, fun i => ?_⟩
  · have hr := hclients r
    have hm := hmethods r
    rw [net_eq, taken_eq, given_eq]
    cases r <;> simp only [handedOut] at hr <;> omega
  · have hr := hclients (.nil i)
    have hm := hmethods (.nil i)
    rw [net_eq, taken_eq, given_eq]
    simp only [handedOut] at hr
    omega

end Ledger

end ObjectRuntime
