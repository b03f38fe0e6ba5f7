import ObjectRuntime.Proofs.Run
/-!
# The ledger of a run

Whoever takes a reference to an object or gives one back does it by a request, and whether the
request did so can be read off how it went (`Request.entries`).  The `ledger` of a run lists these
entries in order; it says nothing about counts, so that counts can be checked against it.
-/

namespace ObjectRuntime

variable {κ σ φ : Type}

/-- Why a reference to an object is taken or given back. -/
inductive Cause where
  | retain
  | lookup
  | nil
  | borrow
  | clone
  /-- A member table takes a reference to what it binds. -/
  | bind
  /-- A method call looks its method up. -/
  | methodLookup
  | release
  /-- A method call gives its method back. -/
  | methodRelease
  deriving DecidableEq, Repr

namespace Cause

/-- Whether a reference is taken. -/
def takes : Cause → Bool
  | release | methodRelease => false
  | _ => true

/-- Whether a reference is taken that belongs to the client who asked for it. -/
def handsOut : Cause → Bool
  | retain | lookup | nil | borrow | clone => true
  | _ => false

def change (c : Cause) : Int := if c.takes then 1 else -1

theorem ne_bind_of_change {c : Cause} (h : c.change = -1) : c ≠ .bind := by
  rintro rfl
  cases h

end Cause

structure Entry where
  cause : Cause
  object : Ref
  deriving DecidableEq, Repr

/-- References taken and given back, in order. -/
abbrev Ledger := List Entry

namespace Ledger

/-- How many entries there are about an object for causes of one sort. -/
def tally (l : Ledger) (sort : Cause → Bool) (r : Ref) : Nat :=
  l.countP fun e => sort e.cause && e.object == r

def taken (l : Ledger) (r : Ref) : Nat := l.tally Cause.takes r

def given (l : Ledger) (r : Ref) : Nat := l.tally (!·.takes) r

/-- How often an object was bound as a member. -/
def bound (l : Ledger) (r : Ref) : Nat := l.tally (· == .bind) r

/-- How many references to an object clients were handed: the one that an object comes with, which
a runtime keeps to itself in the case of its nil, and those that they asked for. -/
def handedOut (l : Ledger) : Ref → Nat
  | .nil i => l.tally Cause.handsOut (.nil i)
  | .object n => 1 + l.tally Cause.handsOut (.object n)

/-- How many references to an object clients gave back. -/
def returned (l : Ledger) (r : Ref) : Nat := l.tally (· == .release) r

/-- What the entries add to the count of an object. -/
def net : Ledger → Ref → Int
  | [], _ => 0
  | e :: l, r => net l r + if e.object = r then e.cause.change else 0

@[simp] theorem tally_nil (sort : Cause → Bool) (r : Ref) : tally [] sort r = 0 := rfl

@[simp] theorem tally_append (l l' : Ledger) (sort : Cause → Bool) (r : Ref) :
    tally (l ++ l') sort r = l.tally sort r + tally l' sort r := by
  simp [tally]

theorem tally_cons (e : Entry) (l : Ledger) (sort : Cause → Bool) (r : Ref) :
    tally (e :: l) sort r =
      l.tally sort r + if sort e.cause = true ∧ e.object = r then 1 else 0 := by
  simp [tally, List.countP_cons]

theorem bound_append (l l' : Ledger) (r : Ref) : bound (l ++ l') r = l.bound r + bound l' r :=
  tally_append l l' _ r

@[simp] theorem net_nil (r : Ref) : net [] r = 0 := rfl

theorem net_cons (e : Entry) (l : Ledger) (r : Ref) :
    net (e :: l) r = l.net r + if e.object = r then e.cause.change else 0 := rfl

@[simp] theorem net_append (l l' : Ledger) (r : Ref) : net (l ++ l') r = l.net r + net l' r := by
  induction l with
  | nil => simp
  | cons e l ih =>
    rw [List.cons_append, net_cons, net_cons, ih]
    omega

theorem net_eq (l : Ledger) (r : Ref) : l.net r = l.taken r - l.given r := by
  induction l with
  | nil => rfl
  | cons e l ih =>
    rw [net_cons, ih, taken, taken, given, given, tally_cons, tally_cons]
    by_cases h : e.object = r
    · cases ht : e.cause.takes <;> simp [h, ht, Cause.change] <;> omega
    · simp [h]

theorem taken_eq (l : Ledger) (r : Ref) : l.taken r =
    l.tally Cause.handsOut r + l.bound r + l.tally (· == .methodLookup) r := by
  induction l with
  | nil => rfl
  | cons e l ih =>
    simp only [taken, bound, tally_cons] at ih ⊢
    by_cases h : e.object = r
    · cases hc : e.cause <;> simp_all [Cause.takes, Cause.handsOut] <;> omega
    · simp_all

theorem given_eq (l : Ledger) (r : Ref) :
    l.given r = l.returned r + l.tally (· == .methodRelease) r := by
  induction l with
  | nil => rfl
  | cons e l ih =>
    simp only [given, returned, tally_cons] at ih ⊢
    by_cases h : e.object = r
    · cases hc : e.cause <;> simp_all [Cause.takes] <;> omega
    · simp_all

end Ledger

/-- The entries of a request in a world, from how the operation went on; releases are entered for
the given cause.  A request that ends the run by touching storage that is not there is none. -/
def Request.entries (w : World κ) (back : Cause) : Request κ → Turn κ → Ledger
  | .on _ (.retain (some r)), .done _ => [⟨.retain, r⟩]
  | .on _ (.release (some r)), .done _ => [⟨back, r⟩]
  | .on _ (.release (some r)), .enter _ => [⟨back, r⟩]
  | .on _ (.lookup _ _), .done (.ok (.object (some r))) => [⟨.lookup, r⟩]
  | .on _ (.setMember _ _ (some r)), .done (.ok _) => [⟨.bind, r⟩]
  | .on i .nil, .done _ => [⟨.nil, .nil i⟩]
  | .on _ (.methodCall _ _ _), .next _ (.releaseMethod _ r) => [⟨.methodLookup, r⟩]
  | .handle (.borrow _ (some r)), .done _ => [⟨.borrow, r⟩]
  | .handle (.nil i), .done _ => [⟨.nil, .nil i⟩]
  | .handle (.clone h), .done _ => ((w.handle? h).map fun h => ⟨.clone, h.object⟩).toList
  | _, _ => []

namespace Moment

variable (host : Host κ σ φ) (m : Moment κ σ φ)

/-- Whether a method call is waiting for its method to be released. -/
def settles : Bool :=
  match m.stack with
  | .pending (.keep _) :: _ => true
  | _ => false

/-- For which cause a reference is given back that is given back at this moment. -/
def releaseCause : Cause := if m.settles then .methodRelease else .release

/-- The entries of what happens at this moment. -/
def entries : Ledger :=
  match m.control with
  | .perform request => request.entries m.world m.releaseCause (m.world.perform request).2
  | _ => []

/-- The entries of so many steps. -/
def ledger (n : Nat) (m : Moment κ σ φ) : Ledger := m.trace host entries n

@[simp] theorem ledger_zero : ledger host 0 m = [] := rfl

theorem ledger_succ (n : Nat) :
    ledger host (n + 1) m = ledger host n m ++ (m.run host n).entries :=
  trace_succ host m entries n

end Moment

end ObjectRuntime
