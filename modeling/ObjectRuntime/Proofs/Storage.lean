import Mathlib.Algebra.BigOperators.Ring.Finset
import ObjectRuntime.Proofs.Storage.Supply
import ObjectRuntime.Procedure
/-!
# Storage is conserved

Which pair got which request is noted as a run goes on, as `transfers`.  The counters of the
allocator, the storage on record and what each pair was asked are at every moment what these notes
come to (`Tallies`), whatever was asked, whichever pairs were installed in between and whichever
requests they refused.
-/

namespace ObjectRuntime

variable {κ σ φ : Type}

namespace Transfer

def isServed (t : Transfer) : Bool := t.passage == .served

def isReturned (t : Transfer) : Bool := t.passage == .returned

/-- Whether the pair of this name was asked for storage. -/
def asks (t : Transfer) (name : String) : Bool := t.pair == name && !t.isReturned

/-- Whether the pair of this name got storage back. -/
def returnsTo (t : Transfer) (name : String) : Bool := t.pair == name && t.isReturned

@[simp] theorem isServed_mk (name : String) (p : Passage) :
    isServed ⟨name, p⟩ = (p == .served) := rfl

@[simp] theorem isReturned_mk (name : String) (p : Passage) :
    isReturned ⟨name, p⟩ = (p == .returned) := rfl

@[simp] theorem asks_mk (name name' : String) (p : Passage) :
    asks ⟨name, p⟩ name' = (name == name' && !(p == .returned)) := rfl

@[simp] theorem returnsTo_mk (name name' : String) (p : Passage) :
    returnsTo ⟨name, p⟩ name' = (name == name' && p == .returned) := rfl

end Transfer

namespace World

/-- What the counters of an allocator and the storage on record come to, given what the pairs were
asked and got back in the order of time. -/
structure Tallies (w : World κ) (history : List Transfer) : Prop where
  total : w.allocator.total = history.countP (·.isServed)
  balance : w.allocator.live + history.countP (·.isReturned) = w.allocator.total
  inUse : w.heap.inUse = w.allocator.live
  givenBack : w.heap.givenBack = history.countP (·.isReturned)
  routed : ∀ name, w.allocator.trafficOf name =
    { requests := history.countP (·.asks name), returns := history.countP (·.returnsTo name) }
  known : ∀ t ∈ history, t.pair ∈ w.allocator.traffic.keys

namespace Tallies

variable {w v : World κ} {history : List Transfer}

theorem of_fresh (hw : w.Fresh) {first : Pair} (hfirst : w.allocator = { installed := first }) :
    w.Tallies [] := by
  constructor <;> simp [hfirst, hw.heap, Heap.inUse, Heap.givenBack, Allocator.trafficOf]

theorem of_sameStorage (h : w.Tallies history) (hsame : SameStorage w v) : v.Tallies history where
  total := by rw [hsame.allocator, h.total]
  balance := by rw [hsame.allocator, h.balance]
  inUse := by rw [hsame.allocator, ← h.inUse]; exact hsame.pieces false
  givenBack := (hsame.pieces true).trans h.givenBack
  routed name := by rw [hsame.allocator, h.routed]
  known t ht := by rw [hsame.allocator]; exact h.known t ht

theorem asked (h : w.Tallies history) {size : UInt64} (hasked : Asked w size v) {p : Passage}
    (hserved : (p == .served) = (w.allocator.allocate size).2)
    (hreturned : (p == .returned) = false) :
    v.Tallies (history ++ [⟨w.allocator.installed.name, p⟩]) := by
  obtain ⟨hallocator, hused, hgone⟩ := hasked
  have hbalance := h.balance
  have htraffic := w.allocator.traffic_allocate size
  rw [← hallocator] at htraffic
  refine ⟨?_, ?_, ?_, ?_, fun name => ?_, fun t ht => ?_⟩
  · simp [hallocator, h.total, List.countP_singleton, hserved, toNat_eq_ite]
  · simp [hallocator, hreturned]
    omega
  · rw [hallocator, Allocator.live_allocate, hused, h.inUse]
  · simp [hgone, h.givenBack, hreturned]
  · rw [Allocator.trafficOf_eq_of_insert htraffic]
    by_cases hname : name = w.allocator.installed.name
    · simp [hname, h.routed, hreturned]
    · simp [hname, Ne.symm hname, h.routed, hreturned]
  · rw [htraffic, Table.mem_keys_insert]
    rcases List.mem_append.1 ht with ht | ht
    · exact .inr (h.known t ht)
    · exact .inl (by simp_all)

theorem gaveBack (h : w.Tallies history) (hback : GaveBack w v) :
    v.Tallies (history ++ [⟨w.allocator.installed.name, .returned⟩]) := by
  obtain ⟨hallocator, hused, hgone⟩ := hback
  have hbalance := h.balance
  have hinUse := h.inUse
  have htraffic := w.allocator.traffic_release
  rw [← hallocator] at htraffic
  refine ⟨?_, ?_, ?_, ?_, fun name => ?_, fun t ht => ?_⟩
  · simp [hallocator, Allocator.release, h.total]
  · simp [hallocator, Allocator.release]
    omega
  · simp [hallocator, Allocator.release]
    omega
  · simp [hgone, h.givenBack]
  · rw [Allocator.trafficOf_eq_of_insert htraffic]
    by_cases hname : name = w.allocator.installed.name
    · simp [hname, h.routed]
    · simp [hname, Ne.symm hname, h.routed]
  · rw [htraffic, Table.mem_keys_insert]
    rcases List.mem_append.1 ht with ht | ht
    · exact .inr (h.known t ht)
    · exact .inl (by simp_all)

theorem perform (h : w.Tallies history) (request : Request κ) :
    (w.perform request).1.Tallies (history ++ (request.transfer w).toList) := by
  unfold Request.transfer
  cases w.perform_supply request with
  | kept hdemand hsurrenders hinstall hsame =>
    simp only [hdemand, hsurrenders]
    simpa using h.of_sameStorage hsame
  | asked size hdemand hinstall hasked =>
    simp only [hdemand, ← Allocator.allocate_snd]
    refine h.asked hasked ?_ ?_
    · cases (w.allocator.allocate size).2 <;> rfl
    · cases (w.allocator.allocate size).2 <;> rfl
  | returned hdemand hsurrenders hinstall hback =>
    simp only [hdemand, hsurrenders]
    exact h.gaveBack hback
  | installed pair hrequest hallocator hheap =>
    subst hrequest
    rw [show (Request.service (.install pair)).demand w = none from rfl]
    simpa [Request.surrenders] using
      (⟨h.total, h.balance, h.inUse, h.givenBack, h.routed, h.known⟩ :
        (w.perform (.service (.install pair))).1.Tallies history)

end Tallies

/-- A pair that is asked for the whole history, or gets storage back, is one of those that were
asked something; what they did one by one is what was done in all. -/
theorem Tallies.sum_countP {w : World κ} {history : List Transfer} (h : w.Tallies history)
    (f : Transfer → Bool) :
    (w.allocator.traffic.keys.map fun name => history.countP fun t => t.pair == name && f t).sum =
      history.countP f := by
  have hknown := h.known
  have hnodup : w.allocator.traffic.keys.Nodup := w.allocator.traffic.nodup_keys
  clear h
  generalize w.allocator.traffic.keys = names at hknown hnodup
  induction history with
  | nil => simp
  | cons t history ih =>
    have hone : (names.map fun name => if (t.pair == name && f t) = true then 1 else 0).sum =
        if f t = true then 1 else 0 := by
      rw [← List.sum_toFinset _ hnodup]
      have hmem : t.pair ∈ names := hknown t List.mem_cons_self
      cases f t <;> simp [hmem]
    simp only [List.countP_cons, List.sum_map_add, hone,
      ih fun t' ht' => hknown t' (List.mem_cons_of_mem _ ht')]

/-- What the counters of an allocator, the storage on record and the traffic of all pairs come to,
given what the pairs were asked and got back, and which pairs were installed after the first. -/
structure Conserves (w : World κ) (history : List Transfer) (first : Pair) (swaps : List Pair) :
    Prop extends w.Tallies history where
  live_le_total : w.allocator.live ≤ w.allocator.total
  onRecord : w.heap.inUse + w.heap.givenBack = w.allocator.total
  servedInAll : (w.allocator.traffic.keys.map fun name =>
    history.countP fun t => t.pair == name && t.isServed).sum = w.allocator.total
  returnedInAll : (w.allocator.traffic.keys.map fun name =>
    (w.allocator.trafficOf name).returns).sum = w.allocator.total - w.allocator.live
  installed : w.allocator.installed = swaps.getLastD first

theorem Tallies.conserves {w : World κ} {history : List Transfer} (h : w.Tallies history)
    {first : Pair} {swaps : List Pair} (hinstalled : w.allocator.installed = swaps.getLastD first) :
    w.Conserves history first swaps where
  toTallies := h
  live_le_total := by have := h.balance; omega
  onRecord := by rw [h.inUse, h.givenBack, h.balance]
  servedInAll := (h.sum_countP _).trans h.total.symm
  returnedInAll := by
    have hbalance := h.balance
    have hsum := h.sum_countP fun t => t.isReturned
    simp only [h.routed, Transfer.returnsTo]
    rw [hsum, ← hbalance, Nat.add_sub_cancel_left]
  installed := hinstalled

end World

namespace Moment

/-- What the installed pair is made to do at this moment, if anything. -/
def transfers (m : Moment κ σ φ) : List Transfer :=
  match m.control with
  | .perform request => (request.transfer m.world).toList
  | _ => []

/-- The pair that takes the place of the installed one at this moment, if one does. -/
def installs (m : Moment κ σ φ) : List Pair :=
  match m.control with
  | .perform (.service (.install pair)) => [pair]
  | _ => []

variable (host : Host κ σ φ) {m : Moment κ σ φ}

theorem tallies_step {history : List Transfer} (h : m.world.Tallies history) :
    (m.step host).world.Tallies (history ++ m.transfers) := by
  obtain ⟨w, s, stack, control⟩ := m
  cases control with
  | ended ending => simpa [step, transfers] using h
  | perform request =>
    rw [world_step]
    exact h.perform request
  | reply reply =>
    rw [show transfers _ = [] from rfl, List.append_nil]
    cases stack with
    | nil => exact h
    | cons frame stack =>
      cases frame with
      | pending p =>
        rw [world_step]
        exact h.of_sameStorage (.resume w reply p)
      | host i f =>
        rw [world_step]
        exact h

theorem installed_step : (m.step host).world.allocator.installed =
    m.installs.getLastD m.world.allocator.installed := by
  obtain ⟨w, s, stack, control⟩ := m
  cases control with
  | ended ending => rfl
  | perform request =>
    rw [world_step]
    by_cases h : ∃ pair, request = .service (.install pair)
    · obtain ⟨pair, rfl⟩ := h
      rfl
    · have hsame := w.installed_perform fun pair hpair => h ⟨pair, hpair⟩
      have hnone : (mk w s stack (.perform request)).installs = [] := by
        unfold installs
        split
        next pair hpair => exact absurd ⟨pair, Control.perform.inj hpair⟩ h
        · rfl
      rw [hnone]
      exact hsame
  | reply reply =>
    cases stack with
    | nil => rfl
    | cons frame stack =>
      cases frame with
      | pending p =>
        rw [world_step]
        exact congrArg Allocator.installed (World.SameStorage.resume w reply p).allocator
      | host i f =>
        rw [world_step]
        rfl

/-- What a step does to storage where `pair` was installed last. -/
structure StorageStep (host : Host κ σ φ) (m : Moment κ σ φ) (pair : Pair) : Prop where
  routed : ∀ t ∈ m.transfers, t.pair = pair.name
  live : (m.step host).world.allocator.live + m.transfers.countP (·.isReturned) =
    m.world.allocator.live + m.transfers.countP (·.isServed)
  replaced : ∀ next, m.control = .perform (.service (.install next)) →
    (m.step host).control = .reply (.ok (.name pair.name))
  null : m.control = .perform (.service (.freeObject none)) ∨
      m.control = .perform (.service (.freeBlock none)) →
    m.transfers = [] ∧ m.step host = { m with control := .reply (.ok .unit) }

theorem storageStep {history : List Transfer} (h : m.world.Tallies history) :
    m.StorageStep host m.world.allocator.installed where
  routed t ht := by
    obtain ⟨w, s, stack, control⟩ := m
    cases control with
    | ended | reply => cases ht
    | perform request =>
      simp only [transfers, Request.transfer, Option.mem_toList] at ht
      split at ht
      · cases ht
        rfl
      · obtain ⟨-, ht⟩ := Option.ite_none_right_eq_some.1 ht
        cases ht
        rfl
  live := by
    have htotal := h.total
    have hbalance := h.balance
    have htotal' := (tallies_step host h).total
    have hbalance' := (tallies_step host h).balance
    rw [List.countP_append] at htotal' hbalance'
    omega
  replaced next hnext := by rw [step_perform host hnext]; rfl
  null hnull := by
    rcases hnull with hnull | hnull
    · exact ⟨by simp only [transfers, hnull]; rfl, step_of_done hnull rfl⟩
    · exact ⟨by simp only [transfers, hnull]; rfl, step_of_done hnull rfl⟩

theorem tallies_run (host : Host κ σ φ) {w : World κ} (hw : w.Fresh) {first : Pair}
    (hfirst : w.allocator = { installed := first }) (s : σ) (mv : Move κ φ) (n : Nat) :
    ((start w s mv).run host n).world.Tallies ((start w s mv).trace host transfers n) := by
  induction n with
  | zero =>
    rw [run_zero, trace_zero, world_start]
    exact .of_fresh hw hfirst
  | succ n ih =>
    rw [run_succ, trace_succ]
    exact tallies_step host ih

theorem installed_run (m : Moment κ σ φ) (n : Nat) : (m.run host n).world.allocator.installed =
    (m.trace host installs n).getLastD m.world.allocator.installed := by
  induction n with
  | zero => rfl
  | succ n ih =>
    rw [run_succ, trace_succ, installed_step, ih]
    simp only [List.getLastD_eq_getLast?, List.getLast?_append]
    cases List.getLast? _ <;> rfl

/-- **Storage is conserved.**  At every moment of every run the counters, the storage on record and
the traffic of the pairs come to what the pairs were asked and got back so far; and what happens
next goes to the pair that was installed last, whichever pair the storage came from. -/
theorem storage_conserved (host : Host κ σ φ) {w : World κ} (hw : w.Fresh) {first : Pair}
    (hfirst : w.allocator = { installed := first }) (s : σ) (mv : Move κ φ) (n : Nat) :
    ((start w s mv).run host n).world.Conserves ((start w s mv).trace host transfers n) first
        ((start w s mv).trace host installs n) ∧
      ((start w s mv).run host n).StorageStep host
        (((start w s mv).trace host installs n).getLastD first) := by
  have hinstalled := installed_run host (start w s mv) n
  rw [world_start, hfirst] at hinstalled
  have h := (tallies_run host hw hfirst s mv n).conserves hinstalled
  refine ⟨h, ?_⟩
  rw [← h.installed]
  exact storageStep host h.toTallies

/-- A pair that refuses every request. -/
def refusing : Pair := ⟨"refusing", fun _ _ => false⟩

/-- A client that gives storage back to another pair than it came from. -/
def swapPairs : Procedure Unit Unit Answer :=
  .ask (.service (.allocate 8)) fun _ =>
  .ask (.service (.install refusing)) fun _ =>
  .ask (.service (.createFunction ())) fun _ =>
  .ask (.service (.freeBlock (some 0))) fun _ =>
  .ask (.service (.install .system)) fun _ =>
  .done (.ok none)

/-- Code that asks for nothing. -/
def idleHost : Host Unit Unit (Procedure.Waiting Unit Unit) :=
  Procedure.toHost fun _ => .done (.ok none)

theorem storage_conserved_swapPairs :
    World.Fresh ({} : World Unit) ∧
      ({} : World Unit).allocator = { installed := .system } ∧
      ((start {} () (swapPairs.toMove ()).2).run idleHost 8).world.Conserves
        [⟨"system", .served⟩, ⟨"refusing", .refused⟩, ⟨"refusing", .returned⟩] .system
          [refusing] ∧
      ((start {} () (swapPairs.toMove ()).2).run idleHost 9).control =
        .reply (.ok (.name "refusing")) := by
  have hw : World.Fresh ({} : World Unit) := ⟨rfl, rfl, rfl, rfl⟩
  obtain ⟨hconserves, hstep⟩ :=
    storage_conserved idleHost hw (rfl : ({} : World Unit).allocator = { installed := .system }) ()
      (swapPairs.toMove ()).2 8
  refine ⟨hw, rfl, hconserves, ?_⟩
  rw [run_succ]
  exact hstep.replaced .system rfl

end Moment

end ObjectRuntime
