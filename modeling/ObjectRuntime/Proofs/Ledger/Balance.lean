import ObjectRuntime.Procedure
import ObjectRuntime.Proofs.Ledger.Outcome
/-!
# Counts balance with the ledger

As long as nobody writes into a header, the count of every object in use is 1 more than the
references to it that were taken, less those that were given back, at every moment of every run
(`Ledger.Balances`).
-/

namespace ObjectRuntime

variable {κ σ φ : Type}

/-- The counts of the objects in use are what a ledger says, which has nothing about objects that
are not there yet. -/
structure Ledger.Balances (l : Ledger) (h : Heap κ) : Prop where
  absent : ∀ r, h.cell? r = none → l.net r = 0
  live : ∀ r c, h.live? r = some c → c.count = 1 + l.net r

namespace Ledger

theorem net_singleton (cause : Cause) (r r' : Ref) :
    net [⟨cause, r⟩] r' = if r = r' then cause.change else 0 := by
  rw [net_cons, net_nil, Int.zero_add]

namespace Balances

variable {l : Ledger} {h h' : Heap κ}

theorem empty : Balances [] (∅ : Heap κ) :=
  ⟨fun _ _ => rfl, fun r c hc => by simp [Heap.live?] at hc⟩

theorem congr (hl : l.Balances h) (hcell : ∀ r, h'.cell? r = h.cell? r) : l.Balances h' := by
  refine ⟨fun r hr => hl.absent r (hcell r ▸ hr), fun r c hc => hl.live r c ?_⟩
  rwa [Heap.live?, ← hcell]

theorem addCount (hl : l.Balances h) {r : Ref} {c : Cell κ} (hc : h.live? r = some c)
    {cause : Cause} {d : Int} (hd : cause.change = d) :
    Balances (l ++ [⟨cause, r⟩]) (h.addCount r d) := by
  obtain ⟨hcell, -⟩ := Heap.live?_eq_some_iff.1 hc
  refine ⟨fun r' hr' => ?_, fun r' c' hc' => ?_⟩
  · rw [Heap.cell?_addCount] at hr'
    by_cases hr : r' = r
    · rw [if_pos hr, hr, hcell] at hr'
      cases hr'
    · rw [if_neg hr] at hr'
      rw [net_append, net_singleton, if_neg (Ne.symm hr), hl.absent r' hr']
      rfl
  · obtain ⟨hcell', hlive'⟩ := Heap.live?_eq_some_iff.1 hc'
    rw [Heap.cell?_addCount] at hcell'
    rw [net_append, net_singleton]
    by_cases hr : r' = r
    · rw [if_pos hr, hr, hcell] at hcell'
      cases hcell'
      have := hl.live r c hc
      rw [if_pos hr.symm, hr, hd]
      dsimp only
      omega
    · rw [if_neg hr] at hcell'
      have := hl.live r' c' (Heap.live?_eq_some_iff.2 ⟨hcell', hlive'⟩)
      rw [if_neg (Ne.symm hr)]
      omega

theorem release (hl : l.Balances h) (r : Ref) : l.Balances (h.release (.object r)) := by
  refine ⟨fun r' hr' => hl.absent r' ?_, fun r' c hc => hl.live r' c ?_⟩
  · rw [Heap.cell?_release_object] at hr'
    split at hr' <;> simpa using hr'
  · obtain ⟨hcell, hlive⟩ := Heap.live?_eq_some_iff.1 hc
    rw [Heap.cell?_release_object] at hcell
    split at hcell
    · obtain ⟨c', -, rfl⟩ := Option.map_eq_some_iff.1 hcell
      cases hlive
    · exact Heap.live?_eq_some_iff.2 ⟨hcell, hlive⟩

theorem new (hl : l.Balances h) {r : Ref} {c : Cell κ} (hr : h.cell? r = none)
    (hone : c.count = 1) (hcell : ∀ r', h'.cell? r' = if r' = r then some c else h.cell? r') :
    l.Balances h' := by
  refine ⟨fun r' hr' => hl.absent r' ?_, fun r' c' hc' => ?_⟩
  · rw [hcell] at hr'
    split at hr'
    · cases hr'
    · exact hr'
  · obtain ⟨hcell', hlive'⟩ := Heap.live?_eq_some_iff.1 hc'
    rw [hcell] at hcell'
    split at hcell'
    next h' =>
      cases hcell'
      rw [h', hl.absent r hr, hone]
      rfl
    · exact hl.live r' c' (Heap.live?_eq_some_iff.2 ⟨hcell', hlive'⟩)

theorem update (hl : l.Balances h) (r : Ref) {f : Cell κ → Cell κ}
    (hf : ∀ c, (f c).count = c.count ∧ (f c).released = c.released) :
    l.Balances (h.update r f) := by
  refine ⟨fun r' hr' => hl.absent r' ?_, fun r' c hc => ?_⟩
  · rw [Heap.cell?_update] at hr'
    split at hr' <;> simpa using hr'
  · obtain ⟨hcell, hlive⟩ := Heap.live?_eq_some_iff.1 hc
    rw [Heap.cell?_update] at hcell
    split at hcell
    · obtain ⟨c', hc', rfl⟩ := Option.map_eq_some_iff.1 hcell
      rw [(hf c').1]
      exact hl.live r' c' (Heap.live?_eq_some_iff.2 ⟨hc', (hf c').2 ▸ hlive⟩)
    · exact hl.live r' c (Heap.live?_eq_some_iff.2 ⟨hcell, hlive⟩)

theorem perform {w w' : World κ} {request : Request κ} {turn : Turn κ}
    (hl : l.Balances w.heap) (hout : Outcome w request w' turn) {back : Cause}
    (hback : back.change = -1) (hset : ∀ r n, request ≠ .service (.setCount r n)) :
    Balances (l ++ request.entries w back turn) w'.heap := by
  cases hout with
  | plain hnils hobjects hruntimes hentries hturn =>
    rw [hentries, List.append_nil]
    exact hl.congr fun r => by cases r <;> simp [Heap.cell?, hnils, hobjects]
  | configured rt g hrt hmembers hheap hruntimes hentries =>
    rw [hentries, List.append_nil, hheap]
    exact hl
  | bound rt g replaced c hrt hg hc hheap hruntimes =>
    rw [hheap]
    exact hl.addCount hc rfl
  | unbound rt g replaced hrt hg hdead hheap hruntimes =>
    rw [hheap]
    exact (List.append_nil l).symm ▸ hl
  | taken cause r c hcause hreach hc hheap hruntimes hentries =>
    rw [hentries, hheap]
    exact hl.addCount hc (by cases cause <;> first | rfl | cases hcause)
  | method r c hreach hc hheap hruntimes =>
    rw [hheap]
    exact hl.addCount hc rfl
  | released c hc hheap hruntimes =>
    rw [hheap]
    exact hl.addCount hc hback
  | reclaimed c hc hone hheap hruntimes =>
    rw [hheap]
    exact (hl.addCount hc hback).release _
  | destroying c hc hone hrole hreceiver hheap hruntimes =>
    rw [hheap]
    exact hl.addCount hc hback
  | made c hone hlive hheap hruntimes hentries =>
    rw [hentries, List.append_nil, hheap]
    exact hl.new w.heap.cell?_nextObject hone (w.heap.cell?_addObject c)
  | started cap hheap hruntimes hentries hturn =>
    rw [hentries, List.append_nil, hheap]
    exact hl.new w.heap.cell?_nextNil rfl (w.heap.cell?_addNil _)
  | freed c hc hheap hruntimes =>
    rw [hheap]
    exact (List.append_nil l).symm ▸ hl.release _
  | recounted c hc hheap hruntimes => exact absurd rfl (hset _ _)
  | written c hc hheap hruntimes =>
    rw [hheap]
    exact (List.append_nil l).symm ▸ hl.update _ fun _ => ⟨rfl, rfl⟩

end Balances

end Ledger

/-- Whether a count is about to be written into a header. -/
def Control.writesCount : Control κ → Bool
  | .perform (.service (.setCount _ _)) => true
  | _ => false

namespace Moment

variable {host : Host κ σ φ} {m : Moment κ σ φ}

theorem releaseCause_change (m : Moment κ σ φ) : m.releaseCause.change = -1 := by
  unfold releaseCause
  split <;> rfl

theorem balances_step {l : Ledger} (hl : l.Balances m.world.heap)
    (hm : m.control.writesCount = false) :
    Ledger.Balances (l ++ m.entries) (m.step host).world.heap := by
  rw [world_step]
  cases hc : m.control with
  | perform request =>
    simp only [entries, hc]
    refine hl.perform (m.world.perform_outcome request) m.releaseCause_change fun r n h => ?_
    rw [hc, h] at hm
    cases hm
  | ended ending =>
    simp only [entries, hc, List.append_nil]
    exact hl
  | reply reply =>
    -- Nothing is entered here: what waits for the reply makes requests of its own.
    simp only [entries, hc, List.append_nil]
    split
    · contradiction
    · rwa [(m.world.resume_frame _ _).1]
    · exact hl

theorem balances_run (hm : Ledger.Balances [] m.world.heap) (n : Nat)
    (hset : ∀ k < n, (m.run host k).control.writesCount = false) :
    (m.ledger host n).Balances (m.run host n).world.heap := by
  -- Ledger and run grow at their ends together, so that the last step is the one to look at.
  induction n with
  | zero => exact hm
  | succ n ih =>
    rw [ledger_succ, run_succ]
    exact balances_step (ih fun k hk => hset k (by omega)) (hset n (by omega))

theorem balances_start (host : Host κ σ φ) {w : World κ} (hw : w.Fresh) (s : σ)
    (first : Move κ φ) (n : Nat)
    (hset : ∀ k < n, ((start w s first).run host k).control.writesCount = false) :
    ((start w s first).ledger host n).Balances ((start w s first).run host n).world.heap := by
  refine balances_run ?_ n hset
  rw [world_start, hw.heap]
  exact Ledger.Balances.empty

/-- **The count of an object is 1 more than the references taken, less those given back.**  This
holds at every moment of every run, also inside host code and after failed operations. -/
theorem count_eq_ledger (host : Host κ σ φ) (w : World κ) (hw : w.Fresh) (s : σ)
    (first : Move κ φ) (n : Nat)
    (hset : ∀ k < n, ((start w s first).run host k).control.writesCount = false)
    (r : Ref) (c : Cell κ)
    (hc : ((start w s first).run host n).world.heap.live? r = some c) :
    c.count = 1 + ((start w s first).ledger host n).taken r -
      ((start w s first).ledger host n).given r := by
  have hcount := (balances_start host hw s first n hset).live r c hc
  rw [Ledger.net_eq] at hcount
  omega

/-- A client that binds an object as a method of its own and calls it. -/
def selfCall : Procedure Unit Unit Answer :=
  .ask (.service (.startRuntime (some 1))) fun _ =>
  .ask (.on 0 (.register 10)) fun _ =>
  .ask (.on 0 (.setApply 10 (.direct (.native (.host ()))))) fun _ =>
  .ask (.on 0 (.newObject 10 0)) fun _ =>
  .ask (.on 0 (.setMember 10 "self" (some (.object 0)))) fun _ =>
  .ask (.on 0 (.methodCall (some (.object 0)) "self" [])) fun _ =>
  .done (.ok none)

/-- The method takes a reference to the object. -/
def selfCallHost : Host Unit Unit (Procedure.Waiting Unit Unit) :=
  Procedure.toHost fun _ => .ask (.on 0 (.retain (some (.object 0)))) fun _ => .done (.ok none)

theorem count_eq_ledger_selfCall :
    World.Fresh ({} : World Unit) ∧
      (∀ k < 14, ((start {} () (selfCall.toMove ()).2).run selfCallHost k).control.writesCount =
        false) ∧
      ∃ c, ((start {} () (selfCall.toMove ()).2).run selfCallHost 14).world.heap.live?
          (.object 0) = some c ∧ c.count = 4 ∧
        c.count = 1 + ((start {} () (selfCall.toMove ()).2).ledger selfCallHost 14).taken
            (.object 0) -
          ((start {} () (selfCall.toMove ()).2).ledger selfCallHost 14).given (.object 0) := by
  have hw : World.Fresh ({} : World Unit) := ⟨rfl, rfl, rfl, rfl⟩
  have hset : ∀ k < 14,
      ((start {} () (selfCall.toMove ()).2).run selfCallHost k).control.writesCount = false := by
    decide
  exact ⟨hw, hset, ⟨10, .payload #[], 4, false⟩, rfl, rfl,
    count_eq_ledger selfCallHost {} hw () _ 14 hset _ _ rfl⟩

end Moment

end ObjectRuntime
