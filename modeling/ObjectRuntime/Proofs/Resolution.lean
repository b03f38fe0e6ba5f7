import ObjectRuntime.Procedure
import ObjectRuntime.Proofs.Resolution.Chain
/-!
# When resolution stops

Without a cap an application finds a direct slot, or fails, exactly if no kind occurs twice along
its chain of call members, which is then `Simple`, and after no more hops than there are kinds.  A
cap that is at least the number of kinds stops only what would never stop.
-/

namespace ObjectRuntime

variable {κ : Type}

/-- Whether an object of this kind has its call member looked up when it is applied: the kind is
registered and has no direct slot. -/
def Registry.consults (g : Registry κ) (kind : KindId) : Bool :=
  (g.kinds.get? kind).any (!·.apply.isDirect)

/-- `resolve`, with how many call members it looks up. -/
def resolveCounting (heap : Heap κ) (g : Registry κ) (budget : Nat) (r : Ref) (hops : Nat) :
    Resolution κ × Nat :=
  match heap.live? r with
  | none => (.fault, 0)
  | some cell =>
    let lookups := if g.consults cell.kind then 1 else 0
    match g.hop cell.kind with
    | .land target => (.land r cell.kind target hops, lookups)
    | .fail e => (.fail e, lookups)
    | .via next =>
      match budget with
      | 0 => (.exhausted, lookups)
      | budget + 1 =>
        let (result, more) := resolveCounting heap g budget next (hops + 1)
        (result, lookups + more)

theorem fst_resolveCounting (heap : Heap κ) (g : Registry κ) (budget : Nat) (r : Ref)
    (hops : Nat) : (resolveCounting heap g budget r hops).1 = resolve heap g budget r hops := by
  induction budget generalizing r hops with
  | zero =>
    rw [resolveCounting, resolve]
    cases heap.live? r with
    | none => rfl
    | some c =>
      dsimp only
      cases g.hop c.kind <;> rfl
  | succ budget ih =>
    rw [resolveCounting, resolve]
    cases heap.live? r with
    | none => rfl
    | some c =>
      dsimp only
      cases g.hop c.kind with
      | land target => rfl
      | fail e => rfl
      | via next => exact ih next (hops + 1)

/-- `resolveCounting` makes one look-up for each hop of its budget, and another where it finds the
budget used up. -/
theorem snd_resolveCounting_le (heap : Heap κ) (g : Registry κ) (budget : Nat) (r : Ref)
    (hops : Nat) : (resolveCounting heap g budget r hops).2 ≤ budget + 1 := by
  have hone : ∀ kind, (if g.consults kind then 1 else 0) ≤ 1 := fun kind => by
    split <;> omega
  induction budget generalizing r hops with
  | zero =>
    rw [resolveCounting]
    cases heap.live? r with
    | none => exact Nat.zero_le _
    | some c =>
      dsimp only
      cases g.hop c.kind <;> exact hone _
  | succ budget ih =>
    rw [resolveCounting]
    cases heap.live? r with
    | none => exact Nat.zero_le _
    | some c =>
      have hc := hone c.kind
      dsimp only
      cases g.hop c.kind with
      | land target => exact Nat.le_trans hc (by omega)
      | fail e => exact Nat.le_trans hc (by omega)
      | via next =>
        have hnext := ih next (hops + 1)
        dsimp only
        omega

namespace World

variable {w : World κ} {i : RuntimeId} {g : Registry κ} {r : Ref} {args : List Pointer}

theorem enterNative_ne (code : κ) (receiver : Ref) (args : List Pointer) :
    (∀ d, enterNative code receiver args ≠ .done (.error (.callDepthExceeded d))) ∧
      enterNative code receiver args ≠ .halt .endless := by
  unfold enterNative
  split <;> simp

theorem start_ne (w : World κ) (i : RuntimeId) (target : Callable κ) (receiver : Ref)
    (args : List Pointer) :
    (∀ d, w.start i target receiver args ≠ .done (.error (.callDepthExceeded d))) ∧
      w.start i target receiver args ≠ .halt .endless := by
  unfold start
  split
  · simp
  · exact enterNative_ne _ _ _
  · split
    · exact enterNative_ne _ _ _
    · simp

end World

theorem Registry.hop_ne_exceeded (g : Registry κ) (kind : KindId) (d : UInt64) :
    g.hop kind ≠ .fail (.callDepthExceeded d) := by
  unfold hop find
  split
  next e he =>
    split at he
    · cases he
    · cases he
      simp
  · split
    · simp
    · split <;> simp

theorem resolve_ne_exceeded (heap : Heap κ) (g : Registry κ) (budget : Nat) (r : Ref)
    (hops : Nat) (d : UInt64) : resolve heap g budget r hops ≠ .fail (.callDepthExceeded d) := by
  induction budget generalizing r hops with
  | zero =>
    rw [resolve]
    split
    · simp
    · split
      · simp
      next e he => rintro ⟨rfl⟩; exact g.hop_ne_exceeded _ _ he
      · simp
  | succ budget ih =>
    rw [resolve]
    split
    · simp
    · split
      · simp
      next e he => rintro ⟨rfl⟩; exact g.hop_ne_exceeded _ _ he
      · exact ih _ _

/-- What a resolution may come to at an object that is so many hops from the callee: the direct
slot of its kind, or an error of its kind, unless its storage was given back. -/
def Resolution.StopsAt (heap : Heap κ) (g : Registry κ) (o : Ref) (hops : Nat) :
    Resolution κ → Prop
  | .land receiver kind target n =>
    receiver = o ∧ n = hops ∧ (heap.live? o).map (·.kind) = some kind ∧
      g.apply kind = .ok (.direct target)
  | .fail e => ∃ c, heap.live? o = some c ∧ g.hop c.kind = .fail e
  | .exhausted => False
  | .fault => heap.live? o = none

theorem Registry.apply_of_hop {g : Registry κ} {kind : KindId} {target : Callable κ}
    (h : g.hop kind = .land target) : g.apply kind = .ok (.direct target) := by
  unfold hop at h
  unfold apply
  cases hd : g.find kind with
  | error e => simp [hd] at h
  | ok d =>
    rw [hd] at h
    dsimp only at h
    split at h
    next ha =>
      cases h
      simp [Except.map, ha]
    · split at h <;> cases h

theorem Registry.hop_eq_land_iff {g : Registry κ} {kind : KindId} {target : Callable κ} :
    g.hop kind = .land target ↔ g.apply kind = .ok (.direct target) := by
  refine ⟨apply_of_hop, fun h => ?_⟩
  unfold apply at h
  unfold hop
  cases hd : g.find kind with
  | error e =>
    rw [hd] at h
    cases h
  | ok d =>
    rw [hd] at h
    simp only [Except.ok.inj h]

theorem Chain.Ends.stopsAt {heap : Heap κ} {g : Registry κ} {r o : Ref} {hops budget : Nat}
    (h : Chain.Ends heap g r hops o) (hb : hops ≤ budget) :
    (resolve heap g budget r 0).StopsAt heap g o hops := by
  rw [resolve_of_ends h hb, Nat.zero_add, resolve]
  cases hc : heap.live? o with
  | none => exact hc
  | some c =>
    dsimp only
    cases hhop : g.hop c.kind with
    | land target => exact ⟨rfl, rfl, by rw [hc]; rfl, Registry.apply_of_hop hhop⟩
    | fail e => exact ⟨c, hc, hhop⟩
    | via next =>
      have hlast := h.standIn?_eq_none hc
      rw [Registry.hop_eq_via_iff.1 hhop] at hlast
      cases hlast

namespace World

variable {w : World κ} {i : RuntimeId} {g : Registry κ} {r : Ref} {args : List Pointer}

theorem apply_eq_iff_exhausted {rt : Runtime κ} {ending : Turn κ}
    (hending : ending = .halt .endless ∨ ∃ d, ending = .done (.error (.callDepthExceeded d))) :
    (w.apply i rt (some r) args).2 = ending ↔
      resolve w.heap rt.registry rt.hopBudget r 0 = .exhausted ∧ rt.exhausted = ending := by
  unfold apply
  dsimp only
  cases hres : resolve w.heap rt.registry rt.hopBudget r 0 with
  | land receiver kind target hops =>
    have hstart := (w.emit (.apply kind args.length hops)).start_ne i target receiver args
    refine iff_of_false ?_ (by simp)
    rcases hending with rfl | ⟨d, rfl⟩
    · exact hstart.2
    · exact hstart.1 d
  | fail e =>
    refine iff_of_false ?_ (by simp)
    rcases hending with rfl | ⟨d, rfl⟩
    · simp
    · rintro ⟨rfl⟩
      exact resolve_ne_exceeded _ _ _ _ _ _ hres
  | exhausted => simp
  | fault =>
    refine iff_of_false ?_ (by simp)
    rcases hending with rfl | ⟨d, rfl⟩ <;> simp

end World

theorem Chain.endless_iff_exhausted {heap : Heap κ} {g : Registry κ} {r : Ref} :
    Chain.Endless heap g r ↔ ∀ budget, resolve heap g budget r 0 = .exhausted :=
  ⟨fun h _ => resolve_eq_exhausted_iff.2 (h _), fun h n => by
    cases n with
    | zero => rfl
    | succ n => exact resolve_eq_exhausted_iff.1 (h n)⟩

theorem Chain.endless_iff_exhausted_of_size_le {heap : Heap κ} {g : Registry κ} {r : Ref}
    {budget : Nat} (hb : g.size ≤ budget) :
    Chain.Endless heap g r ↔ resolve heap g budget r 0 = .exhausted :=
  (Chain.endless_iff_isSome hb).trans resolve_eq_exhausted_iff.symm

/-- **Applications end exactly where no kind occurs twice.**  Resolution without a cap stops, at a
direct slot or an error, if and only if no kind occurs twice along the chain of call members, and
then it takes no more hops than there are kinds; otherwise the application never ends.  With a cap
it always stops, after at most one look-up more than the cap allows hops, and a cap that is at
least the number of kinds stops nothing but the applications that would never end. -/
theorem apply_ends_iff_simple (w : World κ) (i : RuntimeId) (g : Registry κ) (r : Ref)
    (args : List Pointer) :
    ((∃ hops o, Chain.Ends w.heap g r hops o ∧
          ∀ budget ≥ hops, (resolve w.heap g budget r 0).StopsAt w.heap g o hops) ↔
        Chain.Simple w.heap g r) ∧
      (∀ hops o, Chain.Ends w.heap g r hops o → hops ≤ g.size) ∧
      ((w.apply i ⟨g, none⟩ (some r) args).2 = .halt .endless ↔ ¬ Chain.Simple w.heap g r) ∧
      (∀ cap : UInt64,
        (resolveCounting w.heap g cap.toNat r 0).1 =
            resolve w.heap g (Runtime.hopBudget ⟨g, some cap⟩) r 0 ∧
          (resolveCounting w.heap g cap.toNat r 0).2 ≤ cap.toNat + 1 ∧
          (w.apply i ⟨g, some cap⟩ (some r) args).2 ≠ .halt .endless) ∧
      ∀ cap : UInt64, g.size ≤ cap.toNat →
        ((w.apply i ⟨g, some cap⟩ (some r) args).2 = .done (.error (.callDepthExceeded cap)) ↔
          ∀ budget, resolve w.heap g budget r 0 = .exhausted) := by
  have hsimple : Chain.Endless w.heap g r ↔ ¬ Chain.Simple w.heap g r := by
    rw [← Chain.ends_iff_simple]
    exact ⟨fun h ⟨n, o, hends⟩ => hends.not_endless h,
      fun h => (Chain.ends_or_endless w.heap g r).resolve_left h⟩
  refine ⟨⟨?_, ?_⟩, fun hops o h => h.le_size, ?_, fun cap => ⟨?_, ?_, ?_⟩, fun cap hcap => ?_⟩
  · rintro ⟨hops, o, h, -⟩
    exact Chain.ends_iff_simple.1 ⟨hops, o, h⟩
  · intro h
    obtain ⟨hops, o, hends⟩ := Chain.ends_iff_simple.2 h
    exact ⟨hops, o, hends, fun budget hb => hends.stopsAt hb⟩
  · rw [World.apply_eq_iff_exhausted (.inl rfl), and_iff_left (by rfl), ← hsimple]
    exact (Chain.endless_iff_exhausted_of_size_le (Nat.le_refl _)).symm
  · exact fst_resolveCounting _ _ _ _ _
  · exact snd_resolveCounting_le _ _ _ _ _
  · rw [Ne, World.apply_eq_iff_exhausted (.inl rfl)]
    rintro ⟨-, ⟨⟩⟩
  · rw [World.apply_eq_iff_exhausted (.inr ⟨cap, rfl⟩), and_iff_left (by rfl),
      ← Chain.endless_iff_exhausted]
    exact (Chain.endless_iff_exhausted_of_size_le hcap).symm

/-- A client that makes an object the call member of its own kind. -/
def tieKnot : Procedure Unit Unit Answer :=
  .ask (.service (.startRuntime none)) fun _ =>
  .ask (.on 0 (.register 10)) fun _ =>
  .ask (.on 0 (.newObject 10 0)) fun _ =>
  .ask (.on 0 (.setMember 10 callMember (some (.object 0)))) fun _ =>
  .done (.ok none)

/-- What is left when the client is done. -/
def knot : World Unit :=
  ((Moment.start {} () (tieKnot.toMove ()).2).run (Procedure.toHost fun _ => tieKnot) 8).world

theorem apply_ends_iff_simple_knot :
    ∃ g, knot.runtimes[0]? = some ⟨g, none⟩ ∧ g.size ≤ (3 : UInt64).toNat ∧
      (knot.apply 0 ⟨g, some 3⟩ (some (.object 0)) []).2 =
        .done (.error (.callDepthExceeded 3)) ∧
      ∀ budget, resolve knot.heap g budget (.object 0) 0 = .exhausted := by
  refine ⟨_, rfl, by decide, rfl, ?_⟩
  exact ((apply_ends_iff_simple knot 0 _ (.object 0) []).2.2.2.2 3 (by decide)).1 rfl

end ObjectRuntime
