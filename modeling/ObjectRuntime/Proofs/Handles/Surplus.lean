import ObjectRuntime.Proofs.Ledger.Counts
import ObjectRuntime.Proofs.Undisturbed
/-!
# Counts and the handles held

How much larger the count of an object is than the number of handles that are held for it, and what
the operations on handles do to that difference.  Where handles are `Covered`, the `surplus` of an
object in use is not negative, and a handle can be dropped (`Covered.drop`).
-/

namespace ObjectRuntime

variable {κ : Type}

namespace World

/-- How many handles are held for an object. -/
def holders (w : World κ) (r : Ref) : Nat :=
  w.handles.countP fun h => h.held && r == h.object

/-- How much larger the count of an object is than the number of handles held for it, for an object
on record. -/
def surplus (w : World κ) (r : Ref) : Option Int :=
  (w.heap.cell? r).map fun c => c.count - w.holders r

/-- Every object in use has a reference for each handle that is held for it, and there are no
handles for other objects. -/
structure Covered (w : World κ) : Prop where
  enough : ∀ r c, w.heap.live? r = some c → (w.holders r : Int) ≤ c.count
  inUse : ∀ r, 0 < w.holders r → ∃ c, w.heap.live? r = some c

variable {w v : World κ}

theorem holders_congr (h : v.handles = w.handles) (r : Ref) : v.holders r = w.holders r := by
  rw [holders, h, holders]

theorem holders_addHandle (w : World κ) (o : Ref) (i : RuntimeId) (r : Ref) :
    (w.addHandle o i).1.holders r = w.holders r + if r = o then 1 else 0 := by
  simp [holders, addHandle, Array.countP_push]

theorem handle?_eq_some_iff {h : HandleId} {handle : Handle} :
    w.handle? h = some handle ↔ w.handles[h]? = some handle ∧ handle.held = true := by
  simp [handle?, Option.filter_eq_some_iff]

theorem holders_endHandle {h : HandleId} {handle : Handle} (hh : w.handle? h = some handle)
    (r : Ref) :
    (w.endHandle h).holders r + (if r = handle.object then 1 else 0) = w.holders r := by
  obtain ⟨hh, hheld⟩ := handle?_eq_some_iff.1 hh
  have hcount := countP_modify (fun h : Handle => h.held && r == h.object) hh
    fun handle => { handle with held := false }
  simpa [holders, endHandle, hheld, toNat_eq_ite] using hcount

/-! ## The difference -/

theorem surplus_congr (hheap : v.heap = w.heap) (hhandles : v.handles = w.handles) (r : Ref) :
    v.surplus r = w.surplus r := by
  rw [surplus, surplus, hheap, holders_congr hhandles]

theorem surplus_addHandle (w : World κ) (o : Ref) (i : RuntimeId) (r : Ref) :
    (w.addHandle o i).1.surplus r = (w.surplus r).map (· - if r = o then 1 else 0) := by
  rw [surplus, surplus, holders_addHandle, Option.map_map]
  refine congrArg (Option.map · _) (funext fun c => ?_)
  simp only [Function.comp_apply]
  split <;> omega

theorem surplus_endHandle {h : HandleId} {handle : Handle} (hh : w.handle? h = some handle)
    (r : Ref) :
    (w.endHandle h).surplus r = (w.surplus r).map (· + if r = handle.object then 1 else 0) := by
  have hholders := holders_endHandle hh r
  rw [surplus, surplus, Option.map_map]
  refine congrArg (Option.map · _) (funext fun c => ?_)
  simp only [Function.comp_apply]
  split at hholders
  next hr =>
    rw [if_pos hr]
    omega
  next hr =>
    rw [if_neg hr]
    omega

theorem surplus_addCount (w : World κ) (o : Ref) (d : Int) (r : Ref) :
    ({ w with heap := w.heap.addCount o d } : World κ).surplus r =
      (w.surplus r).map (· + if r = o then d else 0) := by
  have hholders := holders_congr (v := { w with heap := w.heap.addCount o d }) (w := w) rfl r
  rw [surplus, surplus, Heap.cell?_addCount, hholders]
  split
  · rw [Option.map_map, Option.map_map]
    refine congrArg (Option.map · _) (funext fun c => ?_)
    simp only [Function.comp_apply]
    omega
  · cases w.heap.cell? r <;> simp

theorem surplus_release (w : World κ) (a : Address) (r : Ref) :
    ({ w with heap := w.heap.release a } : World κ).surplus r = w.surplus r := by
  have hholders := holders_congr (v := { w with heap := w.heap.release a }) (w := w) rfl r
  rw [surplus, surplus, hholders]
  cases a with
  | block b => rw [Heap.cell?_release_block]
  | object o =>
    rw [Heap.cell?_release_object]
    split
    · cases w.heap.cell? r <;> rfl
    · rfl

theorem surplus_retain_addHandle (w : World κ) (o : Ref) (i : RuntimeId) (r : Ref) :
    (({ w with heap := w.heap.addCount o 1 } : World κ).addHandle o i).1.surplus r =
      w.surplus r := by
  rw [surplus_addHandle, surplus_addCount, Option.map_map]
  cases w.surplus r with
  | none => rfl
  | some n => exact congrArg some (by dsimp only [Function.comp_apply]; split <;> omega)

theorem surplus_endHandle_release {h : HandleId} {handle : Handle} (hh : w.handle? h = some handle)
    (r : Ref) :
    ({ w.endHandle h with heap := w.heap.addCount handle.object (-1) } : World κ).surplus r =
      w.surplus r := by
  have hcount := (w.endHandle h).surplus_addCount handle.object (-1) r
  rw [surplus_endHandle hh, Option.map_map] at hcount
  refine hcount.trans ?_
  cases w.surplus r with
  | none => rfl
  | some n => exact congrArg some (by dsimp only [Function.comp_apply]; split <;> omega)

/-- Whatever else the release does: what it takes is the reference of the handle. -/
theorem surplus_drop {j : HandleId} {handle : Handle} (hh : w.handle? j = some handle)
    {i : RuntimeId} {rt : Runtime κ} {c : Cell κ} (hc : w.heap.live? handle.object = some c)
    (hhandles : v.handles = (w.endHandle j).handles)
    (hv : v.heap = ((w.endHandle j).release i rt.registry handle.object).1.heap) (r : Ref) :
    v.surplus r = w.surplus r := by
  have hc' : (w.endHandle j).heap.live? handle.object = some c := hc
  have hgiven := surplus_endHandle_release hh r
  let given : World κ := { w.endHandle j with heap := w.heap.addCount handle.object (-1) }
  have hcounted (hheap : v.heap = given.heap) : v.surplus r = w.surplus r :=
    (surplus_congr (w := given) hheap hhandles r).trans hgiven
  rcases release_cases _ i rt.registry _ hc' with ⟨-, hheap | ⟨-, hheap⟩⟩ | ⟨_, -, -, -, -, hheap⟩
  · exact hcounted (hv.trans hheap)
  · let reclaimed : World κ := { given with heap := given.heap.release (.object handle.object) }
    have hsame : v.surplus r = reclaimed.surplus r :=
      surplus_congr (w := reclaimed) (hv.trans hheap) hhandles r
    exact hsame.trans ((given.surplus_release _ r).trans hgiven)
  · exact hcounted (hv.trans hheap)

/-! ## Handles under requests -/

theorem borrow_cases (w : World κ) (i : RuntimeId) (r : Ref) :
    (w.heap.live? r = none ∧ w.borrow i r = (w, .halt .fault)) ∨
      ∃ c, w.heap.live? r = some c ∧ w.borrow i r =
        ((({ w with heap := w.heap.addCount r 1 } : World κ).addHandle r i).1,
          .done (.ok (.handle (some w.handles.size)))) := by
  unfold borrow retain
  cases hc : w.heap.live? r with
  | none => exact .inl ⟨rfl, rfl⟩
  | some c => exact .inr ⟨c, rfl, rfl⟩

theorem perform_lookup_cases (w : World κ) (i : RuntimeId) (r : Ref) (name : String) :
    w.perform (.on i (.lookup (some r) name)) = (w, .halt .fault) ∨
      (∃ e, w.perform (.on i (.lookup (some r) name)) = (w, .done (.error e))) ∨
      ∃ member c journal, w.heap.live? member = some c ∧
        w.perform (.on i (.lookup (some r) name)) =
          ({ w with heap := w.heap.addCount member 1, journal },
            .done (.ok (.object (some member)))) := by
  cases hrt : w.runtimes[i]? with
  | none => exact .inl (perform_on_none hrt _)
  | some rt =>
    rw [perform_on hrt, operate]
    rcases w.lookup_cases rt.registry r name with
      hl | ⟨c, -, ⟨e, -, hl⟩ | ⟨member, w', -, hr, hl⟩⟩
    · exact .inl (by rw [hl]; rfl)
    · exact .inr (.inl ⟨e, by rw [hl]; rfl⟩)
    · obtain ⟨d, hd, rfl⟩ := retain_eq_some_iff.1 hr
      exact .inr (.inr ⟨member, d, _, hd, by rw [hl]; rfl⟩)

@[simp] theorem handles_operate (w : World κ) (i : RuntimeId) (rt : Runtime κ) (op : Operation κ) :
    (w.operate i rt op).1.handles = w.handles :=
  (Undisturbed.operate w i rt op).handles

theorem handles_startRuntime (w : World κ) (cap : DepthCap) :
    (w.startRuntime cap).1.handles = w.handles := by
  obtain ⟨journal, h⟩ := w.startRuntime_eq cap
  rw [h]
  split <;> rfl

theorem handles_sharedRuntime (w : World κ) : w.sharedRuntime.1.handles = w.handles := by
  have hstart := w.handles_startRuntime w.settings.maxCallDepth
  unfold sharedRuntime
  split
  · rfl
  · split <;> simp_all

theorem handles_perform (w : World κ) {request : Request κ}
    (h : ∀ op, request ≠ .handle op) : (w.perform request).1.handles = w.handles := by
  cases hstarts : request.starts w with
  | false => exact (Undisturbed.perform w h hstarts).handles
  | true =>
    have hshared := w.handles_sharedRuntime
    cases request with
    | on | query | handle => cases hstarts
    | foreign call =>
      obtain ⟨journal, hcall⟩ := w.journalAside_call call
      change (w.call call).1.handles = w.handles
      rw [hcall]
      split
      · exact hshared
      · rfl
    | service service =>
      cases service with
      | startRuntime cap => exact w.handles_startRuntime cap
      | sharedRuntime =>
        simp only [perform, serve]
        generalize w.sharedRuntime = started at hshared
        obtain ⟨v, e | i⟩ := started <;> exact hshared
      | _ => cases hstarts

theorem release_ne_countUnderflow {i : RuntimeId} {g : Registry κ} {r : Ref} {c : Cell κ}
    (hc : w.heap.live? r = some c) (hcount : 1 ≤ c.count) (kind : KindId) (n : Int) :
    (w.release i g r).2 ≠ .done (.error (.countUnderflow kind n)) := by
  rcases Int.lt_or_eq_of_le hcount with hmore | hone
  · rw [release_of_one_lt hc hmore]
    simp
  · rw [release_of_eq_one hc hone.symm]
    unfold destroy
    split
    next e he =>
      rintro h
      cases h
      unfold Registry.destructor Registry.find at he
      split at he <;> cases he
    · dsimp only
      split <;> try simp
      split <;> simp

/-! ## References for all handles -/

namespace Covered

/-- What leaves the handles and the objects in use alone, or makes new ones or larger counts, keeps
all handles `Covered`. -/
theorem of_stays (h : w.Covered) (hhandles : v.handles = w.handles)
    (hcount : ∀ r c', v.heap.live? r = some c' → (w.heap.live? r = none ∧ 0 ≤ c'.count) ∨
      ∃ c, w.heap.live? r = some c ∧ c.count ≤ c'.count)
    (hinUse : ∀ r c, w.heap.live? r = some c → ∃ c', v.heap.live? r = some c') : v.Covered where
  enough r c' hc' := by
    rw [holders_congr hhandles]
    rcases hcount r c' hc' with ⟨hnone, hpos⟩ | ⟨c, hc, hle⟩
    · -- No handle is held for what was not in use.
      have hzero : w.holders r = 0 := by
        rcases Nat.eq_zero_or_pos (w.holders r) with hzero | hheld
        · exact hzero
        · obtain ⟨c, hc⟩ := h.inUse r hheld
          cases hnone.symm.trans hc
      omega
    · have := h.enough r c hc
      omega
  inUse r hr := by
    rw [holders_congr hhandles] at hr
    obtain ⟨c, hc⟩ := h.inUse r hr
    exact hinUse r c hc

theorem retain (h : w.Covered) (r : Ref) :
    ({ w with heap := w.heap.addCount r 1 } : World κ).Covered := by
  refine h.of_stays rfl (fun o d' hd' => ?_) fun o d hd => ?_
  · obtain ⟨d, hd, hcount⟩ := Heap.count_of_addCount hd'
    exact .inr ⟨d, hd, by split at hcount <;> omega⟩
  · obtain ⟨d', hd', -⟩ := Heap.live_addCount hd r 1
    exact ⟨d', hd'⟩

theorem addHandle (h : w.Covered) {r : Ref} {c : Cell κ} (hc : w.heap.live? r = some c)
    (hcount : (w.holders r : Int) < c.count) (i : RuntimeId) :
    (w.addHandle r i).1.Covered where
  enough o d hd := by
    have hd : w.heap.live? o = some d := hd
    rw [holders_addHandle]
    split
    next hor =>
      subst hor
      cases hc.symm.trans hd
      omega
    · have := h.enough o d hd
      omega
  inUse o ho := by
    rw [holders_addHandle] at ho
    split at ho
    next hor => exact ⟨c, hor ▸ hc⟩
    · exact h.inUse o ho

theorem endHandle (h : w.Covered) {i : HandleId} {handle : Handle}
    (hh : w.handle? i = some handle) : (w.endHandle i).Covered where
  enough r c hc := by
    have hholders := holders_endHandle hh r
    have := h.enough r c hc
    omega
  inUse r hr := by
    have hholders := holders_endHandle hh r
    exact h.inUse r (by omega)

theorem retain_addHandle (h : w.Covered) {r : Ref} {c : Cell κ} (hc : w.heap.live? r = some c)
    (i : RuntimeId) :
    (({ w with heap := w.heap.addCount r 1 } : World κ).addHandle r i).1.Covered := by
  have hholders : ({ w with heap := w.heap.addCount r 1 } : World κ).holders r = w.holders r :=
    holders_congr rfl r
  have henough := h.enough r c hc
  refine (h.retain r).addHandle (Heap.live?_addCount hc 1) ?_ i
  rw [hholders]
  exact Int.lt_add_one_of_le henough

theorem borrow (h : w.Covered) (i : RuntimeId) (r : Ref) : (w.borrow i r).1.Covered := by
  rcases w.borrow_cases i r with ⟨-, hw⟩ | ⟨c, hc, hw⟩
  · rw [hw]
    exact h
  · rw [hw]
    exact h.retain_addHandle hc i

theorem of_addCount (h : w.Covered) {j : HandleId} {handle : Handle}
    (hh : w.handle? j = some handle) (hhandles : v.handles = (w.endHandle j).handles)
    (hheap : v.heap = w.heap.addCount handle.object (-1)) : v.Covered where
  enough r c' hc' := by
    rw [hheap] at hc'
    obtain ⟨c, hc, hcount⟩ := Heap.count_of_addCount hc'
    have hholders := holders_endHandle hh r
    have henough := h.enough r c hc
    rw [holders_congr hhandles]
    split at hcount <;> split at hholders <;> omega
  inUse r hr := by
    have hholders := holders_endHandle hh r
    rw [holders_congr hhandles] at hr
    obtain ⟨c, hc⟩ := h.inUse r (by omega)
    obtain ⟨c', hc', -⟩ := Heap.live_addCount hc handle.object (-1)
    exact ⟨c', hheap ▸ hc'⟩

theorem of_release (h : w.Covered) {j : HandleId} {handle : Handle} {c : Cell κ}
    (hh : w.handle? j = some handle) (hc : w.heap.live? handle.object = some c)
    (hone : c.count = 1) (hhandles : v.handles = (w.endHandle j).handles)
    (hheap : v.heap = (w.heap.addCount handle.object (-1)).release (.object handle.object)) :
    v.Covered := by
  have hcounted : ({ v with heap := w.heap.addCount handle.object (-1) } : World κ).Covered :=
    h.of_addCount hh hhandles rfl
  have hlast : v.holders handle.object = 0 := by
    have hholders := holders_endHandle hh handle.object
    have henough := h.enough _ c hc
    rw [if_pos rfl] at hholders
    rw [holders_congr hhandles]
    omega
  refine ⟨fun r d hd => ?_, fun r hr => ?_⟩
  · rw [hheap, Heap.live?_release] at hd
    split at hd
    · cases hd
    · exact hcounted.enough r d hd
  · have hne : r ≠ handle.object := fun heq => by rw [heq, hlast] at hr; exact Nat.lt_irrefl 0 hr
    obtain ⟨d, hd⟩ := hcounted.inUse r hr
    exact ⟨d, by rw [hheap, Heap.live?_release, if_neg hne]; exact hd⟩

theorem of_handle (h : w.Covered) {j : HandleId} {handle : Handle}
    (hh : w.handle? j = some handle) :
    ∃ c, w.heap.live? handle.object = some c ∧ 1 ≤ c.count := by
  have hholders := holders_endHandle hh handle.object
  rw [if_pos rfl] at hholders
  obtain ⟨c, hc⟩ := h.inUse handle.object (by omega)
  have henough := h.enough _ c hc
  exact ⟨c, hc, by omega⟩

/-- Every operation on handles keeps them covered, but for one that takes a reference over. -/
theorem operateHandle (h : w.Covered) {op : HandleOperation}
    (hop : ∀ i r, op ≠ .adopt i (some r)) : (w.operateHandle op).1.Covered := by
  cases op with
  | adopt i object =>
    cases object with
    | none => exact h
    | some r => exact absurd rfl (hop i r)
  | borrow i object =>
    cases object with
    | none => exact h
    | some r => exact h.borrow i r
  | nil i => exact h.borrow i _
  | clone j =>
    simp only [World.operateHandle]
    cases w.handle? j with
    | none => exact h
    | some handle => exact h.borrow _ _
  | drop j | intoPointer j =>
    simp only [World.operateHandle]
    cases hh : w.handle? j with
    | none => exact h
    | some handle => exact h.endHandle hh
  | object j | runtime j | lookup j name =>
    simp only [World.operateHandle]
    cases w.handle? j <;> exact h
  | call j args | methodCall j name args =>
    simp only [World.operateHandle]
    cases w.handle? j <;> cases w.handleArgs args <;> exact h

/-- **Dropping a handle takes a reference that is there**: the release finds its object in use and
does not fail for want of a reference, and the handles that are left stay covered. -/
theorem drop (h : w.Covered) {j : HandleId} {handle : Handle} (hh : w.handle? j = some handle)
    (i : RuntimeId) (rt : Runtime κ) :
    ((w.endHandle j).operate i rt (.release (some handle.object))).1.Covered ∧
      ((∃ reply, ((w.endHandle j).operate i rt (.release (some handle.object))).2 = .done reply ∧
          ∀ kind n, reply ≠ .error (.countUnderflow kind n)) ∨
        ∃ run, ((w.endHandle j).operate i rt (.release (some handle.object))).2 = .enter run ∧
          run.role.isDestructor = true) := by
  obtain ⟨c, hc, hcount⟩ := h.of_handle hh
  have hc' : (w.endHandle j).heap.live? handle.object = some c := hc
  have hhandles := (w.endHandle j).handles_operate i rt (.release (some handle.object))
  refine ⟨?_, ?_⟩
  · rcases release_cases _ i rt.registry _ hc' with ⟨-, hheap | ⟨hone, hheap⟩⟩ |
      ⟨run, -, -, -, -, hheap⟩
    · exact h.of_addCount hh hhandles hheap
    · exact h.of_release hh hc hone hhandles hheap
    · exact h.of_addCount hh hhandles hheap
  · have hfound := release_ne_countUnderflow (i := i) (g := rt.registry) hc' hcount
    rcases release_cases _ i rt.registry _ hc' with ⟨⟨reply, hdone⟩, -⟩ |
      ⟨run, hrun, hrole, -, -, -⟩
    · refine .inl ⟨reply, hdone, fun kind n hreply => hfound kind n ?_⟩
      rw [hdone, hreply]
    · exact .inr ⟨run, hrun, hrole⟩

end Covered

end World

end ObjectRuntime
