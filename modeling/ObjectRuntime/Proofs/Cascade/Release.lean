import ObjectRuntime.Proofs.Cascade.Destructor
/-!
# Releases that cascade

Releasing the last reference to an object starts its destructor, which releases the references in
its fields, and so on.  The induction (`releasable`) is on the objects that are still whole: an
object leaves them when its destructor starts, and its fields then count as references that are
held to be released (`erase`).
-/

namespace ObjectRuntime

variable {κ σ φ : Type}

/-- Objects that own what is in their fields: all are in use, the count of each is the number of
references in fields and of those held otherwise, and its destructor releases its fields. -/
structure Owns (host : Host κ σ φ) (Inv : σ → Prop) (i : RuntimeId) (f : Fields)
    (objects : Finset Ref) (held : Ref → Nat) (w : World κ) : Prop where
  counted : ∃ rt, w.runtimes[i]? = some rt ∧ ∀ r ∈ objects, ∃ c slot,
    w.heap.live? r = some c ∧ 1 ≤ c.count ∧ c.count = f.refs objects r + held r ∧
      rt.registry.destructor c.kind = .ok slot ∧ slot.ReleasesFields host Inv i f r
  /-- Fields hold nothing else. -/
  closed : ∀ s ∈ objects, ∀ t ∈ f.targets s, t ∈ objects
  /-- And no references are held to anything else. -/
  rooted : ∀ r, 0 < held r → r ∈ objects

/-- What a release leaves of some objects: those that are gone had their destructors started, once
each, and nothing else was touched. -/
structure Swept (w w' : World κ) (objects left : Finset Ref) (started : List Ref) : Prop where
  subset : left ⊆ objects
  runtimes : w'.runtimes = w.runtimes
  outside : ∀ r, r ∉ objects → w'.heap.cell? r = w.heap.cell? r
  gone : ∀ r ∈ objects, r ∉ left → w'.heap.live? r = none
  nodup : started.Nodup
  mem_started : ∀ r, r ∈ started ↔ r ∈ objects ∧ r ∉ left

namespace Swept

variable {w w' w'' : World κ} {objects left left' : Finset Ref} {l l' : List Ref}

theorem of_whole (hruntimes : w'.runtimes = w.runtimes)
    (houtside : ∀ r, r ∉ objects → w'.heap.cell? r = w.heap.cell? r) :
    Swept w w' objects objects [] where
  subset := Finset.Subset.refl _
  runtimes := hruntimes
  outside := houtside
  gone _ hr hr' := absurd hr hr'
  nodup := List.nodup_nil
  mem_started r := by simp

theorem refl (w : World κ) (objects : Finset Ref) : Swept w w objects objects [] :=
  of_whole rfl fun _ _ => rfl

theorem trans (h : Swept w w' objects left l) (h' : Swept w' w'' left left' l') :
    Swept w w'' objects left' (l ++ l') where
  subset := h'.subset.trans h.subset
  runtimes := h'.runtimes.trans h.runtimes
  outside r hr := (h'.outside r fun hl => hr (h.subset hl)).trans (h.outside r hr)
  gone r hr hr' := by
    by_cases hl : r ∈ left
    · exact h'.gone r hl hr'
    · rw [Heap.live?, h'.outside r hl]
      exact h.gone r hr hl
  nodup := by
    refine List.nodup_append.2 ⟨h.nodup, h'.nodup, ?_⟩
    rintro r hr _ hr' rfl
    exact ((h.mem_started r).1 hr).2 ((h'.mem_started r).1 hr').1
  mem_started r := by
    have hsub := @h'.subset r
    have hsub' := @h.subset r
    rw [List.mem_append, h.mem_started, h'.mem_started]
    by_cases hl : r ∈ left <;> by_cases hl' : r ∈ left' <;> simp_all

/-- An object that falls apart before others do, and whose storage goes after theirs, is `Swept`
with them. -/
theorem of_erase {w₁ : World κ} {o : Ref} (ho : o ∈ objects)
    (hruntimes : w₁.runtimes = w.runtimes) (hcell : ∀ r ≠ o, w₁.heap.cell? r = w.heap.cell? r)
    (h : Swept w₁ w' (objects.erase o) left l) (hruntimes' : w''.runtimes = w'.runtimes)
    (hcell' : ∀ r ≠ o, w''.heap.cell? r = w'.heap.cell? r) (hgone : w''.heap.live? o = none) :
    Swept w w'' objects left (o :: l) where
  subset := h.subset.trans (Finset.erase_subset _ _)
  runtimes := hruntimes'.trans (h.runtimes.trans hruntimes)
  outside r hr := by
    have hne : r ≠ o := by
      rintro rfl
      exact hr ho
    rw [hcell' r hne, h.outside r fun hr' => hr (Finset.mem_of_mem_erase hr'), hcell r hne]
  gone r hr hr' := by
    by_cases hne : r = o
    · exact hne ▸ hgone
    · rw [Heap.live?, hcell' r hne]
      exact h.gone r (Finset.mem_erase.2 ⟨hne, hr⟩) hr'
  nodup := List.nodup_cons.2 ⟨fun hl => by simpa using ((h.mem_started o).1 hl).1, h.nodup⟩
  mem_started r := by
    have hsub := @h.subset o
    rw [List.mem_cons, h.mem_started, Finset.mem_erase]
    by_cases hne : r = o
    · subst hne
      simp_all
    · simp [hne]

end Swept

namespace Owns

variable {host : Host κ σ φ} {Inv : σ → Prop} {i : RuntimeId} {f : Fields} {objects : Finset Ref}
  {held base : Ref → Nat} {w w' : World κ} {o : Ref} {c : Cell κ}

theorem congr (h : Owns host Inv i f objects held w) (hruntimes : w'.runtimes = w.runtimes)
    (hcell : ∀ r ∈ objects, w'.heap.cell? r = w.heap.cell? r) :
    Owns host Inv i f objects held w' := by
  obtain ⟨rt, hrt, hobjects⟩ := h.counted
  refine ⟨⟨rt, hruntimes ▸ hrt, fun r hr => ?_⟩, h.closed, h.rooted⟩
  obtain ⟨c, slot, hc, hrest⟩ := hobjects r hr
  exact ⟨c, slot, by rwa [Heap.live?, hcell r hr], hrest⟩

theorem pred (h : Owns host Inv i f objects (fun r => base r + if r = o then 1 else 0) w)
    (hc : w.heap.live? o = some c) (hcount : 1 < c.count) (hruntimes : w'.runtimes = w.runtimes)
    (hheap : w'.heap = w.heap.addCount o (-1)) : Owns host Inv i f objects base w' := by
  obtain ⟨rt, hrt, hobjects⟩ := h.counted
  refine ⟨⟨rt, hruntimes ▸ hrt, fun r hr => ?_⟩, h.closed, fun r hr => h.rooted r (by omega)⟩
  obtain ⟨d, slot, hd, hpos, heq, hslot, hrel⟩ := hobjects r hr
  obtain ⟨hcell, hlive⟩ := Heap.live?_eq_some_iff.1 hd
  by_cases hr : r = o
  · subst hr
    cases hc.symm.trans hd
    rw [if_pos rfl] at heq
    refine ⟨{ c with count := c.count + -1 }, slot, ?_, ?_, ?_, hslot, hrel⟩
    · rw [hheap, Heap.live?_addCount hc]
    · dsimp only
      omega
    · dsimp only
      push_cast at heq
      omega
  · rw [if_neg hr] at heq
    refine ⟨d, slot, ?_, hpos, heq, hslot, hrel⟩
    rw [Heap.live?_eq_some_iff, hheap, Heap.cell?_addCount, if_neg hr]
    exact ⟨hcell, hlive⟩

/-- The last reference is given back: the object is in no field, and what is in its own fields is
held for now, so that the others are owned (`Owns`) as before. -/
theorem erase (h : Owns host Inv i f objects (fun r => base r + if r = o then 1 else 0) w)
    (hc : w.heap.live? o = some c) (hcount : c.count = 1) (hruntimes : w'.runtimes = w.runtimes)
    (hcell : ∀ r ≠ o, w'.heap.cell? r = w.heap.cell? r) :
    Owns host Inv i f (objects.erase o) (fun r => base r + (f.targets o).count r) w' := by
  obtain ⟨rt, hrt, hobjects⟩ := h.counted
  have ho : o ∈ objects := h.rooted o (by simp)
  obtain ⟨hbase, hrefs⟩ : base o = 0 ∧ f.refs objects o = 0 := by
    obtain ⟨d, slot, hd, -, heq, -⟩ := hobjects o ho
    cases hc.symm.trans hd
    rw [if_pos rfl] at heq
    omega
  rw [Fields.refs_eq_zero_iff] at hrefs
  refine ⟨⟨rt, hruntimes ▸ hrt, fun r hr => ?_⟩, fun s hs t ht => ?_, fun r hr => ?_⟩
  · obtain ⟨hne, hr⟩ := Finset.mem_erase.1 hr
    obtain ⟨d, slot, hd, hpos, heq, hrest⟩ := hobjects r hr
    refine ⟨d, slot, by rwa [Heap.live?, hcell r hne], hpos, ?_, hrest⟩
    rw [if_neg hne, Fields.refs_erase ho] at heq
    omega
  · refine Finset.mem_erase.2 ⟨?_, h.closed s (Finset.mem_of_mem_erase hs) t ht⟩
    rintro rfl
    exact hrefs s (Finset.mem_of_mem_erase hs) ht
  · by_cases hpos : 0 < base r
    · refine Finset.mem_erase.2 ⟨?_, h.rooted r (by omega)⟩
      rintro rfl
      omega
    · have ht : r ∈ f.targets o := List.count_pos_iff.1 (by omega)
      refine Finset.mem_erase.2 ⟨?_, h.closed o ho r ht⟩
      rintro rfl
      exact hrefs r ho ht

end Owns

/-! ## The cascade -/

/-- A release of a held reference succeeds, and what it leaves owns its fields as before. -/
def ComesBack (host : Host κ σ φ) (Inv : σ → Prop) (i : RuntimeId) (f : Fields)
    (objects : Finset Ref) (base : Ref → Nat) (o : Ref) (w : World κ) (s : σ)
    (stack : List (Frame κ φ)) : Prop :=
  ∃ w' s' left l, Moment.Comes host stack ⟨w, s, stack, .perform (.on i (.release (some o)))⟩
      ⟨w', s', stack, .reply (.ok .unit)⟩ l ∧
    Inv s' ∧ Owns host Inv i f left base w' ∧ Swept w w' objects left l

/-- Every reference that is held to one of these objects can be released. -/
def Releasable (host : Host κ σ φ) (Inv : σ → Prop) (i : RuntimeId) (f : Fields)
    (objects : Finset Ref) : Prop :=
  ∀ (w : World κ) (base : Ref → Nat) (o : Ref) (s : σ) (stack : List (Frame κ φ)),
    Owns host Inv i f objects (fun r => base r + if r = o then 1 else 0) w → Inv s →
    ComesBack host Inv i f objects base o w s stack

variable {host : Host κ σ φ} {Inv : σ → Prop} {i : RuntimeId} {f : Fields} {objects : Finset Ref}

/-- Host code that releases held references one after the other goes through, if each release
does. -/
theorem comes_of_releases (run : Option (Invocation κ)) (stack : List (Frame κ φ))
    {requests : List (Request κ)} {base : Ref → Nat} (ts : List Ref) {w : World κ}
    {s : σ} {mv : Move κ φ} (hall : ∀ B ⊆ objects, Releasable host Inv i f B)
    (hfollows : host.Follows Inv (ts.map (fun t => .on i (.release (some t))) ++ requests) (s, mv))
    (h : Owns host Inv i f objects (fun r => base r + ts.count r) w) :
    ∃ w' s' mv' left l,
      Moment.Comes host stack ((⟨w, s, stack, .reply (.ok .unit)⟩ : Moment κ σ φ).move run mv)
        ((⟨w', s', stack, .reply (.ok .unit)⟩ : Moment κ σ φ).move run mv') l ∧
      host.Follows Inv requests (s', mv') ∧ Owns host Inv i f left base w' ∧
      Swept w w' objects left l := by
  -- Each release leaves fewer objects whole, which the next one starts from.
  induction ts generalizing w s mv objects with
  | nil =>
    exact ⟨w, s, mv, objects, [], .refl (Moment.suffix_move ⟨w, s, stack, _⟩ run mv), hfollows,
      by simpa using h, .refl w objects⟩
  | cons t ts ih =>
    cases hfollows with
    | @ask _ _ _ frame hs hnext =>
      have hheld : (fun r => base r + (t :: ts).count r) =
          fun r => base r + ts.count r + if r = t then 1 else 0 := by
        funext r
        simp only [List.count_cons, beq_iff_eq, eq_comm (a := t), Nat.add_assoc]
      rw [hheld] at h
      obtain ⟨w₁, s₁, left₁, l₁, hcomes₁, hs₁, h₁, hswept₁⟩ :=
        hall objects (Finset.Subset.refl _) w _ t s (.host run frame :: stack) h hs
      obtain ⟨w₂, s₂, mv₂, left₂, l₂, hcomes₂, hfollows₂, h₂, hswept₂⟩ :=
        ih (fun B hB => hall B (hB.trans hswept₁.subset)) (hnext s₁ hs₁) h₁
      refine ⟨w₂, s₂, mv₂, left₂, l₁ ++ l₂, ?_, hfollows₂, h₂, hswept₁.trans hswept₂⟩
      have hresume : Moment.Comes host stack
          ⟨w₁, s₁, .host run frame :: stack, .reply (.ok .unit)⟩
          ((⟨w₂, s₂, stack, .reply (.ok .unit)⟩ : Moment κ σ φ).move run mv₂) l₂ :=
        (Moment.Comes.step (List.suffix_cons _ _)
          (Moment.suffix_move ⟨w₁, _, stack, _⟩ run _)).trans hcomes₂
      exact (hcomes₁.mono (List.suffix_cons _ _)).trans hresume

theorem comes_of_free {run : Invocation κ} (stack : List (Frame κ φ)) {w w' : World κ} {s s' : σ}
    {o : Ref} {frame : φ} {answer : Answer}
    (hfree : w.perform (.service (.freeObject (some o))) = (w', .done (.ok .unit)))
    (hfinish : host.resume frame (.ok .unit) s = (s', .finish answer))
    (hreply : ∀ answer, run.role.reply answer = (.ok .unit : Reply κ)) :
    Moment.Comes host stack
      ((⟨w, s, stack, .reply (.ok .unit)⟩ : Moment κ σ φ).move (some run)
        (.ask (.service (.freeObject (some o))) frame))
      ⟨w', s', stack, .reply (.ok .unit)⟩ [] := by
  have hstep : (⟨w', s, .host (some run) frame :: stack, .reply (.ok .unit)⟩ : Moment κ σ φ).step
      host = ⟨w', s', stack, .reply (.ok .unit)⟩ := by
    rw [Moment.step_host, hfinish]
    simp only [Moment.move, hreply]
  have hlast : Moment.Comes host stack
      (⟨w', s, .host (some run) frame :: stack, .reply (.ok .unit)⟩ : Moment κ σ φ)
      ⟨w', s', stack, .reply (.ok .unit)⟩ [] := by
    rw [← hstep]
    exact .step (List.suffix_cons _ stack) (by rw [hstep])
  exact ((Moment.Comes.perform host hfree s (.host (some run) frame :: stack)).mono
    (List.suffix_cons _ _)).trans hlast

variable {base : Ref → Nat} {o : Ref} {w : World κ} {s : σ} {rt : Runtime κ} {c : Cell κ}
  {slot : Destructor κ}

theorem comesBack_of_one_lt (stack : List (Frame κ φ))
    (h : Owns host Inv i f objects (fun r => base r + if r = o then 1 else 0) w) (hs : Inv s)
    (hrt : w.runtimes[i]? = some rt) (hc : w.heap.live? o = some c) (hcount : 1 < c.count) :
    ComesBack host Inv i f objects base o w s stack := by
  have ho : o ∈ objects := h.rooted o (by simp)
  have hperform := World.perform_release (o := o) hrt
  rw [World.release_of_one_lt hc hcount] at hperform
  have hcomes := Moment.Comes.perform host hperform s stack
  rw [Moment.starts_of_done hperform, Heap.live?_addCount hc] at hcomes
  refine ⟨_, s, objects, [], hcomes, hs, h.pred hc hcount rfl rfl, .of_whole rfl fun r hr => ?_⟩
  rw [Heap.cell?_addCount, if_neg]
  rintro rfl
  exact hr ho

theorem comesBack_of_stock (stack : List (Frame κ φ))
    (h : Owns host Inv i f objects (fun r => base r + if r = o then 1 else 0) w) (hs : Inv s)
    (hrt : w.runtimes[i]? = some rt) (hc : w.heap.live? o = some c) (hcount : c.count = 1)
    (hslot : rt.registry.destructor c.kind = .ok (.native .stock)) (htargets : f.targets o = []) :
    ComesBack host Inv i f objects base o w s stack := by
  have ho : o ∈ objects := h.rooted o (by simp)
  obtain ⟨w', hw', hheap, hruntimes⟩ := World.release_frees (i := i) hc hcount hslot
  have hperform := World.perform_release (o := o) hrt
  rw [hw'] at hperform
  have hcell : ∀ r ≠ o, w'.heap.cell? r = w.heap.cell? r := fun r hr => by
    rw [hheap, Heap.cell?_release_object, if_neg hr, Heap.cell?_addCount, if_neg hr]
  have hgone : w'.heap.live? o = none := by rw [hheap, Heap.live?_release_object]
  have howns := h.erase hc hcount hruntimes hcell
  rw [htargets] at howns
  have hcomes := Moment.Comes.perform host hperform s stack
  rw [Moment.starts_of_done hperform, hgone] at hcomes
  exact ⟨w', s, objects.erase o, [o], hcomes, hs, howns,
    .of_erase ho hruntimes hcell (.refl w' _) rfl (fun _ _ => rfl) hgone⟩

theorem comesBack_of_enter (stack : List (Frame κ φ))
    (hall : ∀ B ⊂ objects, Releasable host Inv i f B)
    (h : Owns host Inv i f objects (fun r => base r + if r = o then 1 else 0) w) (hs : Inv s)
    (hrt : w.runtimes[i]? = some rt) (hc : w.heap.live? o = some c) (hcount : c.count = 1)
    (hslot : rt.registry.destructor c.kind = .ok slot) {run : Invocation κ}
    (hrun : slot.invocation? i o = some run)
    (hfollows : ∀ s, Inv s → host.Follows Inv (f.plan i o) (host.enter run s)) :
    ComesBack host Inv i f objects base o w s stack := by
  have ho : o ∈ objects := h.rooted o (by simp)
  obtain ⟨w₁, hw₁, hheap₁, hruntimes₁⟩ := World.release_enters hc hcount hslot hrun
  have hperform := World.perform_release (o := o) hrt
  rw [hw₁] at hperform
  obtain ⟨hreceiver, hreply⟩ := Destructor.role_of_invocation? hrun
  have hcell₁ : ∀ r ≠ o, w₁.heap.cell? r = w.heap.cell? r := fun r hr => by
    rw [hheap₁, Heap.cell?_addCount, if_neg hr]
  -- The object is no longer whole: what its fields hold is now held by its destructor.
  obtain ⟨w₂, s₂, mv₂, left, l, hcomes, hrest, h₂, hswept⟩ :=
    comes_of_releases (some run) stack (f.targets o)
      (fun B hB => hall B (Finset.ssubset_of_subset_of_ssubset hB (Finset.erase_ssubset ho)))
      (hfollows s hs) (h.erase hc hcount hruntimes₁ hcell₁)
  -- The fields are released; what is left is to free the object itself.
  cases hrest with
  | @ask _ _ _ frame hs₂ hnext =>
    have hlive : w₂.heap.live? o = some { c with count := c.count + -1 } := by
      rw [Heap.live?, hswept.outside o (Finset.notMem_erase o objects), hheap₁]
      exact Heap.live?_addCount hc (-1)
    obtain ⟨w₃, hfree, hheap₃, hruntimes₃⟩ := World.perform_freeObject hlive
    have hcell₃ : ∀ r ≠ o, w₃.heap.cell? r = w₂.heap.cell? r := fun r hr => by
      rw [hheap₃, Heap.cell?_release_object, if_neg hr]
    have hgone : w₃.heap.live? o = none := by rw [hheap₃, Heap.live?_release_object]
    obtain ⟨s₃, answer, hs₃, hfinish⟩ := (hnext s₂ hs₂).finishes
    refine ⟨w₃, s₃, left, o :: l, ?_, hs₃, h₂.congr hruntimes₃ fun r hr => hcell₃ r ?_,
      .of_erase ho hruntimes₁ hcell₁ hswept hruntimes₃ hcell₃ hgone⟩
    · have henter := Moment.Comes.perform host hperform s stack
      rw [Moment.starts_of_enter hperform, hreceiver] at henter
      have hbody := hcomes.trans (comes_of_free stack hfree hfinish hreply)
      rw [List.append_nil, Moment.move_control _ _ _ _ (.perform _)] at hbody
      exact henter.trans hbody
    · rintro rfl
      exact Finset.notMem_erase _ _ (hswept.subset hr)

/-- **Every held reference can be released.**  The object's destructor, if it is started, finds
fewer objects whole than the release did, and releases them one after the other
(`comes_of_releases`). -/
theorem releasable (objects : Finset Ref) : Releasable host Inv i f objects := by
  induction objects using Finset.strongInduction with
  | H objects ih =>
    intro w base o s stack h hs
    obtain ⟨rt, hrt, hcounted⟩ := h.counted
    obtain ⟨c, slot, hc, hpos, -, hslot, hrel⟩ := hcounted o (h.rooted o (by simp))
    by_cases hlast : c.count = 1
    · rcases hrel with ⟨rfl, htargets⟩ | ⟨run, hrun, hfollows⟩
      · exact comesBack_of_stock stack h hs hrt hc hlast hslot htargets
      · exact comesBack_of_enter stack ih h hs hrt hc hlast hslot hrun hfollows
    · exact comesBack_of_one_lt stack h hs hrt hc (by omega)

end ObjectRuntime
