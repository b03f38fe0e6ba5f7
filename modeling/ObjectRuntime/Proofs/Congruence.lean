import ObjectRuntime.Machine
/-!
# Relations that operations keep

What an operation does depends on the objects, on the registry of its runtime and on whether
storage is served.  Where these are the same in two worlds, operations go the same way, and a
relation that is kept by the few changes that operations are made of, a `Congruence`, is kept by
all of them.
-/

namespace ObjectRuntime.World

variable {κ : Type}

/-- What two worlds made of something: they are related again, and it goes on the same way. -/
def Agree {α : Type} (R : World κ → World κ → Prop) (p q : World κ × α) : Prop :=
  R p.1 q.1 ∧ q.2 = p.2

theorem Agree.cases {α : Type} {R : World κ → World κ → Prop} {p q : World κ × α}
    (h : Agree R p q) : ∃ w v a, p = (w, a) ∧ q = (v, a) ∧ R w v :=
  ⟨p.1, q.1, p.2, rfl, Prod.ext rfl h.2, h.1⟩

theorem Agree.map {α β : Type} {R : World κ → World κ → Prop} {p q : World κ × α}
    (h : Agree R p q) (f : α → β) : Agree R (p.1, f p.2) (q.1, f q.2) :=
  ⟨h.1, congrArg f h.2⟩

/-- A relation between worlds in which operations go the same way. -/
structure Congruence (R : World κ → World κ → Prop) : Prop where
  heap : ∀ {w v}, R w v → v.heap = w.heap
  emit : ∀ {w v}, R w v → ∀ e, R (w.emit e) (v.emit e)
  setHeap : ∀ {w v}, R w v → ∀ h, R { w with heap := h } { v with heap := h }
  setRegistry : ∀ {w v}, R w v → ∀ i g, R (w.setRegistry i g) (v.setRegistry i g)
  /-- Storage is served in both or in neither. -/
  allocate : ∀ {w v}, R w v → ∀ size a, Agree R (w.allocate size a) (v.allocate size a)
  reclaim : ∀ {w v}, R w v →
    R { w with allocator := w.allocator.release } { v with allocator := v.allocator.release }

namespace Congruence

variable {R : World κ → World κ → Prop} (hR : Congruence R) {w v : World κ} (h : R w v)
include hR h

theorem mapHeap (f : Heap κ → Heap κ) :
    R { w with heap := f w.heap } { v with heap := f v.heap } := by
  rw [hR.heap h]
  exact hR.setHeap h _

theorem giveBack (a : Address) : R (w.giveBack a) (v.giveBack a) :=
  hR.mapHeap (hR.reclaim (hR.emit h (.deallocation a))) (·.release a)

theorem retain (r : Ref) : Option.Rel R (w.retain r) (v.retain r) := by
  unfold World.retain
  rw [hR.heap h]
  cases w.heap.live? r with
  | none => exact .none
  | some c => exact .some (hR.setHeap h _)

theorem freeObject (r : Ref) : Option.Rel R (w.freeObject r) (v.freeObject r) := by
  unfold World.freeObject
  rw [hR.heap h]
  cases w.heap.live? r with
  | none => exact .none
  | some c => exact .some (hR.giveBack (hR.emit h _) _)

theorem createObject (kind : KindId) (payload : UInt64) :
    Agree R (w.createObject kind payload) (v.createObject kind payload) := by
  simp only [World.createObject, freshPayload_eq, hR.heap h]
  split
  · obtain ⟨w', v', served, hw, hv, h'⟩ := (hR.allocate h
      (UInt64.ofNat (headerSize + payload.toNat)) (.object w.heap.nextObject)).cases
    rw [hw, hv]
    cases served with
    | true => exact ⟨hR.emit (hR.mapHeap h' (·.addObject _)) _, rfl⟩
    | false => exact ⟨h', rfl⟩
  · exact ⟨h, rfl⟩

theorem createFunction (code : κ) : Agree R (w.createFunction code) (v.createFunction code) := by
  simp only [World.createFunction, hR.heap h]
  obtain ⟨w', v', served, hw, hv, h'⟩ := (hR.allocate h
    (UInt64.ofNat functionSize) (.object w.heap.nextObject)).cases
  rw [hw, hv]
  cases served with
  | true => exact ⟨hR.mapHeap h' (·.addObject _), rfl⟩
  | false => exact ⟨h', rfl⟩

/-! ## Operations -/

omit hR in
theorem orFault {p q : Option (World κ × Turn κ)} (hpq : Option.Rel (Agree R) p q) :
    Agree R (w.orFault p) (v.orFault q) := by
  cases hpq with
  | none => exact ⟨h, rfl⟩
  | some hagree => exact hagree

omit hR in
theorem orFault_done {p q : Option (World κ)} (hpq : Option.Rel R p q) (reply : Reply κ) :
    Agree R (w.orFault (p.map (·, .done reply))) (v.orFault (q.map (·, .done reply))) := by
  refine orFault h ?_
  cases hpq with
  | none => exact .none
  | some h' => exact .some ⟨h', rfl⟩

theorem writeRegistry (i : RuntimeId) (e : Event κ) (change : Except Failure (Registry κ)) :
    Agree R (w.writeRegistry i e change) (v.writeRegistry i e change) := by
  cases change with
  | ok g => exact ⟨hR.emit (hR.setRegistry h i g) e, rfl⟩
  | error e => exact ⟨h, rfl⟩

theorem setMember (i : RuntimeId) (g : Registry κ) (kind : KindId) (name : String)
    (value : Pointer) :
    Agree R (w.setMember i g kind name value) (v.setMember i g kind name value) := by
  cases value with
  | none => exact ⟨h, rfl⟩
  | some r =>
    cases hg : g.setMember kind name r with
    | error e =>
      simp only [World.setMember, hg]
      exact ⟨h, rfl⟩
    | ok result =>
      obtain ⟨g', replaced⟩ := result
      have h' : R ((w.setRegistry i g').reportOverwrite kind name replaced)
          ((v.setRegistry i g').reportOverwrite kind name replaced) := by
        cases replaced with
        | none => exact hR.setRegistry h i g'
        | some old => exact hR.emit (hR.setRegistry h i g') _
      simp only [World.setMember, hg]
      exact orFault_done h' (hR.retain h' r) _

theorem destroy (i : RuntimeId) (g : Registry κ) (r : Ref) (kind : KindId) :
    Agree R (w.destroy i g r kind) (v.destroy i g r kind) := by
  unfold World.destroy
  cases g.destructor kind with
  | error e => exact ⟨h, rfl⟩
  | ok slot =>
    have hemit := hR.emit h (.objectDestroy kind r)
    cases slot with
    | empty => exact ⟨hemit, rfl⟩
    | closure code => exact ⟨hemit, rfl⟩
    | native entry =>
      cases entry with
      | host code => exact ⟨hemit, rfl⟩
      | stock =>
        have hfree := hR.freeObject hemit r
        dsimp only
        generalize (w.emit (.objectDestroy kind r)).freeObject r = p at hfree
        generalize (v.emit (.objectDestroy kind r)).freeObject r = q at hfree
        cases hfree with
        | none => exact ⟨hemit, rfl⟩
        | some h' => exact ⟨h', rfl⟩

theorem release (i : RuntimeId) (g : Registry κ) (r : Ref) :
    Agree R (w.release i g r) (v.release i g r) := by
  unfold World.release
  rw [hR.heap h]
  cases w.heap.live? r with
  | none => exact ⟨h, rfl⟩
  | some c =>
    have hcount := hR.setHeap h (w.heap.addCount r (-1))
    dsimp only
    split
    · exact ⟨hcount, rfl⟩
    · split
      · exact ⟨hcount, rfl⟩
      · exact hR.destroy hcount i g r c.kind

theorem lookup (g : Registry κ) (r : Ref) (name : String) :
    Option.Rel (Agree R) (w.lookup g r name) (v.lookup g r name) := by
  unfold World.lookup
  rw [hR.heap h]
  cases w.heap.live? r with
  | none => exact .none
  | some c =>
    simp only [Option.bind_some]
    cases g.member c.kind name with
    | error e => exact .some ⟨h, rfl⟩
    | ok member =>
      have hretain := hR.retain h member
      dsimp only
      generalize w.retain member = p at hretain
      generalize v.retain member = q at hretain
      cases hretain with
      | none => exact .none
      | some h' => exact .some ⟨hR.emit h' _, rfl⟩

theorem start (i : RuntimeId) (target : Callable κ) (receiver : Ref) (args : List Pointer) :
    v.start i target receiver args = w.start i target receiver args := by
  unfold World.start
  rw [hR.heap h]

theorem apply (i : RuntimeId) {rt rt' : Runtime κ} (callee : Pointer) (args : List Pointer)
    (hresolve : ∀ r, callee = some r →
      resolve w.heap rt'.registry rt'.hopBudget r 0 = resolve w.heap rt.registry rt.hopBudget r 0)
    (hexhausted : ∀ r, callee = some r →
      resolve w.heap rt.registry rt.hopBudget r 0 = .exhausted → rt'.exhausted = rt.exhausted) :
    Agree R (w.apply i rt callee args) (v.apply i rt' callee args) := by
  cases callee with
  | none => exact ⟨h, rfl⟩
  | some r =>
    have hex := hexhausted r rfl
    simp only [World.apply, hR.heap h, hresolve r rfl]
    cases hres : resolve w.heap rt.registry rt.hopBudget r 0 with
    | land receiver kind target hops =>
      exact ⟨hR.emit h _, hR.start (hR.emit h _) i target receiver args⟩
    | fail e => exact ⟨h, rfl⟩
    | exhausted => exact ⟨h, hex hres⟩
    | fault => exact ⟨h, rfl⟩

theorem methodCall (i : RuntimeId) (g : Registry κ) (object : Pointer) (name : String)
    (args : List Pointer) :
    Agree R (w.methodCall i g object name args) (v.methodCall i g object name args) := by
  cases object with
  | none => exact ⟨h, rfl⟩
  | some r =>
    have hlookup := hR.lookup h g r name
    simp only [World.methodCall, hR.heap h]
    cases w.heap.live? r with
    | none => exact ⟨h, rfl⟩
    | some c =>
      generalize w.lookup g r name = p at hlookup
      generalize v.lookup g r name = q at hlookup
      cases hlookup with
      | none => exact ⟨h, rfl⟩
      | some hagree =>
        obtain ⟨w', v', member, rfl, rfl, h'⟩ := hagree.cases
        cases member with
        | error e => exact ⟨h', rfl⟩
        | ok method => exact ⟨hR.emit h' _, rfl⟩

/-- **An operation goes the same way in worlds that a `Congruence` relates**, and so does one that
is not an application with another cap. -/
theorem operate (i : RuntimeId) {rt rt' : Runtime κ} (hg : rt'.registry = rt.registry)
    (op : Operation κ) (happly : ∀ callee args, op = .apply callee args →
      Agree R (w.apply i rt callee args) (v.apply i rt' callee args)) :
    Agree R (w.operate i rt op) (v.operate i rt' op) := by
  cases op with
  | register | setDestructor | setApply =>
    simp only [World.operate, hg]
    exact hR.writeRegistry h i _ _
  | setMember kind name value =>
    simp only [World.operate, hg]
    exact hR.setMember h i _ kind name value
  | newObject kind payload =>
    simp only [World.operate, hg]
    split
    · exact (hR.createObject h kind payload).map objectReply
    · exact ⟨h, rfl⟩
  | nil => exact orFault_done h (hR.retain h (.nil i)) _
  | retain object =>
    cases object with
    | none => exact ⟨h, rfl⟩
    | some r => exact orFault_done h (hR.retain h r) _
  | release object =>
    cases object with
    | none => exact ⟨h, rfl⟩
    | some r =>
      simp only [World.operate, hg]
      exact hR.release h i _ r
  | lookup object name =>
    cases object with
    | none => exact ⟨h, rfl⟩
    | some r =>
      have hlookup := hR.lookup h rt.registry r name
      simp only [World.operate, hg]
      refine orFault h ?_
      generalize w.lookup rt.registry r name = p at hlookup
      generalize v.lookup rt.registry r name = q at hlookup
      cases hlookup with
      | none => exact .none
      | some hagree => exact .some (hagree.map objectReply)
  | apply callee args => exact happly callee args rfl
  | methodCall object name args =>
    simp only [World.operate, hg]
    exact hR.methodCall h i _ object name args

end Congruence

end ObjectRuntime.World
