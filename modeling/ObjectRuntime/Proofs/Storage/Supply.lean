import ObjectRuntime.Proofs.SharedRuntime
import ObjectRuntime.Proofs.Storage.Census
/-!
# What a request asks an allocator for

A request asks the installed pair for storage once, gives one piece of storage back to it, puts
another pair in its place, or has nothing to do with storage.  `Supply` lists these with what they
do to the counters and to the storage on record, and `perform_supply` says that the list is
complete.
-/

namespace ObjectRuntime

variable {κ : Type}

/-- How storage can go between the process and a pair. -/
inductive Passage where
  | served
  | refused
  | returned
  deriving DecidableEq, Repr

/-- That a pair was asked for storage or got some back. -/
structure Transfer where
  pair : String
  passage : Passage
  deriving DecidableEq, Repr

namespace World

/-- The size of an object with a payload of so many bytes, unless it is beyond all sizes. -/
def objectSize (payload : UInt64) : Option UInt64 :=
  if headerSize + payload.toNat < UInt64.size then
    some (UInt64.ofNat (headerSize + payload.toNat))
  else none

end World

/-- Whether an object of this kind is freed when the last reference to it goes away, and nothing
else is done. -/
def Registry.reclaims (g : Registry κ) (kind : KindId) : Bool :=
  match g.destructor kind with
  | .ok (.native .stock) => true
  | _ => false

namespace Request

open World

/-- The size of the storage that a request asks for, if it asks for any: that of a new object or of
a raw block, or that of the nil of a runtime that is started. -/
def demand (w : World κ) : Request κ → Option UInt64
  | .on i (.newObject kind payload) =>
    w.runtimes[i]?.bind fun rt => if rt.registry.contains kind then objectSize payload else none
  | .service (.createObject _ payload) => objectSize payload
  | .service (.createFunction _) => some (UInt64.ofNat functionSize)
  | .service (.allocate size) => some size
  | .service (.startRuntime _) => some (UInt64.ofNat headerSize)
  | .service .sharedRuntime => if w.shared.isNone then some (UInt64.ofNat headerSize) else none
  | .foreign call =>
    if call.needsRuntime && w.shared.isNone then some (UInt64.ofNat headerSize) else none
  | _ => none

/-- Whether a request gives storage back: it frees a piece in use, or it takes the last reference to
an object whose kind has the stock destructor. -/
def surrenders (w : World κ) : Request κ → Bool
  | .on i (.release (some r)) =>
    w.runtimes[i]?.any fun rt => (w.heap.live? r).any fun c =>
      c.count == 1 && rt.registry.reclaims c.kind
  | .service (.freeObject (some r)) => (w.heap.live? r).isSome
  | .service (.freeBlock (some b)) => w.heap.liveBlock b
  | _ => false

/-- What a request has the installed pair do, which decides by how many requests it got before. -/
def transfer (w : World κ) (request : Request κ) : Option Transfer :=
  let pair := w.allocator.installed
  match request.demand w with
  | some size =>
    some ⟨pair.name, if pair.serves (w.allocator.trafficOf pair.name).requests size then .served
      else .refused⟩
  | none => if request.surrenders w then some ⟨pair.name, .returned⟩ else none

end Request

namespace World

/-- The counters are the same, and as much storage is on record. -/
structure SameStorage (w v : World κ) : Prop where
  allocator : v.allocator = w.allocator
  pieces : ∀ gone, v.heap.pieces gone = w.heap.pieces gone

/-- The installed pair was asked, and there is one more piece in use if it served the request. -/
structure Asked (w : World κ) (size : UInt64) (v : World κ) : Prop where
  allocator : v.allocator = (w.allocator.allocate size).1
  inUse : v.heap.inUse = w.heap.inUse + (w.allocator.allocate size).2.toNat
  givenBack : v.heap.givenBack = w.heap.givenBack

/-- The installed pair got a piece of storage back that was in use. -/
structure GaveBack (w v : World κ) : Prop where
  allocator : v.allocator = w.allocator.release
  inUse : v.heap.inUse + 1 = w.heap.inUse
  givenBack : v.heap.givenBack = w.heap.givenBack + 1

/-- What performing a request in `w` can do to the allocator and to the storage on record. -/
inductive Supply (w : World κ) (request : Request κ) (v : World κ) : Prop
  | kept (hdemand : request.demand w = none) (hsurrenders : request.surrenders w = false)
      (hinstall : ∀ pair, request ≠ .service (.install pair)) (h : SameStorage w v)
  | asked (size : UInt64) (hdemand : request.demand w = some size)
      (hinstall : ∀ pair, request ≠ .service (.install pair)) (h : Asked w size v)
  | returned (hdemand : request.demand w = none) (hsurrenders : request.surrenders w = true)
      (hinstall : ∀ pair, request ≠ .service (.install pair)) (h : GaveBack w v)
  | installed (pair : Pair) (hrequest : request = .service (.install pair))
      (hallocator : v.allocator = (w.allocator.install pair).1) (hheap : v.heap = w.heap)

/-! ## Storage that stays as it is -/

namespace SameStorage

variable {w v : World κ}

theorem refl (w : World κ) : SameStorage w w := ⟨rfl, fun _ => rfl⟩

theorem trans {u : World κ} (h : SameStorage w v) (h' : SameStorage v u) : SameStorage w u :=
  ⟨h'.allocator.trans h.allocator, fun gone => (h'.pieces gone).trans (h.pieces gone)⟩

theorem of_retain {r : Ref} (h : w.retain r = some v) : SameStorage w v := by
  obtain ⟨c, -, rfl⟩ := retain_eq_some_iff.1 h
  exact ⟨rfl, w.heap.pieces_addCount r 1⟩

theorem retain (w : World κ) (r : Ref) (turn : Turn κ) :
    SameStorage w (w.orFault ((w.retain r).map (·, turn))).1 := by
  cases h : w.retain r with
  | none => exact refl w
  | some v => exact of_retain h

theorem writeRegistry (w : World κ) (i : RuntimeId) (e : Event κ)
    (change : Except Failure (Registry κ)) : SameStorage w (w.writeRegistry i e change).1 := by
  cases change <;> exact ⟨rfl, fun _ => rfl⟩

theorem setMember (w : World κ) (i : RuntimeId) (g : Registry κ) (kind : KindId) (name : String)
    (value : Pointer) : SameStorage w (w.setMember i g kind name value).1 := by
  rcases w.setMember_cases i g kind name value with ⟨e, h⟩ |
    ⟨r, g', replaced, w', -, -, rfl, h⟩
  · rw [h]
    exact refl w
  · have hwritten : SameStorage w ((w.setRegistry i g').reportOverwrite kind name replaced) := by
      cases replaced <;> exact ⟨rfl, fun _ => rfl⟩
    rcases h with ⟨-, h⟩ | ⟨w'', hr, h⟩
    · rw [h]
      exact hwritten
    · rw [h]
      exact hwritten.trans (of_retain hr)

theorem lookup {g : Registry κ} {r : Ref} {name : String} {member : Except Failure Ref}
    (h : w.lookup g r name = some (v, member)) : SameStorage w v := by
  rcases w.lookup_cases g r name with h' | ⟨c, -, ⟨e, -, h'⟩ | ⟨m, w', -, hr, h'⟩⟩
  · cases h.symm.trans h'
  · cases h.symm.trans h'
    exact refl w
  · cases h.symm.trans h'
    exact ⟨(of_retain hr).allocator, (of_retain hr).pieces⟩

theorem methodCall (w : World κ) (i : RuntimeId) (g : Registry κ) (object : Pointer)
    (name : String) (args : List Pointer) :
    SameStorage w (w.methodCall i g object name args).1 := by
  rcases w.methodCall_cases i g object name args with h | ⟨e, h⟩ |
    ⟨r, c, method, w', -, -, -, hr, h⟩
  · rw [h]
    exact refl w
  · rw [h]
    exact refl w
  · rw [h]
    exact ⟨(of_retain hr).allocator, (of_retain hr).pieces⟩

theorem apply (w : World κ) (i : RuntimeId) (rt : Runtime κ) (callee : Pointer)
    (args : List Pointer) : SameStorage w (w.apply i rt callee args).1 := by
  obtain ⟨⟨journal, h⟩, -⟩ := w.apply_frame i rt callee args
  rw [h]
  exact ⟨rfl, fun _ => rfl⟩

theorem borrow (w : World κ) (i : RuntimeId) (r : Ref) : SameStorage w (w.borrow i r).1 := by
  unfold World.borrow
  cases h : w.retain r with
  | none => exact refl w
  | some v => exact ⟨(of_retain h).allocator, (of_retain h).pieces⟩

theorem operateHandle (w : World κ) (op : HandleOperation) :
    SameStorage w (w.operateHandle op).1 := by
  cases op with
  | adopt i object => cases object <;> exact ⟨rfl, fun _ => rfl⟩
  | borrow i object =>
    cases object with
    | none => exact refl w
    | some r => exact borrow w i r
  | nil i => exact borrow w i _
  | clone h =>
    simp only [World.operateHandle]
    cases w.handle? h with
    | none => exact refl w
    | some handle => exact borrow w _ _
  | object h | runtime h | drop h | intoPointer h | lookup h name =>
    simp only [World.operateHandle]
    cases w.handle? h <;> exact ⟨rfl, fun _ => rfl⟩
  | call h args | methodCall h name args =>
    simp only [World.operateHandle]
    cases w.handle? h <;> cases w.handleArgs args <;> exact refl w

theorem amend (w : World κ) (r : Ref) {f : Cell κ → Cell κ}
    (hf : ∀ c, (f c).released = c.released) : SameStorage w (w.amend r f).1 := by
  unfold World.amend
  cases w.heap.live? r with
  | none => exact refl w
  | some c => exact ⟨rfl, w.heap.pieces_update_of_released r hf⟩

theorem resume (w : World κ) (reply : Reply κ) (p : Pending κ) :
    SameStorage w (w.resume reply p).1 := by
  cases p with
  | releaseMethod i method => exact refl w
  | keep kept => cases reply <;> exact refl w
  | adopt i operation =>
    unfold World.resume
    dsimp only
    split <;> exact ⟨rfl, fun _ => rfl⟩
  | orFatal => cases reply <;> exact ⟨rfl, fun _ => rfl⟩

theorem inspect (w : World κ) (r : Ref) (f : Cell κ → Value κ) :
    SameStorage w (w.inspect r f).1 := by
  unfold World.inspect
  cases w.heap.live? r <;> exact refl w

end SameStorage

/-! ## Storage that is asked for -/

namespace Asked

variable {w v : World κ}

theorem aside {v' : World κ} {size : UInt64} (h : Asked w size v) (h' : v.JournalAside v') :
    Asked w size v' := by
  obtain ⟨journal, rfl⟩ := h'
  exact ⟨h.allocator, h.inUse, h.givenBack⟩

theorem createObject (w : World κ) {kind : KindId} {payload size : UInt64}
    (hsize : objectSize payload = some size) : Asked w size (w.createObject kind payload).1 := by
  obtain ⟨hfits, hsize⟩ := Option.ite_none_right_eq_some.1 hsize
  cases hsize
  obtain ⟨journal, hw⟩ := w.allocate_eq (UInt64.ofNat (headerSize + payload.toNat))
    (.object w.heap.nextObject)
  simp only [World.createObject, if_pos hfits, hw]
  cases hserved : (w.allocator.allocate (UInt64.ofNat (headerSize + payload.toNat))).2 with
  | true => exact ⟨rfl, by rw [hserved]; simp [Heap.inUse], by simp [Heap.givenBack]⟩
  | false => exact ⟨rfl, by rw [hserved]; rfl, rfl⟩

theorem createFunction (w : World κ) (code : κ) :
    Asked w (UInt64.ofNat functionSize) (w.createFunction code).1 := by
  obtain ⟨journal, hw⟩ := w.allocate_eq (UInt64.ofNat functionSize) (.object w.heap.nextObject)
  simp only [World.createFunction, hw]
  cases hserved : (w.allocator.allocate (UInt64.ofNat functionSize)).2 with
  | true => exact ⟨rfl, by rw [hserved]; simp [Heap.inUse], by simp [Heap.givenBack]⟩
  | false => exact ⟨rfl, by rw [hserved]; rfl, rfl⟩

theorem allocateBlock (w : World κ) (size : UInt64) : Asked w size (w.allocateBlock size).1 := by
  obtain ⟨journal, hw⟩ := w.allocate_eq size (.block w.heap.nextBlock)
  simp only [World.allocateBlock, hw]
  cases hserved : (w.allocator.allocate size).2 with
  | true => exact ⟨rfl, by rw [hserved]; simp [Heap.inUse], by simp [Heap.givenBack]⟩
  | false => exact ⟨rfl, by rw [hserved]; rfl, rfl⟩

theorem startRuntime (w : World κ) (cap : DepthCap) :
    Asked w (UInt64.ofNat headerSize) (w.startRuntime cap).1 := by
  obtain ⟨journal, hw⟩ := w.startRuntime_eq cap
  rw [hw]
  cases hserved : (w.allocator.allocate (UInt64.ofNat headerSize)).2 with
  | true => exact ⟨rfl, by rw [hserved]; simp [Heap.inUse], by simp [Heap.givenBack]⟩
  | false => exact ⟨rfl, by rw [hserved]; rfl, rfl⟩

theorem sharedRuntime (h : w.shared = none) :
    Asked w (UInt64.ofNat headerSize) w.sharedRuntime.1 := by
  have hstart := startRuntime w w.settings.maxCallDepth
  simp only [World.sharedRuntime, h]
  generalize w.startRuntime w.settings.maxCallDepth = started at hstart
  obtain ⟨w', e | i⟩ := started
  · exact hstart
  · exact ⟨hstart.allocator, hstart.inUse, hstart.givenBack⟩

end Asked

/-! ## Storage that is given back -/

namespace GaveBack

variable {w v : World κ}

theorem freeObject {r : Ref} (h : w.freeObject r = some v) : GaveBack w v := by
  obtain ⟨c, hc, rfl⟩ := freeObject_eq_some_iff.1 h
  obtain ⟨hused, hgone⟩ := Heap.pieces_release_object hc
  exact ⟨rfl, hused, hgone⟩

theorem freeBlock {b : BlockId} (h : w.freeBlock b = some v) : GaveBack w v := by
  obtain ⟨hb, h⟩ := Option.ite_none_right_eq_some.1 h
  cases h
  obtain ⟨hused, hgone⟩ := Heap.pieces_release_block hb
  exact ⟨rfl, hused, hgone⟩

theorem after {w' : World κ} (h : GaveBack w' v) (h' : SameStorage w w') : GaveBack w v where
  allocator := by rw [h.allocator, h'.allocator]
  inUse := by rw [h.inUse]; exact h'.pieces false
  givenBack := by rw [h.givenBack]; exact congrArg (· + 1) (h'.pieces true)

end GaveBack

theorem destroy_supply (w : World κ) (i : RuntimeId) (g : Registry κ) {r : Ref} {c : Cell κ}
    (hc : w.heap.live? r = some c) (kind : KindId) :
    (g.reclaims kind = true ∧ GaveBack w (w.destroy i g r kind).1) ∨
      g.reclaims kind = false ∧ SameStorage w (w.destroy i g r kind).1 := by
  unfold destroy Registry.reclaims
  cases g.destructor kind with
  | error e => exact .inr ⟨rfl, .refl w⟩
  | ok slot =>
    cases slot with
    | empty | closure => exact .inr ⟨rfl, ⟨rfl, fun _ => rfl⟩⟩
    | native entry =>
      cases entry with
      | host => exact .inr ⟨rfl, ⟨rfl, fun _ => rfl⟩⟩
      | stock =>
        obtain ⟨v, hv⟩ : ∃ v, (w.emit (.objectDestroy kind r)).freeObject r = some v :=
          ⟨_, freeObject_eq_some_iff.2 ⟨c, hc, rfl⟩⟩
        simp only [hv]
        exact .inl ⟨trivial, (GaveBack.freeObject hv).after ⟨rfl, fun _ => rfl⟩⟩

theorem release_supply (w : World κ) (i : RuntimeId) (g : Registry κ) (r : Ref) :
    (((w.heap.live? r).any fun c => c.count == 1 && g.reclaims c.kind) = true ∧
        GaveBack w (w.release i g r).1) ∨
      ((w.heap.live? r).any fun c => c.count == 1 && g.reclaims c.kind) = false ∧
        SameStorage w (w.release i g r).1 := by
  cases hc : w.heap.live? r with
  | none =>
    simp only [release, hc]
    exact .inr ⟨rfl, .refl w⟩
  | some c =>
    have hcount : SameStorage w { w with heap := w.heap.addCount r (-1) } :=
      ⟨rfl, w.heap.pieces_addCount r (-1)⟩
    rcases Int.lt_trichotomy c.count 1 with hlt | hone | hgt
    · rw [release_of_le_zero hc (by omega)]
      exact .inr ⟨by simp; omega, hcount⟩
    · rw [release_of_eq_one hc hone]
      rcases destroy_supply { w with heap := w.heap.addCount r (-1) } i g
        (Heap.live?_addCount hc (-1)) c.kind with ⟨hslot, h⟩ | ⟨hslot, h⟩
      · exact .inl ⟨by simp [hone, hslot], h.after hcount⟩
      · exact .inr ⟨by simp [hslot], hcount.trans h⟩
    · rw [release_of_one_lt hc hgt]
      exact .inr ⟨by simp; omega, hcount⟩

/-! ## Every request -/

namespace Supply

variable {w v : World κ} {request : Request κ}

theorem createObject {kind : KindId} {payload : UInt64}
    (hdemand : request.demand w = objectSize payload) (hsurrenders : request.surrenders w = false)
    (hinstall : ∀ pair, request ≠ .service (.install pair)) :
    Supply w request (w.createObject kind payload).1 := by
  cases hsize : objectSize payload with
  | some size =>
    exact .asked size (hdemand.trans hsize) hinstall (.createObject w hsize)
  | none =>
    have hbig : ¬ headerSize + payload.toNat < UInt64.size := fun hfits => by
      rw [objectSize, if_pos hfits] at hsize
      cases hsize
    refine .kept (hdemand.trans hsize) hsurrenders hinstall ?_
    simp only [World.createObject, if_neg hbig]
    exact .refl w

theorem operate {i : RuntimeId} {rt : Runtime κ} (hrt : w.runtimes[i]? = some rt)
    (op : Operation κ) : Supply w (.on i op) (w.operate i rt op).1 := by
  cases op with
  | register | setDestructor | setApply =>
    exact .kept rfl rfl (by simp) (.writeRegistry _ _ _ _)
  | setMember kind name value => exact .kept rfl rfl (by simp) (.setMember _ _ _ _ _ _)
  | newObject kind payload =>
    simp only [World.operate]
    split
    next hkind => exact .createObject (by simp [Request.demand, hrt, hkind]) rfl (by simp)
    next hkind =>
      exact .kept (by simp [Request.demand, hrt, hkind]) rfl (by simp) (.refl w)
  | nil => exact .kept rfl rfl (by simp) (.retain _ _ _)
  | retain object =>
    cases object with
    | none => exact .kept rfl rfl (by simp) (.refl w)
    | some r => exact .kept rfl rfl (by simp) (.retain _ _ _)
  | release object =>
    cases object with
    | none => exact .kept rfl rfl (by simp) (.refl w)
    | some r =>
      rcases w.release_supply i rt.registry r with ⟨hgives, h⟩ | ⟨hgives, h⟩
      · exact .returned rfl (by simpa [Request.surrenders, hrt] using hgives) (by simp) h
      · exact .kept rfl (by simpa [Request.surrenders, hrt] using hgives) (by simp) h
  | lookup object name =>
    refine .kept rfl rfl (by simp) ?_
    cases object with
    | none => exact .refl w
    | some r =>
      simp only [World.operate]
      cases h : w.lookup rt.registry r name with
      | none => exact .refl w
      | some p => exact .lookup h
  | apply callee args => exact .kept rfl rfl (by simp) (.apply _ _ _ _ _)
  | methodCall object name args => exact .kept rfl rfl (by simp) (.methodCall _ _ _ _ _ _)

theorem call (w : World κ) (call : ForeignCall κ) : Supply w (.foreign call) (w.call call).1 := by
  have haside := w.journalAside_call call
  cases hneeds : call.needsRuntime with
  | false =>
    rw [hneeds] at haside
    obtain ⟨journal, h⟩ := haside
    rw [h]
    exact .kept (by simp [Request.demand, hneeds]) rfl (by simp) ⟨rfl, fun _ => rfl⟩
  | true =>
    rw [hneeds, if_pos rfl] at haside
    cases hshared : w.shared with
    | none =>
      exact .asked _ (by simp [Request.demand, hneeds, hshared]) (by simp)
        ((Asked.sharedRuntime hshared).aside haside)
    | some i =>
      rw [sharedRuntime_of_some hshared] at haside
      obtain ⟨journal, h⟩ := haside
      rw [h]
      exact .kept (by simp [Request.demand, hneeds, hshared]) rfl (by simp)
        ⟨rfl, fun _ => rfl⟩

theorem serve (w : World κ) (service : Service κ) :
    Supply w (.service service) (w.serve service).1 := by
  cases service with
  | startRuntime cap => exact .asked _ rfl (by simp) (.startRuntime w cap)
  | sharedRuntime =>
    simp only [World.serve]
    cases hshared : w.shared with
    | none =>
      have hasked := Asked.sharedRuntime hshared
      refine .asked (UInt64.ofNat headerSize) (by simp [Request.demand, hshared]) (by simp) ?_
      generalize w.sharedRuntime = started at hasked
      obtain ⟨v, e | i⟩ := started
      · exact hasked.aside (v.journalAside_fatal _)
      · exact hasked
    | some i =>
      rw [sharedRuntime_of_some hshared]
      exact .kept (by simp [Request.demand, hshared]) rfl (by simp) (.refl w)
  | createObject kind payload => exact .createObject rfl rfl (by simp)
  | createFunction code => exact .asked _ rfl (by simp) (.createFunction w code)
  | freeObject object =>
    cases object with
    | none => exact .kept rfl rfl (by simp) (.refl w)
    | some r =>
      simp only [World.serve]
      cases hfree : w.freeObject r with
      | none =>
        refine .kept rfl ?_ (by simp) (.refl w)
        simpa [Request.surrenders, freeObject] using congrArg Option.isSome hfree
      | some v =>
        refine .returned rfl ?_ (by simp) (.freeObject hfree)
        simpa [Request.surrenders, freeObject] using congrArg Option.isSome hfree
  | allocate size => exact .asked size rfl (by simp) (.allocateBlock w size)
  | freeBlock block =>
    cases block with
    | none => exact .kept rfl rfl (by simp) (.refl w)
    | some b =>
      simp only [World.serve]
      cases hfree : w.freeBlock b with
      | none =>
        refine .kept rfl ?_ (by simp) (.refl w)
        simpa [Request.surrenders, freeBlock] using hfree
      | some v =>
        refine .returned rfl ?_ (by simp) (.freeBlock hfree)
        exact (Option.ite_none_right_eq_some.1 hfree).1
  | install pair => exact .installed pair rfl rfl rfl
  | requireRuntime | installed | traffic | loggingStarted | isReleased =>
    exact .kept rfl rfl (by simp) (.refl w)
  | startLogging | startLoggingWith | stopLogging | fatal =>
    exact .kept rfl rfl (by simp) ⟨rfl, fun _ => rfl⟩
  | count | kind | payload => exact .kept rfl rfl (by simp) (.inspect _ _ _)
  | setCount | write => exact .kept rfl rfl (by simp) (.amend _ _ fun _ => rfl)

end Supply

/-- **Every request asks the installed pair for storage once, gives one piece back to it, replaces
it, or has nothing to do with storage**: the list in `Supply` is complete. -/
theorem perform_supply (w : World κ) (request : Request κ) :
    Supply w request (w.perform request).1 := by
  cases request with
  | on i op =>
    cases hrt : w.runtimes[i]? with
    | some rt =>
      rw [perform_on hrt]
      exact .operate hrt op
    | none =>
      have hdemand : (Request.on i op).demand w = none := by
        cases op <;> simp [Request.demand, hrt]
      have hsurrenders : (Request.on i op).surrenders w = false := by
        cases op with
        | release object => cases object <;> simp [Request.surrenders, hrt]
        | _ => rfl
      rw [perform_on_none hrt]
      exact .kept hdemand hsurrenders (by simp) (.refl w)
  | query i query =>
    refine .kept rfl rfl (by simp) ?_
    simp only [perform]
    cases w.runtimes[i]? <;> exact .refl w
  | handle op => exact .kept rfl rfl (by simp) (.operateHandle w op)
  | foreign call => exact .call w call
  | service service => exact .serve w service

theorem installed_perform (w : World κ) {request : Request κ}
    (h : ∀ pair, request ≠ .service (.install pair)) :
    (w.perform request).1.allocator.installed = w.allocator.installed := by
  cases w.perform_supply request with
  | kept _ _ _ hsame => rw [hsame.allocator]
  | asked _ _ _ hasked => rw [hasked.allocator, Allocator.installed_allocate]
  | returned _ _ _ hback =>
    rw [hback.allocator]
    rfl
  | installed pair hpair => exact absurd hpair (h pair)

end World

end ObjectRuntime
