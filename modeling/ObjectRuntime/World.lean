import ObjectRuntime.Allocator
import ObjectRuntime.Journal
import ObjectRuntime.Registry
import ObjectRuntime.Settings
/-!
# The world

All that the operations of the runtime work on: the heap and the allocator that all runtimes share,
each `Runtime` with its own registry and cap, the handles that hosts hold, and the journal.
-/

namespace ObjectRuntime

/-- What belongs to one runtime alone; its nil is on the heap under its own number. -/
structure Runtime (κ : Type) where
  registry : Registry κ
  cap : DepthCap

/-- A counted reference that a host holds through one runtime. -/
structure Handle where
  object : Ref
  runtime : RuntimeId
  /-- Whether the handle was neither dropped nor turned back into a pointer. -/
  held : Bool := true
  deriving DecidableEq, Repr

/-- The number of a handle, in order of creation. -/
abbrev HandleId := Nat

/-- What the operations work on. -/
structure World (κ : Type) where
  heap : Heap κ := ∅
  allocator : Allocator := {}
  journal : Journal κ := ∅
  runtimes : Array (Runtime κ) := #[]
  handles : Array Handle := #[]
  shared : Option RuntimeId := none
  settings : Settings := {}
  /-- The filter that the environment puts in place of the log level. -/
  filter : Option Filter := none
  /-- What storage holds when it is served: by how many pieces were served up to then, and by the
  place in it. -/
  content : Nat → Nat → UInt8 := fun _ _ => 0xAB

/-- Storage whose bytes are zero from `start` on for so many places, and otherwise stay. -/
def zeroFrom (start n : Nat) (storage : Nat → UInt8) : Nat → UInt8 := fun place =>
  if start ≤ place ∧ place < start + n then 0 else storage place

namespace World

variable {κ : Type}

def emit (w : World κ) (e : Event κ) : World κ := { w with journal := w.journal.emit e }

/-! ## Storage -/

/-- The size of the header that every object starts with. -/
def headerSize : Nat := 16

/-- The size of a function object: the header and a code pointer. -/
def functionSize : Nat := 24

/-- Asks the installed pair for storage, which is to have this address; also says whether the
request was served. -/
def allocate (w : World κ) (size : UInt64) (address : Address) : World κ × Bool :=
  match w.allocator.allocate size with
  | (allocator, true) => ({ w with allocator }.emit (.allocation size.toNat address), true)
  | (allocator, false) => ({ w with allocator }, false)

def giveBack (w : World κ) (address : Address) : World κ :=
  let w := w.emit (.deallocation address)
  { w with allocator := w.allocator.release, heap := w.heap.release address }

/-- Gives the storage of an object back; nothing if it was given back before. -/
def freeObject (w : World κ) (r : Ref) : Option (World κ) :=
  (w.heap.live? r).map fun _ => (w.emit (.objectFree r)).giveBack (.object r)

/-- Gives a raw block back; nothing if it was given back before. -/
def freeBlock (w : World κ) (b : BlockId) : Option (World κ) :=
  if w.heap.liveBlock b then some (w.giveBack (.block b)) else none

def allocateBlock (w : World κ) (size : UInt64) : World κ × Option BlockId :=
  let block := w.heap.nextBlock
  match w.allocate size (.block block) with
  | (w, true) => ({ w with heap := w.heap.addBlock }, some block)
  | (w, false) => (w, none)

/-! ## Objects -/

/-- What follows the header in the storage that was served last, once the payload is zeroed. -/
def freshPayload (w : World κ) (payload : Nat) : Array UInt8 :=
  let storage := zeroFrom headerSize payload (w.content w.allocator.total)
  Array.ofFn fun place : Fin payload => storage (headerSize + place)

theorem freshPayload_eq (w : World κ) (payload : Nat) :
    w.freshPayload payload = Array.replicate payload 0 := by
  refine Array.ext (by rw [freshPayload, Array.size_ofFn, Array.size_replicate]) fun j hj _ => ?_
  rw [freshPayload, Array.size_ofFn] at hj
  simp only [freshPayload, Array.getElem_ofFn, Array.getElem_replicate, zeroFrom]
  rw [if_pos (by omega)]

/-- Makes an object with a payload of zero bytes, whether or not its kind is registered. -/
def createObject (w : World κ) (kind : KindId) (payload : UInt64) :
    World κ × Except Failure Ref :=
  let size := headerSize + payload.toNat
  if size < UInt64.size then
    let object := w.heap.nextObject
    match w.allocate (UInt64.ofNat size) (.object object) with
    | (w, true) =>
      let cell := { kind, body := .payload (w.freshPayload payload.toNat) }
      let w := { w with heap := w.heap.addObject cell }
      (w.emit (.objectNew kind size object), .ok object)
    | (w, false) => (w, .error (.allocationFailed (UInt64.ofNat size)))
  else (w, .error (.allocationFailed (UInt64.ofNat (UInt64.size - 1))))

/-- Makes a function object that wraps host code. -/
def createFunction (w : World κ) (code : κ) : World κ × Except Failure Ref :=
  let object := w.heap.nextObject
  match w.allocate (UInt64.ofNat functionSize) (.object object) with
  | (w, true) =>
    ({ w with heap := w.heap.addObject { kind := functionKind, body := .code code } }, .ok object)
  | (w, false) => (w, .error (.allocationFailed (UInt64.ofNat functionSize)))

/-- Adds one to the count of an object; nothing if its storage was given back. -/
def retain (w : World κ) (r : Ref) : Option (World κ) :=
  (w.heap.live? r).map fun _ => { w with heap := w.heap.addCount r 1 }

/-! ## Runtimes -/

/-- Starts a runtime with the built-in kinds and a nil of its own. -/
def startRuntime (w : World κ) (cap : DepthCap) : World κ × Except Failure RuntimeId :=
  let w := (w.emit (.kindRegistered nilKind)).emit (.kindRegistered functionKind)
  let nil := w.heap.nextNil
  match w.allocate (UInt64.ofNat headerSize) (.object nil) with
  | (w, true) =>
    let w := { w with heap := w.heap.addNil { kind := nilKind, body := .nothing } }
    let registry := Registry.builtin
    let w := (w.emit (.builtinsRegistered nil)).emit (.bootstrapped registry.size cap)
    ({ w with runtimes := w.runtimes.push { registry, cap } }, .ok w.runtimes.size)
  | (w, false) => (w, .error (.allocationFailed (UInt64.ofNat headerSize)))

/-- The runtime behind the C interface, started if nothing needed it before. -/
def sharedRuntime (w : World κ) : World κ × Except Failure RuntimeId :=
  match w.shared with
  | some i => (w, .ok i)
  | none =>
    match w.startRuntime w.settings.maxCallDepth with
    | (w, .ok i) => ({ w with shared := some i }, .ok i)
    | (w, .error e) => (w, .error e)

/-- Changes the registry of a runtime. -/
def setRegistry (w : World κ) (i : RuntimeId) (registry : Registry κ) : World κ :=
  { w with runtimes := w.runtimes.modify i ({ · with registry }) }

/-! ## Handles -/

/-- Records a new handle; also says which it is. -/
def addHandle (w : World κ) (object : Ref) (runtime : RuntimeId) : World κ × HandleId :=
  ({ w with handles := w.handles.push { object, runtime } }, w.handles.size)

/-- A handle that is still held. -/
def handle? (w : World κ) (h : HandleId) : Option Handle := w.handles[h]?.filter (·.held)

def endHandle (w : World κ) (h : HandleId) : World κ :=
  { w with handles := w.handles.modify h ({ · with held := false }) }

/-! ## What these leave alone -/

@[simp] theorem heap_emit (w : World κ) (e : Event κ) : (w.emit e).heap = w.heap := rfl

@[simp] theorem runtimes_emit (w : World κ) (e : Event κ) :
    (w.emit e).runtimes = w.runtimes := rfl

@[simp] theorem handles_emit (w : World κ) (e : Event κ) : (w.emit e).handles = w.handles := rfl

@[simp] theorem shared_emit (w : World κ) (e : Event κ) : (w.emit e).shared = w.shared := rfl

theorem allocate_frame (w : World κ) (size : UInt64) (a : Address) :
    ∃ allocator journal, (w.allocate size a).1 = { w with allocator, journal } := by
  unfold allocate
  split
  · exact ⟨_, _, rfl⟩
  · exact ⟨_, _, rfl⟩

theorem allocate_eq (w : World κ) (size : UInt64) (a : Address) :
    ∃ journal, w.allocate size a =
      ({ w with allocator := (w.allocator.allocate size).1, journal },
        (w.allocator.allocate size).2) := by
  unfold allocate
  rcases w.allocator.allocate size with ⟨allocator, _ | _⟩
  · exact ⟨_, rfl⟩
  · exact ⟨_, rfl⟩

theorem startRuntime_eq (w : World κ) (cap : DepthCap) :
    ∃ journal, w.startRuntime cap =
      if (w.allocator.allocate (UInt64.ofNat headerSize)).2 then
        ({ w with
            heap := w.heap.addNil { kind := nilKind, body := .nothing }
            allocator := (w.allocator.allocate (UInt64.ofNat headerSize)).1
            runtimes := w.runtimes.push { registry := .builtin, cap }
            journal }, .ok w.runtimes.size)
      else
        ({ w with allocator := (w.allocator.allocate (UInt64.ofNat headerSize)).1, journal },
          .error (.allocationFailed (UInt64.ofNat headerSize))) := by
  obtain ⟨journal, h⟩ :=
    ((w.emit (.kindRegistered nilKind)).emit (.kindRegistered functionKind)).allocate_eq
      (UInt64.ofNat headerSize) (.object w.heap.nextNil)
  have hallocator : ((w.emit (.kindRegistered nilKind)).emit
    (.kindRegistered functionKind)).allocator = w.allocator := rfl
  rw [hallocator] at h
  simp only [startRuntime, heap_emit]
  rw [h]
  cases (w.allocator.allocate (UInt64.ofNat headerSize)).2 with
  | true => exact ⟨_, rfl⟩
  | false => exact ⟨_, rfl⟩

@[simp] theorem heap_setRegistry (w : World κ) (i : RuntimeId) (g : Registry κ) :
    (w.setRegistry i g).heap = w.heap := rfl

theorem runtimes_setRegistry (w : World κ) {i j : RuntimeId} {g : Registry κ} {rt : Runtime κ}
    (h : (w.setRegistry i g).runtimes[j]? = some rt) :
    (j = i ∧ rt.registry = g) ∨ w.runtimes[j]? = some rt := by
  simp only [setRegistry, Array.getElem?_modify] at h
  split at h
  next hij =>
    obtain ⟨rt, -, rfl⟩ := Option.map_eq_some_iff.1 h
    exact .inl ⟨hij.symm, rfl⟩
  · exact .inr h

@[simp] theorem heap_addHandle (w : World κ) (r : Ref) (i : RuntimeId) :
    (w.addHandle r i).1.heap = w.heap := rfl

@[simp] theorem heap_endHandle (w : World κ) (h : HandleId) :
    (w.endHandle h).heap = w.heap := rfl

/-! ## What these do when they succeed -/

theorem retain_eq_some_iff {w w' : World κ} {r : Ref} :
    w.retain r = some w' ↔ ∃ c, w.heap.live? r = some c ∧
      w' = { w with heap := w.heap.addCount r 1 } := by
  unfold retain
  cases w.heap.live? r <;> simp [eq_comm]

theorem freeObject_eq_some_iff {w w' : World κ} {r : Ref} :
    w.freeObject r = some w' ↔ ∃ c, w.heap.live? r = some c ∧
      w' = (w.emit (.objectFree r)).giveBack (.object r) := by
  unfold freeObject
  cases w.heap.live? r <;> simp [eq_comm]

@[simp] theorem heap_giveBack (w : World κ) (a : Address) :
    (w.giveBack a).heap = w.heap.release a := rfl

theorem createObject_cases (w : World κ) (kind : KindId) (payload : UInt64) :
    (w.createObject kind payload).1.runtimes = w.runtimes ∧
      ((∃ e, (w.createObject kind payload).2 = .error e ∧
          (w.createObject kind payload).1.heap = w.heap) ∨
        (w.createObject kind payload).2 = .ok w.heap.nextObject ∧
          (w.createObject kind payload).1.heap =
            w.heap.addObject { kind, body := .payload (Array.replicate payload.toNat 0) }) := by
  simp only [createObject, freshPayload_eq]
  split
  · obtain ⟨_, _, hw⟩ := w.allocate_frame (UInt64.ofNat (headerSize + payload.toNat))
      (.object w.heap.nextObject)
    rcases ha : w.allocate (UInt64.ofNat (headerSize + payload.toNat))
      (.object w.heap.nextObject) with ⟨w', _ | _⟩
    · exact ⟨by simp_all, .inl ⟨_, rfl, by simp_all⟩⟩
    · exact ⟨by simp_all, .inr ⟨rfl, by simp_all⟩⟩
  · exact ⟨rfl, .inl ⟨_, rfl, rfl⟩⟩

theorem createFunction_cases (w : World κ) (code : κ) :
    (w.createFunction code).1.runtimes = w.runtimes ∧
      ((∃ e, (w.createFunction code).2 = .error e ∧ (w.createFunction code).1.heap = w.heap) ∨
        (w.createFunction code).2 = .ok w.heap.nextObject ∧
          (w.createFunction code).1.heap =
            w.heap.addObject { kind := functionKind, body := .code code }) := by
  simp only [createFunction]
  obtain ⟨_, _, hw⟩ := w.allocate_frame (UInt64.ofNat functionSize) (.object w.heap.nextObject)
  rcases ha : w.allocate (UInt64.ofNat functionSize) (.object w.heap.nextObject) with ⟨w', _ | _⟩
  · exact ⟨by simp_all, .inl ⟨_, rfl, by simp_all⟩⟩
  · exact ⟨by simp_all, .inr ⟨rfl, by simp_all⟩⟩

theorem startRuntime_cases (w : World κ) (cap : DepthCap) :
    (∃ e, (w.startRuntime cap).2 = .error e ∧ (w.startRuntime cap).1.heap = w.heap ∧
        (w.startRuntime cap).1.runtimes = w.runtimes) ∨
      (w.startRuntime cap).2 = .ok w.runtimes.size ∧
        (w.startRuntime cap).1.heap = w.heap.addNil { kind := nilKind, body := .nothing } ∧
        (w.startRuntime cap).1.runtimes = w.runtimes.push { registry := .builtin, cap } := by
  simp only [startRuntime]
  generalize he : (w.emit (.kindRegistered nilKind)).emit (.kindRegistered functionKind) = w₀
  have hheap : w₀.heap = w.heap := by subst he; rfl
  have hruntimes : w₀.runtimes = w.runtimes := by subst he; rfl
  obtain ⟨_, _, hw⟩ := w₀.allocate_frame (UInt64.ofNat headerSize) (.object w₀.heap.nextNil)
  rcases ha : w₀.allocate (UInt64.ofNat headerSize) (.object w₀.heap.nextNil) with ⟨w', _ | _⟩
  · exact .inl ⟨_, rfl, by simp_all, by simp_all⟩
  · exact .inr ⟨by simp_all, by simp_all, by simp_all⟩

theorem sharedRuntime_cases (w : World κ) :
    (∃ i, w.shared = some i ∧ w.sharedRuntime = (w, .ok i)) ∨
      w.shared = none ∧ ((∃ e, w.sharedRuntime.2 = .error e ∧
          w.sharedRuntime.1.heap = w.heap ∧ w.sharedRuntime.1.runtimes = w.runtimes) ∨
        w.sharedRuntime.2 = .ok w.runtimes.size ∧
          w.sharedRuntime.1.heap = w.heap.addNil { kind := nilKind, body := .nothing } ∧
          w.sharedRuntime.1.runtimes =
            w.runtimes.push { registry := .builtin, cap := w.settings.maxCallDepth }) := by
  unfold sharedRuntime
  cases hs : w.shared with
  | some i => exact .inl ⟨i, rfl, rfl⟩
  | none =>
    refine .inr ⟨rfl, ?_⟩
    rcases w.startRuntime_cases w.settings.maxCallDepth with ⟨e, he, h⟩ | ⟨hi, h⟩
    · left
      generalize w.startRuntime w.settings.maxCallDepth = started at he h
      obtain ⟨w', _ | _⟩ := started <;> cases he
      exact ⟨e, rfl, h⟩
    · right
      generalize w.startRuntime w.settings.maxCallDepth = started at hi h
      obtain ⟨w', _ | _⟩ := started <;> cases hi
      exact ⟨rfl, h⟩

end World

end ObjectRuntime
