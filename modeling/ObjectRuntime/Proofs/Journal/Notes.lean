import ObjectRuntime.Proofs.Storage.Supply
import ObjectRuntime.Proofs.Turns
/-!
# What bears on the journal

Events are emitted from many places, some before and some after the change that they report, and
logging is initialised and shut down in between.  `Request.notes` lists what a request adds to
this, in order, given how the request goes on; what was noted before has no part in it.  The list
is all that happens to the journal (`notes_run`), and it has one event for every piece of storage
that is served or given back.
-/

namespace ObjectRuntime

variable {κ σ φ : Type}

/-- Something that bears on the journal. -/
inductive Note (κ : Type) where
  | event (e : Event κ)
  /-- Logging is initialised with these settings, unless it was before. -/
  | opening (settings : LogSettings)
  /-- Logging is shut down. -/
  | closing

namespace Note

def event? : Note κ → Option (Event κ)
  | event e => some e
  | _ => none

@[simp] theorem event?_event (e : Event κ) : (event e).event? = some e := rfl

@[simp] theorem event?_opening (settings : LogSettings) :
    (opening settings : Note κ).event? = none := rfl

@[simp] theorem event?_closing : (closing : Note κ).event? = none := rfl

@[simp] theorem filterMap_event? (l : List (Event κ)) :
    (l.map Note.event).filterMap event? = l := by
  rw [List.filterMap_map]
  exact List.filterMap_some

end Note

/-- What a note does to a journal, where `override` is the filter of the environment. -/
def Journal.note (override : Option Filter) (j : Journal κ) : Note κ → Journal κ
  | .event e => j.emit e
  | .opening settings => j.start settings override
  | .closing => j.closeFile

namespace Event

/-- Whether storage was served. -/
def isAllocation : Event κ → Bool
  | allocation .. => true
  | _ => false

/-- Whether storage goes back. -/
def isDeallocation : Event κ → Bool
  | deallocation _ => true
  | _ => false

end Event

/-! ## What is noted, by how a request goes on -/

namespace Turn

/-- What is there only if an operation succeeded, or did so far and goes on with another request. -/
def onSuccess {α : Type} (turn : Turn κ) (l : List α) : List α :=
  match turn with
  | .done (.ok _) | .next _ _ => l
  | _ => []

@[simp] theorem onSuccess_nil {α : Type} (turn : Turn κ) : turn.onSuccess ([] : List α) = [] := by
  unfold onSuccess
  split <;> rfl

theorem filter_onSuccess {α : Type} (turn : Turn κ) (p : α → Bool) (l : List α) :
    (turn.onSuccess l).filter p = turn.onSuccess (l.filter p) := by
  unfold onSuccess
  split <;> rfl

theorem mem_of_mem_onSuccess {α : Type} {turn : Turn κ} {l : List α} {a : α}
    (h : a ∈ turn.onSuccess l) : a ∈ l := by
  unfold onSuccess at h
  split at h
  · exact h
  · exact h
  · cases h

/-- The object that an operation hands out. -/
def object? : Turn κ → Option Ref
  | .done (.ok (.object p)) => p
  | _ => none

/-- The raw block that an operation hands out. -/
def block? : Turn κ → Option BlockId
  | .done (.ok (.block b)) => b
  | _ => none

/-- What is noted when the process aborts: the reason, and that the log file is closed. -/
def lastWords : Turn κ → List (Note κ)
  | .halt (.aborted message) => [.event (.fatal message), .closing]
  | _ => []

@[simp] theorem lastWords_done (reply : Reply κ) : (done reply).lastWords = [] := rfl

@[simp] theorem lastWords_objectReply (object : Except Failure Ref) :
    (World.objectReply object : Turn κ).lastWords = [] := by
  cases object <;> rfl

@[simp] theorem lastWords_runtimeReply (started : Except Failure RuntimeId) :
    (World.runtimeReply started : Turn κ).lastWords = [] := by
  cases started <;> rfl

end Turn

theorem Turn.Fits.lastWords {op : Operation κ} {turn : Turn κ} (h : turn.Fits op) :
    turn.lastWords = [] := by
  unfold Turn.lastWords
  split
  next message => exact absurd rfl (h message)
  · rfl

/-- What the start of a runtime reports: its built-in kinds, and, if it succeeds, its nil and
itself. -/
def bootstrapping (nil : Ref) (cap : DepthCap) (turn : Turn κ) : List (Event κ) :=
  [.kindRegistered nilKind, .kindRegistered functionKind] ++
    turn.onSuccess [.allocation World.headerSize (.object nil), .builtinsRegistered nil,
      .bootstrapped (Registry.builtin (κ := κ)).size cap]

/-- What is reported of a new object. -/
def creation (kind : KindId) (payload : UInt64) (object : Ref) : List (Event κ) :=
  [.allocation (World.headerSize + payload.toNat) (.object object),
    .objectNew kind (World.headerSize + payload.toNat) object]

/-- What is reported where storage of an object goes back. -/
def reclamation (object : Ref) : List (Event κ) :=
  [.objectFree object, .deallocation (.object object)]

/-- What is reported when the last reference to an object of this kind goes away: that it is
destroyed, if the kind is registered, and what the stock destructor does. -/
def Registry.destruction (g : Registry κ) (kind : KindId) (object : Ref) : List (Event κ) :=
  match g.destructor kind with
  | .error _ => []
  | .ok (.native .stock) => .objectDestroy kind object :: reclamation object
  | .ok _ => [.objectDestroy kind object]

/-- What is reported when `name` is bound: its previous occupant, if it has one. -/
def Registry.overwriting (g : Registry κ) (kind : KindId) (name : String) : List (Event κ) :=
  match g.member kind name with
  | .error _ => []
  | .ok old => [.memberOverwrite kind name old]

theorem Registry.overwriting_of_error (g : Registry κ) {kind : KindId} {name : String} {r : Ref}
    {e : Failure} (h : g.setMember kind name r = .error e) : g.overwriting kind name = [] := by
  unfold setMember at h
  unfold overwriting member
  cases hd : g.find kind with
  | error e => rfl
  | ok d =>
    rw [hd] at h
    cases h

theorem Registry.overwriting_of_ok (g : Registry κ) {kind : KindId} {name : String} {r : Ref}
    {g' : Registry κ} {replaced : Option Ref} (h : g.setMember kind name r = .ok (g', replaced)) :
    g.overwriting kind name = replaced.toList.map (.memberOverwrite kind name) := by
  unfold setMember at h
  unfold overwriting member
  cases hd : g.find kind with
  | error e =>
    rw [hd] at h
    cases h
  | ok d =>
    rw [hd] at h
    cases h
    dsimp only
    cases d.members.get? name <;> rfl

/-- What an operation of a runtime reports, by how it goes on. -/
def Operation.reports (w : World κ) (rt : Runtime κ) (turn : Turn κ) :
    Operation κ → List (Event κ)
  | .register kind => turn.onSuccess [.kindRegistered kind]
  | .setDestructor kind slot => turn.onSuccess [.destructorAttached kind slot]
  | .setApply kind slot => turn.onSuccess [.applyAttached kind slot]
  | .setMember kind name (some _) => rt.registry.overwriting kind name
  | .newObject kind payload => turn.object?.elim [] (creation kind payload)
  | .release (some r) =>
    (w.heap.live? r).elim [] fun c =>
      if c.count = 1 then rt.registry.destruction c.kind r else []
  | .lookup (some r) name =>
    turn.onSuccess ((w.heap.live? r).elim [] fun c => [.lookup c.kind name])
  | .apply (some r) args =>
    match resolve w.heap rt.registry rt.hopBudget r 0 with
    | .land _ kind _ hops => [.apply kind args.length hops]
    | _ => []
  | .methodCall (some r) name args =>
    turn.onSuccess ((w.heap.live? r).elim [] fun c =>
      [.lookup c.kind name, .methodCall c.kind name args.length])
  | .setMember _ _ none | .nil | .retain _ | .release none | .lookup none _ | .apply none _
  | .methodCall none _ _ => []

/-- What the first request for the shared runtime reports. -/
def World.sharedReports (w : World κ) (turn : Turn κ) : List (Event κ) :=
  if w.shared.isNone then bootstrapping w.heap.nextNil w.settings.maxCallDepth turn else []

/-- That a call through the C interface is an application, if it can be decoded. -/
def ForeignCall.announcement : ForeignCall κ → List (Event κ)
  | .apply _ args =>
    match args.decode with
    | .ok args => [.foreignCall "obj_apply" args.length]
    | .error _ => []
  | .methodCall _ name args =>
    match name.decode, args.decode with
    | .ok _, .ok args => [.foreignCall "obj_method_call" args.length]
    | _, _ => []
  | _ => []

/-- What a call through the C interface does about logging. -/
def ForeignCall.logging (w : World κ) (turn : Turn κ) : ForeignCall κ → List (Note κ)
  | .startUp => turn.onSuccess [.opening w.settings.log, .event .initialized]
  | .cleanup => [.event .shutdown, .closing]
  | _ => []

def ForeignCall.notes (w : World κ) (turn : Turn κ) (call : ForeignCall κ) : List (Note κ) :=
  (call.announcement ++ if call.needsRuntime then w.sharedReports turn else []).map .event ++
    call.logging w turn

def Service.notes (w : World κ) (turn : Turn κ) : Service κ → List (Note κ)
  | .startRuntime cap => (bootstrapping w.heap.nextNil cap turn).map .event
  | .sharedRuntime => (w.sharedReports turn).map .event
  | .createObject tag size => (turn.object?.elim [] (creation tag size)).map .event
  | .createFunction _ =>
    turn.object?.elim [] fun r => [.event (.allocation World.functionSize (.object r))]
  | .freeObject (some r) => turn.onSuccess ((reclamation r).map .event)
  | .allocate size => turn.block?.elim [] fun b => [.event (.allocation size.toNat (.block b))]
  | .freeBlock (some b) => turn.onSuccess [.event (.deallocation (.block b))]
  | .install _ => [.event .allocatorReplaced]
  | .startLogging => [.opening w.settings.log]
  | .startLoggingWith settings => [.opening settings]
  | .stopLogging => [.closing]
  | _ => []

/-- What a request notes that goes on like this, other than that the process aborts. -/
def Request.ownNotes (w : World κ) (turn : Turn κ) : Request κ → List (Note κ)
  | .on i op => (w.runtimes[i]?.elim [] fun rt => op.reports w rt turn).map .event
  | .query _ _ | .handle _ => []
  | .foreign call => call.notes w turn
  | .service asked => asked.notes w turn

/-- What a request notes that goes on like this. -/
def Request.notes (w : World κ) (turn : Turn κ) (request : Request κ) : List (Note κ) :=
  request.ownNotes w turn ++ turn.lastWords

/-! ## The journal and the counters follow the notes -/

namespace World

/-- All that bore on the journal from one world to another, in order.  It says what was served and
what was given back. -/
structure Notes (w : World κ) (notes : List (Note κ)) (v : World κ) : Prop where
  journal : v.journal = notes.foldl (Journal.note w.filter) w.journal
  served : v.allocator.total =
    w.allocator.total + (notes.filterMap (·.event?)).countP (·.isAllocation)
  returned : v.heap.givenBack =
    w.heap.givenBack + (notes.filterMap (·.event?)).countP (·.isDeallocation)
  filter : v.filter = w.filter
  settings : v.settings = w.settings

namespace Notes

variable {w v u : World κ} {l l' : List (Note κ)}

theorem refl (w : World κ) : w.Notes [] w := ⟨rfl, rfl, rfl, rfl, rfl⟩

theorem trans (h : w.Notes l v) (h' : v.Notes l' u) : w.Notes (l ++ l') u where
  journal := by rw [h'.journal, h.journal, h.filter, List.foldl_append]
  served := by
    rw [h'.served, h.served, List.filterMap_append, List.countP_append, Nat.add_assoc]
  returned := by
    rw [h'.returned, h.returned, List.filterMap_append, List.countP_append, Nat.add_assoc]
  filter := h'.filter.trans h.filter
  settings := h'.settings.trans h.settings

theorem emit (h : w.Notes l v) (e : Event κ) (hserved : e.isAllocation = false)
    (hreturned : e.isDeallocation = false) : w.Notes (l ++ [.event e]) (v.emit e) :=
  h.trans ⟨rfl, by simp [World.emit, hserved], by simp [hreturned], rfl, rfl⟩

theorem same (h : w.Notes l v) (hjournal : u.journal = v.journal)
    (hallocator : u.allocator = v.allocator) (hgone : u.heap.givenBack = v.heap.givenBack)
    (hfilter : u.filter = v.filter) (hsettings : u.settings = v.settings) : w.Notes l u where
  journal := hjournal.trans h.journal
  served := by rw [hallocator, h.served]
  returned := hgone.trans h.returned
  filter := hfilter.trans h.filter
  settings := hsettings.trans h.settings

/-! ## Storage and objects -/

theorem allocate {size : UInt64} {a : Address} {served : Bool}
    (h : w.allocate size a = (v, served)) :
    w.Notes (if served then [.event (.allocation size.toNat a)] else []) v := by
  have htotal := w.allocator.total_allocate size
  unfold World.allocate at h
  split at h
  next allocator ha =>
    rw [ha] at htotal
    cases h
    exact ⟨rfl, htotal, rfl, rfl, rfl⟩
  next allocator ha =>
    rw [ha] at htotal
    cases h
    exact ⟨rfl, htotal, rfl, rfl, rfl⟩

theorem retain {r : Ref} (h : w.Notes l v) (hretain : v.retain r = some u) : w.Notes l u := by
  obtain ⟨c, -, rfl⟩ := retain_eq_some_iff.1 hretain
  exact h.same rfl rfl (v.heap.pieces_addCount r 1 true) rfl rfl

theorem freeObject {r : Ref} (h : w.freeObject r = some v) :
    w.Notes ((reclamation r).map .event) v := by
  have hback := GaveBack.freeObject h
  obtain ⟨c, -, rfl⟩ := freeObject_eq_some_iff.1 h
  exact ⟨rfl, rfl, hback.givenBack, rfl, rfl⟩

theorem freeBlock {b : BlockId} (h : w.freeBlock b = some v) :
    w.Notes [.event (.deallocation (.block b))] v := by
  have hback := GaveBack.freeBlock h
  obtain ⟨-, h⟩ := Option.ite_none_right_eq_some.1 h
  cases h
  exact ⟨rfl, rfl, hback.givenBack, rfl, rfl⟩

theorem createObject (w : World κ) (kind : KindId) (payload : UInt64) :
    w.Notes (((objectReply (w.createObject kind payload).2 : Turn κ).object?.elim []
      (creation kind payload)).map .event) (w.createObject kind payload).1 := by
  simp only [World.createObject]
  split
  next hfits =>
    cases ha : w.allocate (UInt64.ofNat (headerSize + payload.toNat))
      (.object w.heap.nextObject) with
    | mk w' served =>
      have hnotes := allocate ha
      cases served with
      | true =>
        have hsize : (UInt64.ofNat (headerSize + payload.toNat)).toNat =
            headerSize + payload.toNat := UInt64.toNat_ofNat_of_lt hfits
        rw [if_pos rfl, hsize] at hnotes
        have hmade (body : Body κ) :
            w.Notes _ { w' with heap := w'.heap.addObject { kind, body } } :=
          hnotes.same rfl rfl (by simp [Heap.givenBack]) rfl rfl
        exact (hmade _).emit (.objectNew kind _ w.heap.nextObject) rfl rfl
      | false => exact hnotes
  · exact .refl w

theorem createFunction (w : World κ) (code : κ) :
    w.Notes ((objectReply (w.createFunction code).2 : Turn κ).object?.elim []
      fun r => [.event (.allocation functionSize (.object r))]) (w.createFunction code).1 := by
  simp only [World.createFunction]
  cases ha : w.allocate (UInt64.ofNat functionSize) (.object w.heap.nextObject) with
  | mk w' served =>
    cases served with
    | true => exact (allocate ha).same rfl rfl (by simp [Heap.givenBack]) rfl rfl
    | false => exact allocate ha

theorem allocateBlock (w : World κ) (size : UInt64) :
    w.Notes ((w.allocateBlock size).2.elim []
      fun b => [.event (.allocation size.toNat (.block b))]) (w.allocateBlock size).1 := by
  simp only [World.allocateBlock]
  cases ha : w.allocate size (.block w.heap.nextBlock) with
  | mk w' served =>
    cases served with
    | true => exact (allocate ha).same rfl rfl (by simp [Heap.givenBack]) rfl rfl
    | false => exact allocate ha

/-! ## Runtimes -/

theorem startRuntime (w : World κ) (cap : DepthCap) :
    w.Notes ((bootstrapping w.heap.nextNil cap (runtimeReply (w.startRuntime cap).2)).map .event)
      (w.startRuntime cap).1 := by
  -- The kinds are there, and reported, before it shows whether there is storage for nil.
  have hkinds := ((refl w).emit (.kindRegistered nilKind) rfl rfl).emit
    (.kindRegistered functionKind) rfl rfl
  simp only [World.startRuntime, heap_emit]
  cases ha : ((w.emit (.kindRegistered nilKind)).emit (.kindRegistered functionKind)).allocate
    (UInt64.ofNat headerSize) (.object w.heap.nextNil) with
  | mk w' served =>
    have hasked := hkinds.trans (allocate ha)
    cases served with
    | true =>
      have hmade := hasked.same (u := { w' with
        heap := w'.heap.addNil { kind := nilKind, body := .nothing } }) rfl rfl
          (by simp [Heap.givenBack]) rfl rfl
      have hreported := (hmade.emit (.builtinsRegistered w.heap.nextNil) rfl rfl).emit
        (.bootstrapped (Registry.builtin (κ := κ)).size cap) rfl rfl
      exact hreported.same rfl rfl rfl rfl rfl
    | false => exact hasked

/-- A fatal error is reported before the log file is closed. -/
theorem fatal (h : w.Notes l v) (message : String) :
    w.Notes (l ++ (v.fatal message).2.lastWords) (v.fatal message).1 := by
  have hreported := (refl v).emit (.fatal message) rfl rfl
  exact h.trans ⟨rfl, hreported.served, hreported.returned, rfl, rfl⟩

/-! ## Operations -/

theorem orFault_retain (w : World κ) (r : Ref) (reply : Reply κ) :
    w.Notes [] (w.orFault ((w.retain r).map (·, .done reply))).1 := by
  cases h : w.retain r with
  | none => exact .refl w
  | some v => exact (refl w).retain h

theorem writeRegistry (w : World κ) (i : RuntimeId) (e : Event κ)
    (change : Except Failure (Registry κ)) (hserved : e.isAllocation = false)
    (hreturned : e.isDeallocation = false) :
    w.Notes (((w.writeRegistry i e change).2.onSuccess [e]).map .event)
      (w.writeRegistry i e change).1 := by
  cases change with
  | ok g =>
    have hwritten : w.Notes [] (w.setRegistry i g) := (refl w).same rfl rfl rfl rfl rfl
    exact hwritten.emit e hserved hreturned
  | error e => exact .refl w

theorem setMember (w : World κ) (i : RuntimeId) (g : Registry κ) (kind : KindId) (name : String)
    (r : Ref) :
    w.Notes ((g.overwriting kind name).map .event) (w.setMember i g kind name (some r)).1 := by
  cases hg : g.setMember kind name r with
  | error e =>
    rw [g.overwriting_of_error hg]
    simp only [World.setMember, hg]
    exact .refl w
  | ok result =>
    obtain ⟨g', replaced⟩ := result
    have hbound : w.Notes ((g.overwriting kind name).map .event)
        ((w.setRegistry i g').reportOverwrite kind name replaced) := by
      have hwritten : w.Notes [] (w.setRegistry i g') := (refl w).same rfl rfl rfl rfl rfl
      rw [g.overwriting_of_ok hg]
      cases replaced with
      | none => exact hwritten
      | some old => exact hwritten.emit (.memberOverwrite kind name old) rfl rfl
    simp only [World.setMember, hg, orFault]
    cases hretain : ((w.setRegistry i g').reportOverwrite kind name replaced).retain r with
    | none => exact hbound
    | some v => exact hbound.retain hretain

theorem destroy (w : World κ) (i : RuntimeId) (g : Registry κ) (kind : KindId) {r : Ref}
    {c : Cell κ} (hc : w.heap.live? r = some c) :
    w.Notes ((g.destruction kind r).map .event) (w.destroy i g r kind).1 := by
  have hdestroy := (refl w).emit (.objectDestroy kind r) rfl rfl
  unfold World.destroy Registry.destruction
  cases g.destructor kind with
  | error e => exact .refl w
  | ok slot =>
    cases slot with
    | empty | closure => exact hdestroy
    | native entry =>
      cases entry with
      | host => exact hdestroy
      | stock =>
        have hfree : (w.emit (.objectDestroy kind r)).freeObject r =
            some (((w.emit (.objectDestroy kind r)).emit (.objectFree r)).giveBack (.object r)) :=
          freeObject_eq_some_iff.2 ⟨c, hc, rfl⟩
        simp only [hfree]
        exact hdestroy.trans (freeObject hfree)

theorem release (w : World κ) (i : RuntimeId) (g : Registry κ) (r : Ref) :
    w.Notes (((w.heap.live? r).elim [] fun c =>
      if c.count = 1 then g.destruction c.kind r else []).map .event) (w.release i g r).1 := by
  cases hc : w.heap.live? r with
  | none =>
    simp only [World.release, hc]
    exact .refl w
  | some c =>
    have hcount : w.Notes [] { w with heap := w.heap.addCount r (-1) } :=
      (refl w).same rfl rfl (w.heap.pieces_addCount r (-1) true) rfl rfl
    simp only [Option.elim_some]
    rcases Int.lt_trichotomy c.count 1 with hlt | hone | hgt
    · rw [release_of_le_zero hc (by omega), if_neg (by omega)]
      exact hcount
    · rw [release_of_eq_one hc hone, if_pos hone]
      exact hcount.trans (destroy _ i g c.kind (Heap.live?_addCount hc (-1)))
    · rw [release_of_one_lt hc hgt, if_neg (by omega)]
      exact hcount

theorem apply (w : World κ) (i : RuntimeId) (rt : Runtime κ) (r : Ref) (args : List Pointer)
    (turn : Turn κ) :
    w.Notes (((Operation.apply (some r) args).reports w rt turn).map .event)
      (w.apply i rt (some r) args).1 := by
  simp only [World.apply, Operation.reports]
  cases resolve w.heap rt.registry rt.hopBudget r 0 with
  | land receiver kind target hops => exact (refl w).emit (.apply kind args.length hops) rfl rfl
  | fail | exhausted | fault => exact .refl w

theorem lookup (w : World κ) (i : RuntimeId) (rt : Runtime κ) (r : Ref) (name : String) :
    w.Notes (((Operation.lookup (some r) name).reports w rt
      (w.operate i rt (.lookup (some r) name)).2).map .event)
      (w.operate i rt (.lookup (some r) name)).1 := by
  simp only [World.operate, Operation.reports]
  rcases w.lookup_cases rt.registry r name with h | ⟨c, hc, ⟨e, -, h⟩ | ⟨member, v, -, hretain, h⟩⟩
  · rw [h]
    exact .refl w
  · rw [h]
    exact .refl w
  · rw [h, hc]
    exact ((refl w).retain hretain).emit (.lookup c.kind name) rfl rfl

theorem methodCall (w : World κ) (i : RuntimeId) (rt : Runtime κ) (object : Pointer)
    (name : String) (args : List Pointer) :
    w.Notes (((Operation.methodCall object name args).reports w rt
      (w.methodCall i rt.registry object name args).2).map .event)
      (w.methodCall i rt.registry object name args).1 := by
  rcases w.methodCall_cases i rt.registry object name args with h | ⟨e, h⟩ |
    ⟨r, c, method, w', rfl, hc, -, hretain, h⟩
  · rw [h]
    cases object <;> exact .refl w
  · rw [h]
    cases object <;> exact .refl w
  · rw [h]
    simp only [Operation.reports, hc]
    exact (((refl w).retain hretain).emit (.lookup c.kind name) rfl rfl).emit
      (.methodCall c.kind name args.length) rfl rfl

theorem operate (w : World κ) (i : RuntimeId) (rt : Runtime κ) (op : Operation κ) :
    w.Notes ((op.reports w rt (w.operate i rt op).2).map .event) (w.operate i rt op).1 := by
  cases op with
  | register | setDestructor | setApply => exact writeRegistry w i _ _ rfl rfl
  | setMember kind name value =>
    cases value with
    | none => exact .refl w
    | some r => exact setMember w i rt.registry kind name r
  | newObject kind payload =>
    simp only [World.operate]
    split
    · exact createObject w kind payload
    · exact .refl w
  | nil => exact orFault_retain w _ _
  | retain object =>
    cases object with
    | none => exact .refl w
    | some r => exact orFault_retain w r _
  | release object =>
    cases object with
    | none => exact .refl w
    | some r => exact release w i rt.registry r
  | lookup object name =>
    cases object with
    | none => exact .refl w
    | some r => exact lookup w i rt r name
  | apply callee args =>
    cases callee with
    | none => exact .refl w
    | some r => exact apply w i rt r args _
  | methodCall object name args => exact methodCall w i rt object name args

/-! ## The C interface -/

theorem sharedRuntime (w : World κ) :
    w.Notes ((w.sharedReports (runtimeReply w.sharedRuntime.2)).map .event) w.sharedRuntime.1 := by
  unfold sharedReports
  cases hshared : w.shared with
  | some i =>
    rw [sharedRuntime_of_some hshared]
    exact .refl w
  | none =>
    have hstart := startRuntime w w.settings.maxCallDepth
    simp only [World.sharedRuntime, hshared]
    generalize w.startRuntime w.settings.maxCallDepth = started at hstart
    obtain ⟨w', e | i⟩ := started
    · exact hstart
    · exact hstart.same rfl rfl rfl rfl rfl

theorem startLogging (h : w.Notes l v) (settings : LogSettings) :
    w.Notes (l ++ [.opening settings]) (v.startLogging settings) :=
  h.trans ⟨rfl, rfl, rfl, rfl, rfl⟩

theorem stopLogging (h : w.Notes l v) : w.Notes (l ++ [.closing]) v.stopLogging :=
  h.trans ⟨rfl, rfl, rfl, rfl, rfl⟩

theorem onShared (w : World κ) (op : Operation κ) :
    w.Notes ((w.sharedReports (w.onShared op).2).map .event ++ (w.onShared op).2.lastWords)
      (w.onShared op).1 := by
  have hshared := sharedRuntime w
  rcases w.onShared_cases op with ⟨i, hi, h⟩ | ⟨e, he, h⟩
  · rw [hi] at hshared
    rw [h]
    exact (List.append_nil _).symm ▸ hshared
  · rw [he] at hshared
    rw [h]
    exact hshared.fatal e.message

theorem announced (w : World κ) (e : Event κ) (op : Operation κ) (hserved : e.isAllocation = false)
    (hreturned : e.isDeallocation = false) :
    w.Notes ((e :: w.sharedReports ((w.emit e).onShared op).2).map .event ++
      ((w.emit e).onShared op).2.lastWords) ((w.emit e).onShared op).1 :=
  ((refl w).emit e hserved hreturned).trans (onShared (w.emit e) op)

theorem onSharedWith {α : Type} (w : World κ) (decoded : Except Failure α)
    (op : α → Operation κ) :
    w.Notes ((if decoded.isOk then w.sharedReports (w.onSharedWith decoded op).2 else []).map
      .event ++ (w.onSharedWith decoded op).2.lastWords) (w.onSharedWith decoded op).1 := by
  cases decoded with
  | ok a => exact onShared w (op a)
  | error e => exact (refl w).fatal e.message

theorem inspect (w : World κ) (r : Ref) (f : Cell κ → Value κ) :
    w.Notes (w.inspect r f).2.lastWords (w.inspect r f).1 := by
  unfold World.inspect
  cases w.heap.live? r <;> exact .refl w

theorem call (w : World κ) (call : ForeignCall κ) :
    w.Notes (call.notes w (w.call call).2 ++ (w.call call).2.lastWords) (w.call call).1 := by
  unfold ForeignCall.notes
  cases call with
  | register | setDestructor | setApply | newObject | nil | retain | release =>
    simp only [ForeignCall.logging, List.append_nil]
    exact onShared w _
  | setMember kind name value =>
    simp only [ForeignCall.logging, List.append_nil]
    exact onSharedWith w name.decode (.setMember kind · value)
  | lookup object name =>
    simp only [ForeignCall.logging, List.append_nil]
    exact onSharedWith w name.decode (.lookup object)
  | apply callee args =>
    cases hargs : args.decode with
    | error e =>
      simp only [World.call, ForeignCall.announcement, ForeignCall.needsRuntime,
        ForeignCall.logging, hargs]
      exact (refl w).fatal e.message
    | ok args =>
      simp only [World.call, ForeignCall.announcement, ForeignCall.needsRuntime,
        ForeignCall.logging, hargs, List.append_nil]
      exact announced w _ _ rfl rfl
  | methodCall object name args =>
    cases hname : name.decode with
    | error e =>
      simp only [World.call, ForeignCall.announcement, ForeignCall.needsRuntime,
        ForeignCall.logging, hname]
      exact (refl w).fatal e.message
    | ok name =>
      cases hargs : args.decode with
      | error e =>
        simp only [World.call, ForeignCall.announcement, ForeignCall.needsRuntime,
          ForeignCall.logging, hname, hargs]
        exact (refl w).fatal e.message
      | ok args =>
        simp only [World.call, ForeignCall.announcement, ForeignCall.needsRuntime,
          ForeignCall.logging, hname, hargs, List.append_nil]
        exact announced w _ _ rfl rfl
  | createFunction entry =>
    cases entry with
    | none => exact (refl w).fatal _
    | some code => exact .refl w
  | count object | kind object =>
    cases object with
    | none => exact .refl w
    | some r => exact inspect w r _
  | panic message => cases message <;> exact (refl w).fatal _
  | startUp =>
    have hshared := sharedRuntime w
    simp only [World.call]
    generalize w.sharedRuntime = started at hshared
    obtain ⟨v, e | i⟩ := started
    · show w.Notes ((w.sharedReports (.halt (.aborted e.message))).map .event ++ [] ++
        [.event (.fatal e.message), .closing]) (v.fatal e.message).1
      rw [List.append_nil]
      exact hshared.fatal e.message
    · show w.Notes ((w.sharedReports (.done (.ok .unit))).map .event ++
        [.opening w.settings.log, .event .initialized] ++ [])
        ((v.startLogging v.settings.log).emit .initialized)
      have hopened := (hshared.startLogging w.settings.log).emit .initialized rfl rfl
      rw [List.append_assoc] at hopened
      rw [List.append_nil, hshared.settings]
      exact hopened
  | cleanup => exact ((refl w).emit .shutdown rfl rfl).stopLogging

/-! ## Services and requests -/

theorem amend (w : World κ) (r : Ref) {f : Cell κ → Cell κ}
    (hf : ∀ c, (f c).released = c.released) :
    w.Notes (w.amend r f).2.lastWords (w.amend r f).1 := by
  unfold World.amend
  cases w.heap.live? r with
  | none => exact .refl w
  | some c => exact (refl w).same rfl rfl (w.heap.pieces_update_of_released r hf true) rfl rfl

theorem serve (w : World κ) (service : Service κ) :
    w.Notes (service.notes w (w.serve service).2 ++ (w.serve service).2.lastWords)
      (w.serve service).1 := by
  cases service with
  | startRuntime cap =>
    simp only [World.serve, Service.notes, Turn.lastWords_runtimeReply, List.append_nil]
    exact startRuntime w cap
  | sharedRuntime =>
    have hshared := sharedRuntime w
    simp only [World.serve, Service.notes]
    generalize w.sharedRuntime = started at hshared
    obtain ⟨v, e | i⟩ := started
    · exact hshared.fatal e.message
    · simp only [Turn.lastWords_done, List.append_nil]
      exact hshared
  | createObject kind payload =>
    simp only [World.serve, Service.notes, Turn.lastWords_objectReply, List.append_nil]
    exact createObject w kind payload
  | createFunction code =>
    simp only [World.serve, Service.notes, Turn.lastWords_objectReply, List.append_nil]
    exact createFunction w code
  | freeObject object =>
    cases object with
    | none => exact .refl w
    | some r =>
      simp only [World.serve, orFault]
      cases hfree : w.freeObject r with
      | none => exact .refl w
      | some v => exact freeObject hfree
  | allocate size =>
    simp only [World.serve, Service.notes, Turn.lastWords_done, List.append_nil]
    exact allocateBlock w size
  | freeBlock block =>
    cases block with
    | none => exact .refl w
    | some b =>
      simp only [World.serve, orFault]
      cases hfree : w.freeBlock b with
      | none => exact .refl w
      | some v => exact freeBlock hfree
  | install pair => exact ⟨rfl, rfl, rfl, rfl, rfl⟩
  | startLogging => exact (refl w).startLogging _
  | startLoggingWith settings => exact (refl w).startLogging settings
  | stopLogging => exact (refl w).stopLogging
  | fatal message => exact (refl w).fatal message
  | requireRuntime | installed | traffic | loggingStarted | isReleased => exact .refl w
  | count r | kind r | payload r => exact inspect w r _
  | setCount r n => exact amend w r fun _ => rfl
  | write r start bytes => exact amend w r fun _ => rfl

theorem operateHandle (w : World κ) (op : HandleOperation) :
    w.Notes (w.operateHandle op).2.lastWords (w.operateHandle op).1 := by
  have hborrow (i : RuntimeId) (r : Ref) :
      w.Notes (w.borrow i r).2.lastWords (w.borrow i r).1 := by
    unfold World.borrow
    cases h : w.retain r with
    | none => exact .refl w
    | some v => exact ((refl w).retain h).same rfl rfl rfl rfl rfl
  cases op with
  | adopt i object =>
    cases object with
    | none => exact .refl w
    | some r => exact (refl w).same rfl rfl rfl rfl rfl
  | borrow i object =>
    cases object with
    | none => exact .refl w
    | some r => exact hborrow i r
  | nil i => exact hborrow i _
  | clone h =>
    simp only [World.operateHandle]
    cases w.handle? h with
    | none => exact .refl w
    | some handle => exact hborrow _ _
  | object h | runtime h | drop h | intoPointer h | lookup h name =>
    simp only [World.operateHandle]
    cases w.handle? h <;> exact (refl w).same rfl rfl rfl rfl rfl
  | call h args | methodCall h name args =>
    simp only [World.operateHandle]
    cases w.handle? h <;> cases w.handleArgs args <;> exact .refl w

/-- **All that a request does to the journal is to note `Request.notes`**, and it reports what it
does to the counters. -/
theorem perform (w : World κ) (request : Request κ) :
    w.Notes (request.notes w (w.perform request).2) (w.perform request).1 := by
  cases request with
  | on i op =>
    simp only [World.perform, Request.notes, Request.ownNotes]
    cases w.runtimes[i]? with
    | none => exact .refl w
    | some rt =>
      rw [(w.operate_fits i rt op).lastWords, List.append_nil]
      exact operate w i rt op
  | query i query =>
    simp only [World.perform]
    cases w.runtimes[i]? <;> exact .refl w
  | handle op => exact operateHandle w op
  | foreign asked => exact call w asked
  | service asked => exact serve w asked

theorem resume (w : World κ) (reply : Reply κ) (p : Pending κ) :
    w.Notes (w.resume reply p).2.lastWords (w.resume reply p).1 := by
  cases p with
  | releaseMethod i method => exact .refl w
  | keep kept => cases reply <;> exact .refl w
  | adopt i operation =>
    unfold World.resume
    dsimp only
    split
    · exact (refl w).same rfl rfl rfl rfl rfl
    · exact .refl w
    · exact .refl w
  | orFatal =>
    cases reply with
    | ok value => exact .refl w
    | error e => exact (refl w).fatal e.message

end Notes

end World

/-! ## Runs -/

namespace Moment

/-- What is noted at this moment. -/
def notes (m : Moment κ σ φ) : List (Note κ) :=
  match m.control, m.stack with
  | .perform request, _ => request.notes m.world (m.world.perform request).2
  | .reply reply, .pending p :: _ => (m.world.resume reply p).2.lastWords
  | _, _ => []

/-- What is reported at this moment. -/
def reports (m : Moment κ σ φ) : List (Event κ) := m.notes.filterMap (·.event?)

theorem notes_step (host : Host κ σ φ) (m : Moment κ σ φ) :
    m.world.Notes m.notes (m.step host).world := by
  rw [world_step]
  obtain ⟨w, s, stack, control⟩ := m
  cases control with
  | ended ending => exact .refl w
  | perform request => exact .perform w request
  | reply reply =>
    cases stack with
    | nil => exact .refl w
    | cons frame stack =>
      cases frame with
      | pending p => exact .resume w reply p
      | host invocation f => exact .refl w

/-- **All that happens to the journal along a run is what is noted**, step by step. -/
theorem notes_run (host : Host κ σ φ) (m : Moment κ σ φ) (n : Nat) :
    m.world.Notes (m.trace host notes n) (m.run host n).world := by
  induction n with
  | zero => exact .refl _
  | succ n ih =>
    rw [trace_succ, run_succ]
    exact ih.trans (notes_step host _)

end Moment

end ObjectRuntime
