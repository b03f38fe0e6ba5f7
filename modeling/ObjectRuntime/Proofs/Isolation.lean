import ObjectRuntime.Procedure
import ObjectRuntime.Proofs.Alone
import ObjectRuntime.Proofs.Congruence.Process
import ObjectRuntime.Proofs.History
import ObjectRuntime.Proofs.SharedRuntime
/-!
# Isolation

Objects and kinds are shared by all runtimes, while registries and caps belong to one runtime each.
A run that begins with an operation of one runtime, and whose host code asks for nothing but
through the runtime that it was handed, is `Confined` to it: it neither reads
(`OthersAside.perform`) nor writes (`OthersKept.perform`) what belongs to another runtime; and
every closure that it starts, however deep, is handed that one runtime (`perform_staysWith`).
-/

namespace ObjectRuntime

variable {κ σ φ : Type}

namespace World

/-! ## Worlds that differ in other runtimes -/

/-- Two worlds that are the same, but for the registries and the caps of all runtimes other than
`i`. -/
def OthersAside (i : RuntimeId) (w v : World κ) : Prop :=
  ∃ runtimes, v = { w with runtimes } ∧ runtimes[i]? = w.runtimes[i]? ∧
    runtimes.size = w.runtimes.size

/-- Every runtime other than `i` is still there as it was. -/
def OthersKept (i : RuntimeId) (w w' : World κ) : Prop :=
  ∀ (j : RuntimeId) (rt : Runtime κ), j ≠ i → w.runtimes[j]? = some rt →
    w'.runtimes[j]? = some rt

namespace OthersAside

variable {i : RuntimeId} {w v : World κ}

theorem runtime (h : w.OthersAside i v) : v.runtimes[i]? = w.runtimes[i]? := by
  obtain ⟨runtimes, rfl, hi, -⟩ := h
  exact hi

theorem allocate (h : w.OthersAside i v) (size : UInt64) (a : Address) :
    Agree (OthersAside i) (w.allocate size a) (v.allocate size a) := by
  obtain ⟨runtimes, rfl, hi, hsize⟩ := h
  simp only [World.allocate]
  rcases w.allocator.allocate size with ⟨allocator, _ | _⟩
  · exact ⟨⟨runtimes, rfl, hi, hsize⟩, rfl⟩
  · exact ⟨⟨runtimes, rfl, hi, hsize⟩, rfl⟩

theorem setRegistry (h : w.OthersAside i v) (j : RuntimeId) (g : Registry κ) :
    (w.setRegistry j g).OthersAside i (v.setRegistry j g) := by
  obtain ⟨runtimes, rfl, hi, hsize⟩ := h
  refine ⟨_, rfl, ?_, ?_⟩
  · simp only [World.setRegistry, Array.getElem?_modify, hi]
  · simp only [World.setRegistry, Array.size_modify, hsize]

theorem startRuntime (h : w.OthersAside i v) (cap : DepthCap) :
    Agree (OthersAside i) (w.startRuntime cap) (v.startRuntime cap) := by
  obtain ⟨runtimes, rfl, hi, hsize⟩ := h
  obtain ⟨w', v', served, hw, hv, others, rfl, hi', hsize'⟩ :=
    (show ((w.emit (.kindRegistered nilKind)).emit (.kindRegistered functionKind)).OthersAside i
      ((({ w with runtimes } : World κ).emit (.kindRegistered nilKind)).emit
        (.kindRegistered functionKind)) from ⟨runtimes, rfl, hi, hsize⟩).allocate
      (UInt64.ofNat headerSize) (.object w.heap.nextNil) |>.cases
  simp only [World.startRuntime, heap_emit]
  rw [hw, hv]
  cases served with
  | false => exact ⟨⟨others, rfl, hi', hsize'⟩, rfl⟩
  | true =>
    refine ⟨⟨_, rfl, ?_, ?_⟩, congrArg Except.ok hsize'⟩
    · simp only [runtimes_emit, Array.getElem?_push, hi', hsize']
    · simp only [runtimes_emit, Array.size_push, hsize']

theorem sharedRuntime (h : w.OthersAside i v) :
    Agree (OthersAside i) w.sharedRuntime v.sharedRuntime := by
  have hsame : v.shared = w.shared ∧ v.settings = w.settings := by
    obtain ⟨runtimes, rfl, -⟩ := h
    exact ⟨rfl, rfl⟩
  simp only [World.sharedRuntime, hsame]
  cases w.shared with
  | some j => exact ⟨h, rfl⟩
  | none =>
    obtain ⟨w', v', started, hw, hv, others, rfl, hi, hsize⟩ :=
      (h.startRuntime w.settings.maxCallDepth).cases
    simp only [hw, hv]
    cases started <;> exact ⟨⟨others, rfl, hi, hsize⟩, rfl⟩

theorem congruence (i : RuntimeId) : ServiceCongruence (OthersAside (κ := κ) i) where
  heap := by rintro w v ⟨_, rfl, -⟩; rfl
  emit := by rintro w v ⟨_, rfl, h⟩ e; exact ⟨_, rfl, h⟩
  setHeap := by rintro w v ⟨_, rfl, h⟩ heap; exact ⟨_, rfl, h⟩
  setRegistry h j g := h.setRegistry j g
  allocate h size a := h.allocate size a
  reclaim := by rintro w v ⟨_, rfl, h⟩; exact ⟨_, rfl, h⟩
  sharedRuntime h := h.sharedRuntime
  startLogging := by rintro w v ⟨_, rfl, h⟩; exact ⟨_, rfl, h⟩
  stopLogging := by rintro w v ⟨_, rfl, h⟩; exact ⟨_, rfl, h⟩
  allocator := by rintro w v ⟨_, rfl, -⟩; rfl
  setAllocator := by rintro w v ⟨_, rfl, h⟩ a; exact ⟨_, rfl, h⟩
  handles := by rintro w v ⟨_, rfl, -⟩; rfl
  setHandles := by rintro w v ⟨_, rfl, h⟩ hs; exact ⟨_, rfl, h⟩
  startRuntime h cap := h.startRuntime cap
  startLoggingWith := by rintro w v ⟨_, rfl, h⟩ settings; exact ⟨_, rfl, h⟩

end OthersAside

end World

/-! ## What goes through a runtime -/

/-- The runtime that host code in this place is handed.  Native code is handed none. -/
def Role.runtime? : Role → Option RuntimeId
  | .closureDestructor i | .closureApply i => some i
  | .nativeDestructor | .nativeApply => none

/-- The runtime that an operation on handles goes to; nothing if the handle is not held. -/
def HandleOperation.runtime? (w : World κ) : HandleOperation → Option RuntimeId
  | .adopt i _ | .borrow i _ | .nil i => some i
  | .object h | .runtime h | .clone h | .drop h | .intoPointer h => (w.handle? h).map (·.runtime)
  | .lookup h _ | .call h _ | .methodCall h _ _ => (w.handle? h).map (·.runtime)

/-- Whether a request goes through no runtime but this one, if there is one.  Services of the
process go through none. -/
def Request.isThrough (w : World κ) (own : Option RuntimeId) : Request κ → Bool
  | .on i _ | .query i _ => own == some i
  | .handle op => (op.runtime? w).all (own == some ·)
  | .foreign call => !call.needsRuntime
  | .service _ => true

/-- The runtime that the rest of an operation goes to. -/
def Pending.runtime? : Pending κ → Option RuntimeId
  | .releaseMethod i _ | .adopt i _ => some i
  | .keep _ | .orFatal => none

/-- Whether an operation that goes on like this stays with runtime `i`. -/
def Turn.StaysWith (i : RuntimeId) : Turn κ → Prop
  | .done _ | .halt _ => True
  | .enter run => ∀ j ∈ run.role.runtime?, j = i
  | .next request p =>
    (∀ w : World κ, request.isThrough w (some i) = true) ∧ ∀ j ∈ p.runtime?, j = i

theorem Request.isThrough_some {w : World κ} {own : Option RuntimeId} {request : Request κ}
    {i : RuntimeId} (h : request.isThrough w own = true) (hown : ∀ j ∈ own, j = i) :
    request.isThrough w (some i) = true := by
  cases own with
  | some j =>
    obtain rfl := hown j rfl
    exact h
  | none =>
    cases request with
    | on | query => cases h
    | foreign | service => exact h
    | handle op =>
      simp only [isThrough] at h ⊢
      cases hop : op.runtime? w with
      | none => rfl
      | some j =>
        rw [hop] at h
        cases h

namespace World

variable {i : RuntimeId} {w v : World κ} {request : Request κ}

theorem enterNative_staysWith (i : RuntimeId) (code : κ) (receiver : Ref) (args : List Pointer) :
    (enterNative code receiver args).StaysWith i := by
  unfold enterNative
  split
  · intro j hj
    cases hj
  · trivial

theorem start_staysWith (w : World κ) (i : RuntimeId) (target : Callable κ) (receiver : Ref)
    (args : List Pointer) : (w.start i target receiver args).StaysWith i := by
  unfold start
  split
  · intro j hj
    cases hj
    rfl
  · exact enterNative_staysWith i _ _ _
  · split
    · exact enterNative_staysWith i _ _ _
    · trivial

theorem apply_staysWith (w : World κ) (i : RuntimeId) (rt : Runtime κ) (callee : Pointer)
    (args : List Pointer) : (w.apply i rt callee args).2.StaysWith i := by
  unfold apply
  split
  · trivial
  · split
    · exact start_staysWith _ i _ _ _
    · trivial
    · unfold Runtime.exhausted
      split <;> trivial
    · trivial

theorem destroy_staysWith (w : World κ) (i : RuntimeId) (g : Registry κ) (r : Ref)
    (kind : KindId) : (w.destroy i g r kind).2.StaysWith i := by
  unfold destroy
  split
  · trivial
  · dsimp only
    split
    · trivial
    · split <;> trivial
    · intro j hj
      cases hj
    · intro j hj
      cases hj
      rfl

theorem release_staysWith (w : World κ) (i : RuntimeId) (g : Registry κ) (r : Ref) :
    (w.release i g r).2.StaysWith i := by
  unfold release
  split
  · trivial
  · dsimp only
    split
    · trivial
    · split
      · trivial
      · exact destroy_staysWith _ i g r _

theorem orFault_staysWith (w : World κ) (i : RuntimeId) (p : Option (World κ)) (reply : Reply κ) :
    (w.orFault (p.map (·, .done reply))).2.StaysWith i := by
  cases p <;> trivial

theorem objectReply_staysWith (i : RuntimeId) (result : Except Failure Ref) :
    (objectReply result : Turn κ).StaysWith i := by
  cases result <;> trivial

theorem inspect_staysWith (w : World κ) (i : RuntimeId) (r : Ref) (f : Cell κ → Value κ) :
    (w.inspect r f).2.StaysWith i := by
  unfold inspect
  split <;> trivial

theorem operate_staysWith (w : World κ) (i : RuntimeId) (rt : Runtime κ) (op : Operation κ) :
    (w.operate i rt op).2.StaysWith i := by
  have hwrite (e : Event κ) (change : Except Failure (Registry κ)) :
      (w.writeRegistry i e change).2.StaysWith i := by
    cases change <;> trivial
  cases op with
  | register | setDestructor | setApply => exact hwrite _ _
  | setMember kind name value =>
    rcases w.setMember_cases i rt.registry kind name value with
      ⟨e, hw⟩ | ⟨_, _, _, _, -, -, -, ⟨-, hw⟩ | ⟨_, -, hw⟩⟩
    · rw [operate, hw]
      trivial
    · rw [operate, hw]
      trivial
    · rw [operate, hw]
      trivial
  | newObject kind payload =>
    simp only [operate]
    split
    · exact objectReply_staysWith i _
    · trivial
  | nil => exact w.orFault_staysWith i _ _
  | retain object =>
    cases object with
    | none => trivial
    | some r => exact w.orFault_staysWith i _ _
  | release object =>
    cases object with
    | none => trivial
    | some r => exact w.release_staysWith i _ r
  | lookup object name =>
    cases object with
    | none => trivial
    | some r =>
      simp only [operate, orFault]
      cases w.lookup rt.registry r name with
      | none => trivial
      | some found => exact objectReply_staysWith i _
  | apply callee args => exact w.apply_staysWith i rt callee args
  | methodCall object name args =>
    rcases w.methodCall_cases i rt.registry object name args with
      hw | ⟨e, hw⟩ | ⟨_, _, method, _, -, -, -, -, hw⟩
    · rw [operate, hw]
      trivial
    · rw [operate, hw]
      trivial
    · rw [operate, hw]
      refine ⟨fun _ => beq_self_eq_true _, fun j hj => ?_⟩
      cases hj
      rfl

theorem operateHandle_staysWith (w : World κ) {op : HandleOperation}
    (h : ∀ j ∈ op.runtime? w, j = i) : (w.operateHandle op).2.StaysWith i := by
  have hborrow (j : RuntimeId) (r : Ref) : (w.borrow j r).2.StaysWith i := by
    unfold borrow
    split <;> trivial
  have hnext {handle : HandleId} {held : Handle} (hhandle : w.handle? handle = some held)
      (hop : op.runtime? w = (w.handle? handle).map (·.runtime)) : held.runtime = i :=
    h _ (by rw [hop, hhandle]; rfl)
  cases op with
  | adopt j object => cases object <;> trivial
  | borrow j object =>
    cases object with
    | none => trivial
    | some r => exact hborrow j r
  | nil j => exact hborrow j _
  | object handle | runtime handle | intoPointer handle =>
    simp only [operateHandle]
    split <;> trivial
  | clone handle =>
    simp only [operateHandle]
    split
    · exact hborrow _ _
    · trivial
  | drop handle =>
    simp only [operateHandle]
    split
    next held hheld =>
      obtain rfl := hnext hheld rfl
      exact ⟨fun _ => beq_self_eq_true _, fun j hj => by cases hj⟩
    · trivial
  | lookup handle name =>
    simp only [operateHandle]
    split
    next held hheld =>
      obtain rfl := hnext hheld rfl
      exact ⟨fun _ => beq_self_eq_true _, fun j hj => by cases hj; rfl⟩
    · trivial
  | call handle args | methodCall handle name args =>
    simp only [operateHandle]
    split
    next held _ hheld _ =>
      obtain rfl := hnext hheld rfl
      exact ⟨fun _ => beq_self_eq_true _, fun j hj => by cases hj; rfl⟩
    · trivial

theorem call_staysWith (w : World κ) (i : RuntimeId) {call : ForeignCall κ}
    (h : call.needsRuntime = false) : (w.call call).2.StaysWith i := by
  cases call with
  | register | setDestructor | setApply | newObject | nil | retain | release | startUp => cases h
  | setMember kind name value | lookup object name =>
    simp only [ForeignCall.needsRuntime] at h
    simp only [World.call]
    cases hname : name.decode with
    | ok text => rw [hname] at h; cases h
    | error e => trivial
  | apply callee args =>
    simp only [ForeignCall.needsRuntime] at h
    simp only [World.call]
    cases hargs : args.decode with
    | ok list => rw [hargs] at h; cases h
    | error e => trivial
  | methodCall object name args =>
    simp only [ForeignCall.needsRuntime] at h
    simp only [World.call]
    cases hname : name.decode with
    | error e => trivial
    | ok text =>
      cases hargs : args.decode with
      | ok list => rw [hname, hargs] at h; cases h
      | error e => trivial
  | createFunction entry =>
    cases entry with
    | none => trivial
    | some code => exact ⟨fun _ => rfl, fun j hj => by cases hj⟩
  | count object | kind object =>
    cases object with
    | none => trivial
    | some r => exact w.inspect_staysWith i r _
  | panic message => cases message <;> trivial
  | cleanup => trivial

theorem serve_staysWith (w : World κ) (i : RuntimeId) (service : Service κ) :
    (w.serve service).2.StaysWith i := by
  have hamend (r : Ref) (f : Cell κ → Cell κ) : (w.amend r f).2.StaysWith i := by
    unfold amend
    split <;> trivial
  cases service with
  | startRuntime cap =>
    simp only [serve, runtimeReply]
    split <;> trivial
  | requireRuntime cap => exact ⟨fun _ => rfl, fun j hj => by cases hj⟩
  | sharedRuntime =>
    simp only [serve]
    split <;> trivial
  | createObject kind payload => exact objectReply_staysWith i _
  | createFunction code => exact objectReply_staysWith i _
  | freeObject object =>
    cases object with
    | none => trivial
    | some r => exact w.orFault_staysWith i _ _
  | freeBlock block =>
    cases block with
    | none => trivial
    | some b => exact w.orFault_staysWith i _ _
  | count r | kind r | payload r => exact w.inspect_staysWith i r _
  | setCount r n => exact hamend r _
  | write r start bytes => exact hamend r _
  | _ => trivial

/-- **What goes through a runtime stays with it**: it leads to requests through the same runtime,
and closures that it starts are handed this runtime. -/
theorem perform_staysWith (h : request.isThrough w (some i) = true) :
    (w.perform request).2.StaysWith i := by
  cases request with
  | on j op =>
    obtain rfl : i = j := Option.some.inj (eq_of_beq h)
    simp only [perform]
    split
    · exact w.operate_staysWith i _ op
    · trivial
  | query j query =>
    simp only [perform]
    split <;> trivial
  | handle op =>
    refine w.operateHandle_staysWith fun j hj => ?_
    simp only [Request.isThrough, Option.mem_def.1 hj, Option.all_some] at h
    exact (Option.some.inj (eq_of_beq h)).symm
  | foreign call =>
    refine w.call_staysWith i ?_
    simpa [Request.isThrough] using h
  | service service => exact w.serve_staysWith i service

theorem resume_staysWith (w : World κ) (reply : Reply κ) {p : Pending κ}
    (h : ∀ j ∈ p.runtime?, j = i) : (w.resume reply p).2.StaysWith i := by
  rcases w.resume_cases reply p with ⟨j, method, rfl, hw⟩ | ⟨result, hw⟩ | ⟨ending, hw⟩
  · obtain rfl := h j rfl
    rw [hw]
    exact ⟨fun _ => beq_self_eq_true _, fun j hj => by cases hj⟩
  · rw [hw]
    trivial
  · rw [hw]
    trivial

/-- **What goes through a runtime does not tell worlds apart that differ in other runtimes.** -/
theorem OthersAside.perform (h : w.OthersAside i v)
    (hrequest : request.isThrough w (some i) = true) :
    Agree (OthersAside i) (w.perform request) (v.perform request) := by
  have hcongruence := OthersAside.congruence (κ := κ) i
  cases request with
  | on j op =>
    obtain rfl : i = j := Option.some.inj (eq_of_beq hrequest)
    simp only [World.perform, h.runtime]
    cases w.runtimes[i]? with
    | none => exact ⟨h, rfl⟩
    | some rt =>
      exact hcongruence.operate h i rfl op fun callee args _ =>
        hcongruence.apply h i callee args (fun _ _ => rfl) (fun _ _ _ => rfl)
  | query j query =>
    obtain rfl : i = j := Option.some.inj (eq_of_beq hrequest)
    simp only [World.perform, h.runtime]
    cases w.runtimes[i]? <;> exact ⟨h, rfl⟩
  | handle op => exact hcongruence.operateHandle h op
  | foreign call => exact hcongruence.call h call fun r _ f => hcongruence.inspect h r f
  | service service =>
    refine hcongruence.serve h service fun _ => ?_
    obtain ⟨runtimes, rfl, -⟩ := h
    rfl

theorem OthersAside.isThrough_eq (h : w.OthersAside i v) (own : Option RuntimeId)
    (request : Request κ) : request.isThrough v own = request.isThrough w own := by
  obtain ⟨runtimes, rfl, -⟩ := h
  rfl

theorem OthersKept.trans {u : World κ} (h : w.OthersKept i v) (h' : v.OthersKept i u) :
    w.OthersKept i u :=
  fun j rt hj hrt => h' j rt hj (h j rt hj hrt)

theorem OthersKept.of_eq (h : v.runtimes = w.runtimes) : w.OthersKept i v :=
  fun j rt _ hrt => by rwa [h]

/-- **What goes through a runtime leaves all others as they were.** -/
theorem OthersKept.perform (h : request.isThrough w (some i) = true) :
    w.OthersKept i (w.perform request).1 := by
  by_cases hon : ∃ j op, request = .on j op
  · obtain ⟨j, op, rfl⟩ := hon
    obtain rfl : i = j := Option.some.inj (eq_of_beq h)
    cases hrt : w.runtimes[i]? with
    | none =>
      rw [perform_on_none hrt]
      exact .of_eq rfl
    | some rt =>
      rw [perform_on hrt]
      cases hop : op.change? with
      | none => exact .of_eq (w.runtimes_operate i rt hop)
      | some c =>
        rcases w.operate_of_change i rt hop with ⟨e, -, hw⟩ | ⟨g, -, hw, -⟩
        · rw [hw]
          exact .of_eq rfl
        · intro j rt' hj hrt'
          rw [hw, World.setRegistry, Array.getElem?_modify, if_neg hj.symm]
          exact hrt'
  · have hother : ∀ j op, request ≠ .on j op := fun j op hop => hon ⟨j, op, hop⟩
    rcases w.runtimes_perform hother with hw | ⟨cap, hw⟩
    · exact .of_eq hw
    · intro j rt hj hrt
      obtain ⟨hlt, -⟩ := Array.getElem?_eq_some_iff.1 hrt
      rw [hw, Array.getElem?_push_lt hlt, ← Array.getElem?_eq_getElem hlt]
      exact hrt

end World

/-! ## Runs -/

/-- Whether a frame belongs to an operation of runtime `i`, or to host code that was handed no
other. -/
def Frame.StaysWith (i : RuntimeId) : Frame κ φ → Prop
  | .pending p => ∀ j ∈ p.runtime?, j = i
  | .host none _ => False
  | .host (some run) _ => ∀ j ∈ run.role.runtime?, j = i

/-- The place of host code that is entered. -/
def Observation.role? : Observation κ → Option Role
  | .entered run => some run.role
  | .replied _ => none

namespace Moment

/-- Whether host code that the runtime started, where it asks for something now, asks through what
it was handed. -/
def asksThroughOwn (m : Moment κ σ φ) : Bool :=
  match m.control, m.stack with
  | .perform request, .host (some run) _ :: _ => request.isThrough m.world run.role.runtime?
  | _, _ => true

/-- All that waits and all that is asked for goes through runtime `i`. -/
structure Confined (i : RuntimeId) (m : Moment κ σ φ) : Prop where
  frames : ∀ frame ∈ m.stack, frame.StaysWith i
  asked : ∀ request, m.control = .perform request → request.isThrough m.world (some i) = true

namespace Confined

variable {host : Host κ σ φ} {i : RuntimeId} {m : Moment κ σ φ}

theorem move (hframes : ∀ frame ∈ m.stack, frame.StaysWith i) {run : Invocation κ}
    (hrun : ∀ j ∈ run.role.runtime?, j = i) {mv : Move κ φ}
    (hasks : (m.move (some run) mv).asksThroughOwn = true) : (m.move (some run) mv).Confined i := by
  cases mv with
  | ask request frame =>
    refine ⟨List.forall_mem_cons.2 ⟨hrun, hframes⟩, fun request' h => ?_⟩
    cases h
    exact Request.isThrough_some hasks hrun
  | finish answer => exact ⟨hframes, fun request h => by cases h⟩

theorem turn (hframes : ∀ frame ∈ m.stack, frame.StaysWith i) {t : Turn κ} (ht : t.StaysWith i)
    (hasks : (m.turn host t).asksThroughOwn = true) : (m.turn host t).Confined i := by
  cases t with
  | done reply => exact ⟨hframes, fun request h => by cases h⟩
  | halt ending => exact ⟨hframes, fun request h => by cases h⟩
  | enter run => exact move (m := { m with state := (host.enter run m.state).1 }) hframes ht hasks
  | next request p =>
    refine ⟨List.forall_mem_cons.2 ⟨ht.2, hframes⟩, fun request' h => ?_⟩
    cases h
    exact ht.1 _

/-- **A step of what is `Confined` to a runtime is confined to it**, as long as host code asks
through what it was handed. -/
theorem step (h : m.Confined i) (hasks : (m.step host).asksThroughOwn = true) :
    (m.step host).Confined i := by
  obtain ⟨w, s, stack, control⟩ := m
  cases control with
  | ended ending => exact h
  | perform request =>
    exact turn (m := ⟨(w.perform request).1, s, stack, _⟩) h.frames
      (World.perform_staysWith (h.asked request rfl)) hasks
  | reply reply =>
    cases stack with
    | nil => exact h
    | cons frame stack =>
      obtain ⟨hframe, hframes⟩ := List.forall_mem_cons.1 h.frames
      cases frame with
      | pending p =>
        exact turn (m := ⟨(w.resume reply p).1, s, stack, _⟩) hframes
          (w.resume_staysWith reply hframe) hasks
      | host invocation f =>
        cases invocation with
        | none => exact hframe.elim
        | some run =>
          exact move (m := ⟨w, (host.resume f reply s).1, stack, _⟩) hframes hframe hasks

theorem alone {w : World κ} {request : Request κ} (h : request.isThrough w (some i) = true)
    (s : σ) : (alone w s request : Moment κ σ φ).Confined i := by
  refine ⟨fun frame hframe => ?_, fun request' h' => ?_⟩
  · cases hframe
  · cases h'
    exact h

theorem run {w : World κ} {request : Request κ} (h : request.isThrough w (some i) = true) (s : σ)
    {n : Nat} (hasks : ∀ k ≤ n, ((Moment.alone w s request).run host k).asksThroughOwn = true) :
    ((Moment.alone w s request).run host n).Confined i :=
  run_induction (P := fun m => m.asksThroughOwn = true) (fun _ => .alone h s) (fun _ => step) hasks

theorem othersKept_step (h : m.Confined i) : m.world.OthersKept i (m.step host).world := by
  by_cases hperform : ∃ request, m.control = .perform request
  · obtain ⟨request, hcontrol⟩ := hperform
    rw [world_step_perform host hcontrol]
    exact .perform (h.asked request hcontrol)
  · exact .of_eq (step_frame host fun request hcontrol => hperform ⟨request, hcontrol⟩).2

theorem entered (h : m.Confined i) {run : Invocation κ} (hrun : .entered run ∈ m.observation) :
    ∀ j ∈ run.role.runtime?, j = i := by
  obtain ⟨request, hcontrol, henter⟩ := entered_mem_observation.1 hrun
  have hturn := World.perform_staysWith (h.asked request hcontrol)
  rw [henter] at hturn
  exact hturn

end Confined

variable {host : Host κ σ φ} {i : RuntimeId} {w v : World κ} {request : Request κ}

theorem othersKept_run (h : request.isThrough w (some i) = true) (s : σ) {n : Nat}
    (hasks : ∀ k < n, ((alone w s request).run host k).asksThroughOwn = true) :
    w.OthersKept i ((alone w s request).run host n).world := by
  induction n with
  | zero => exact .of_eq rfl
  | succ n ih =>
    have hconfined : ((alone w s request).run host n).Confined i :=
      .run h s fun k hk => hasks k (Nat.lt_succ_of_le hk)
    rw [run_succ]
    exact (ih fun k hk => hasks k (by omega)).trans hconfined.othersKept_step

theorem Alike.asksThroughOwn {m m' : Moment κ σ φ} (h : Alike (World.OthersAside i) m m') :
    m'.asksThroughOwn = m.asksThroughOwn := by
  unfold Moment.asksThroughOwn
  rw [h.control, h.stack]
  split
  · exact h.world.isThrough_eq _ _
  · rfl

/-- **Runtimes are isolated from each other.**  Take a request through runtime `i`, and two worlds
that differ in other runtimes only.  As long as host code asks through what it was handed, the two
runs are at the same point after every number of steps, and host code saw the same in both; the
worlds differ in other runtimes only, which in each of the runs are what they were at first; and
closures were handed runtime `i`. -/
theorem runtimes_isolated (host : Host κ σ φ) (hv : w.OthersAside i v)
    (hrequest : request.isThrough w (some i) = true) (s : σ) (n : Nat)
    (hasks : ∀ k < n, ((alone w s request).run host k).asksThroughOwn = true) :
    Alike (World.OthersAside i) ((alone w s request).run host n) ((alone v s request).run host n) ∧
      (alone v s request).trace host observation n =
        (alone w s request).trace host observation n ∧
      w.OthersKept i ((alone w s request).run host n).world ∧
      v.OthersKept i ((alone v s request).run host n).world ∧
      ∀ run, .entered run ∈ (alone w s request).trace host observation n →
        ∀ j ∈ run.role.runtime?, j = i := by
  have hconfined : ∀ k < n, ((alone w s request).run host k).Confined i := fun k hk =>
    .run hrequest s fun k' hk' => hasks k' (Nat.lt_of_le_of_lt hk' hk)
  have halike : ∀ k ≤ n, Alike (World.OthersAside i) ((alone w s request).run host k)
      ((alone v s request).run host k) ∧ (alone v s request).trace host observation k =
        (alone w s request).trace host observation k := by
    intro k hk
    have hfirst : Alike (World.OthersAside i) (alone w s request : Moment κ σ φ)
      (alone v s request) := .of_worlds hv s [] _
    refine hfirst.run_of_requests (World.OthersAside.congruence i) host k ?_
    intro k' hk' v' request' hv' hcontrol
    exact hv'.perform ((hconfined k' (by omega)).asked request' hcontrol)
  have hrequest' : request.isThrough v (some i) = true := (hv.isThrough_eq _ _).trans hrequest
  obtain ⟨hn, htrace⟩ := halike n (Nat.le_refl n)
  refine ⟨hn, htrace, othersKept_run hrequest s hasks, othersKept_run hrequest' s fun k hk => ?_,
    fun run hrun => ?_⟩
  · exact (halike k (Nat.le_of_lt hk)).1.asksThroughOwn.trans (hasks k hk)
  · obtain ⟨k, hk, hrun⟩ := mem_trace.1 hrun
    exact (hconfined k hk).entered hrun

/-- Two runtimes that registered kind 10, the first with this destructor and the second with
closures, and one object of that kind. -/
def twoRuntimes (destructor : Destructor Bool) : World Bool where
  heap := (∅ : Heap Bool).addObject { kind := 10, body := .payload #[] }
  runtimes := #[
    { registry := (Registry.builtin.makeAll [.register 10, .setDestructor 10 destructor]).1
      cap := none },
    { registry := (Registry.builtin.makeAll [.register 10, .setDestructor 10 (.closure true),
        .setApply 10 (.direct (.closure false))]).1
      cap := none }]

/-- The destructor applies its receiver before it gives the storage back. -/
def applyAndFree : Host Bool Unit (Procedure.Waiting Bool Unit) :=
  Procedure.toHost fun run =>
    if run.code then
      .ask (.on 1 (.apply (some run.receiver) [])) fun _ =>
      .ask (.service (.freeObject (some run.receiver))) fun _ =>
      .done (.ok none)
    else .done (.ok none)

theorem runtimes_isolated_twoRuntimes :
    let request : Request Bool := .on 1 (.release (some (.object 0)))
    let m := alone (twoRuntimes .empty) () request
    let m' := alone (twoRuntimes (.native .stock)) () request
    (∀ k < 6, (m.run applyAndFree k).asksThroughOwn = true) ∧
      m'.trace applyAndFree observation 6 = m.trace applyAndFree observation 6 ∧
      (m.trace applyAndFree observation 6).filterMap Observation.role? =
        [.closureDestructor 1, .closureApply 1] ∧
      ((m'.run applyAndFree 6).world.heap.live? (.object 0)).isNone = true := by
  intro request m m'
  have hv : (twoRuntimes .empty).OthersAside 1 (twoRuntimes (.native .stock)) :=
    ⟨_, rfl, rfl, rfl⟩
  have hasks : ∀ k < 6, (m.run applyAndFree k).asksThroughOwn = true := by
    decide +kernel
  obtain ⟨halike, htrace, -⟩ := runtimes_isolated applyAndFree hv rfl () 6 hasks
  refine ⟨hasks, htrace, by decide +kernel, ?_⟩
  rw [(World.OthersAside.congruence 1).heap halike.world]
  decide +kernel

end Moment

end ObjectRuntime
