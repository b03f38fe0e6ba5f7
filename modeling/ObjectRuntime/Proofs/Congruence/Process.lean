import ObjectRuntime.Proofs.Congruence
import ObjectRuntime.Proofs.Run
/-!
# Relations that runs keep

The same for everything that a host can ask for, and for whole runs: a host that starts in worlds
that a `ProcessCongruence` relates sees the same, as long as its requests go the same way
(`run_of_requests`).
-/

namespace ObjectRuntime

variable {κ σ φ : Type}

namespace World

/-- A relation that calls through the C interface keep, apart from those that look at an object. -/
structure CallCongruence (R : World κ → World κ → Prop) : Prop where
  emit : ∀ {w v}, R w v → ∀ e, R (w.emit e) (v.emit e)
  sharedRuntime : ∀ {w v}, R w v → Agree R w.sharedRuntime v.sharedRuntime
  startLogging : ∀ {w v}, R w v →
    R (w.startLogging w.settings.log) (v.startLogging v.settings.log)
  stopLogging : ∀ {w v}, R w v → R w.stopLogging v.stopLogging

/-- A congruence between worlds in which operations on handles, services and calls through the C
interface go the same way as well, other than the question whether logging was started.  The
registries can differ. -/
structure ServiceCongruence (R : World κ → World κ → Prop) : Prop
    extends Congruence R, CallCongruence R where
  allocator : ∀ {w v}, R w v → v.allocator = w.allocator
  setAllocator : ∀ {w v}, R w v → ∀ a, R { w with allocator := a } { v with allocator := a }
  handles : ∀ {w v}, R w v → v.handles = w.handles
  setHandles : ∀ {w v}, R w v → ∀ hs, R { w with handles := hs } { v with handles := hs }
  startRuntime : ∀ {w v}, R w v → ∀ cap, Agree R (w.startRuntime cap) (v.startRuntime cap)
  startLoggingWith : ∀ {w v}, R w v → ∀ settings,
    R (w.startLogging settings) (v.startLogging settings)

/-- The same where the registries are equal. -/
structure QuietCongruence (R : World κ → World κ → Prop) : Prop extends ServiceCongruence R where
  registry : ∀ {w v}, R w v → ∀ i : RuntimeId,
    v.runtimes[i]?.map (·.registry) = w.runtimes[i]?.map (·.registry)

/-- A congruence between worlds in which everything goes the same way. -/
structure ProcessCongruence (R : World κ → World κ → Prop) : Prop extends QuietCongruence R where
  logging : ∀ {w v}, R w v → v.journal.isInitialized = w.journal.isInitialized

/-! ## The C interface -/

namespace CallCongruence

variable {R : World κ → World κ → Prop} (hR : CallCongruence R) {w v : World κ} (h : R w v)
include hR h

theorem fatal (message : String) : Agree R (w.fatal message) (v.fatal message) :=
  ⟨hR.stopLogging (hR.emit h _), rfl⟩

theorem onShared (op : Operation κ) : Agree R (w.onShared op) (v.onShared op) := by
  obtain ⟨w', v', started, hw, hv, h'⟩ := (hR.sharedRuntime h).cases
  rw [World.onShared, World.onShared, hw, hv]
  cases started with
  | ok i => exact ⟨h', rfl⟩
  | error e => exact hR.fatal h' _

theorem onSharedWith {α : Type} (decoded : Except Failure α) (op : α → Operation κ) :
    Agree R (w.onSharedWith decoded op) (v.onSharedWith decoded op) := by
  cases decoded with
  | ok a => exact hR.onShared h _
  | error e => exact hR.fatal h _

theorem call (call : ForeignCall κ)
    (hinspect : ∀ r, call = .count (some r) ∨ call = .kind (some r) →
      ∀ f, Agree R (w.inspect r f) (v.inspect r f)) : Agree R (w.call call) (v.call call) := by
  cases call with
  | register | setDestructor | setApply | newObject | nil | retain | release =>
    exact hR.onShared h _
  | setMember kind name value => exact hR.onSharedWith h _ _
  | lookup object name => exact hR.onSharedWith h _ _
  | apply callee args =>
    simp only [World.call]
    cases args.decode with
    | error e => exact hR.fatal h _
    | ok args => exact hR.onShared (hR.emit h _) _
  | methodCall object name args =>
    simp only [World.call]
    cases name.decode with
    | error e => exact hR.fatal h _
    | ok name =>
      cases args.decode with
      | error e => exact hR.fatal h _
      | ok args => exact hR.onShared (hR.emit h _) _
  | createFunction entry =>
    cases entry with
    | none => exact hR.fatal h _
    | some code => exact ⟨h, rfl⟩
  | count object =>
    cases object with
    | none => exact ⟨h, rfl⟩
    | some r => exact hinspect r (.inl rfl) _
  | kind object =>
    cases object with
    | none => exact ⟨h, rfl⟩
    | some r => exact hinspect r (.inr rfl) _
  | panic message => cases message <;> exact hR.fatal h _
  | startUp =>
    obtain ⟨w', v', started, hw, hv, h'⟩ := (hR.sharedRuntime h).cases
    simp only [World.call, hw, hv]
    cases started with
    | ok i => exact ⟨hR.emit (hR.startLogging h') _, rfl⟩
    | error e => exact hR.fatal h' _
  | cleanup => exact ⟨hR.stopLogging (hR.emit h _), rfl⟩

end CallCongruence

namespace ServiceCongruence

variable {R : World κ → World κ → Prop} (hR : ServiceCongruence R) {w v : World κ} (h : R w v)
include hR h

/-! ## Handles -/

theorem adopt (i : RuntimeId) (r : Ref) : Agree R (w.adopt i r) (v.adopt i r) := by
  simp only [World.adopt, addHandle, hR.handles h]
  exact ⟨hR.setHandles h _, rfl⟩

theorem borrow (i : RuntimeId) (r : Ref) : Agree R (w.borrow i r) (v.borrow i r) := by
  have hretain := hR.retain h r
  unfold World.borrow
  generalize w.retain r = p at hretain
  generalize v.retain r = q at hretain
  cases hretain with
  | none => exact ⟨h, rfl⟩
  | some h' => exact hR.adopt h' i r

theorem handle? (handle : HandleId) : v.handle? handle = w.handle? handle := by
  rw [World.handle?, hR.handles h]
  rfl

theorem handleArgs (args : List HandleId) : v.handleArgs args = w.handleArgs args := by
  simp only [World.handleArgs, hR.handle? h]

theorem endHandle (handle : HandleId) : R (w.endHandle handle) (v.endHandle handle) := by
  simp only [World.endHandle, hR.handles h]
  exact hR.setHandles h _

theorem operateHandle (op : HandleOperation) :
    Agree R (w.operateHandle op) (v.operateHandle op) := by
  cases op with
  | adopt i object =>
    cases object with
    | none => exact ⟨h, rfl⟩
    | some r => exact hR.adopt h i r
  | borrow i object =>
    cases object with
    | none => exact ⟨h, rfl⟩
    | some r => exact hR.borrow h i r
  | nil i => exact hR.borrow h i _
  | clone handle =>
    simp only [World.operateHandle, hR.handle? h]
    cases w.handle? handle with
    | none => exact ⟨h, rfl⟩
    | some handle => exact hR.borrow h _ _
  | drop handle | intoPointer handle =>
    simp only [World.operateHandle, hR.handle? h]
    cases w.handle? handle with
    | none => exact ⟨h, rfl⟩
    | some _ => exact ⟨hR.endHandle h _, rfl⟩
  | object handle | runtime handle | lookup handle name =>
    simp only [World.operateHandle, hR.handle? h]
    cases w.handle? handle <;> exact ⟨h, rfl⟩
  | call handle args | methodCall handle name args =>
    simp only [World.operateHandle, hR.handle? h, hR.handleArgs h]
    cases w.handle? handle <;> cases w.handleArgs args <;> exact ⟨h, rfl⟩

/-! ## Services -/

theorem inspect (r : Ref) (f : Cell κ → Value κ) : Agree R (w.inspect r f) (v.inspect r f) := by
  simp only [World.inspect, hR.heap h]
  cases w.heap.live? r <;> exact ⟨h, rfl⟩

theorem allocateBlock (size : UInt64) : Agree R (w.allocateBlock size) (v.allocateBlock size) := by
  simp only [World.allocateBlock, hR.heap h]
  obtain ⟨w', v', served, hw, hv, h'⟩ :=
    (hR.allocate h size (.block w.heap.nextBlock)).cases
  rw [hw, hv]
  cases served with
  | true => exact ⟨hR.mapHeap h' (·.addBlock), rfl⟩
  | false => exact ⟨h', rfl⟩

theorem freeBlock (b : BlockId) : Option.Rel R (w.freeBlock b) (v.freeBlock b) := by
  simp only [World.freeBlock, hR.heap h]
  split
  · exact .some (hR.giveBack h _)
  · exact .none

theorem amend (r : Ref) (f : Cell κ → Cell κ) : Agree R (w.amend r f) (v.amend r f) := by
  simp only [World.amend, hR.heap h]
  cases w.heap.live? r with
  | none => exact ⟨h, rfl⟩
  | some c => exact ⟨hR.setHeap h _, rfl⟩

theorem install (pair : Pair) : Agree R (w.install pair) (v.install pair) := by
  simp only [World.install, hR.allocator h]
  exact ⟨hR.emit (hR.setAllocator h _) _, rfl⟩

theorem serve (service : Service κ) (hlogging : service = .loggingStarted →
      v.journal.isInitialized = w.journal.isInitialized) :
    Agree R (w.serve service) (v.serve service) := by
  cases service with
  | startRuntime cap => exact (hR.startRuntime h cap).map runtimeReply
  | requireRuntime cap => exact ⟨h, rfl⟩
  | sharedRuntime =>
    obtain ⟨w', v', started, hw, hv, h'⟩ := (hR.sharedRuntime h).cases
    simp only [World.serve, hw, hv]
    cases started with
    | ok i => exact ⟨h', rfl⟩
    | error e => exact hR.fatal h' _
  | createObject kind payload => exact (hR.createObject h kind payload).map objectReply
  | createFunction code => exact (hR.createFunction h code).map objectReply
  | freeObject object =>
    cases object with
    | none => exact ⟨h, rfl⟩
    | some r => exact Congruence.orFault_done h (hR.freeObject h r) _
  | allocate size =>
    exact (hR.allocateBlock h size).map fun block => Turn.done (.ok (.block block))
  | freeBlock block =>
    cases block with
    | none => exact ⟨h, rfl⟩
    | some b => exact Congruence.orFault_done h (hR.freeBlock h b) _
  | install pair =>
    exact (hR.install h pair).map fun replaced => Turn.done (.ok (.name replaced.name))
  | installed | traffic pair =>
    simp only [World.serve, hR.allocator h]
    exact ⟨h, rfl⟩
  | startLogging => exact ⟨hR.startLogging h, rfl⟩
  | startLoggingWith settings => exact ⟨hR.startLoggingWith h settings, rfl⟩
  | stopLogging => exact ⟨hR.stopLogging h, rfl⟩
  | loggingStarted =>
    simp only [World.serve, hlogging rfl]
    exact ⟨h, rfl⟩
  | fatal message => exact hR.fatal h message
  | isReleased address =>
    cases address <;> simp only [World.serve, World.isReleased, hR.heap h] <;> exact ⟨h, rfl⟩
  | count r | kind r | payload r => exact hR.inspect h r _
  | setCount r n => exact hR.amend h r _
  | write r start bytes => exact hR.amend h r _

theorem resume (reply : Reply κ) (p : Pending κ) :
    Agree R (w.resume reply p) (v.resume reply p) := by
  cases p with
  | releaseMethod i method => exact ⟨h, rfl⟩
  | keep kept => cases reply <;> exact ⟨h, rfl⟩
  | adopt i operation =>
    unfold World.resume
    dsimp only
    split
    · exact hR.adopt h i _
    · exact ⟨h, rfl⟩
    · exact ⟨h, rfl⟩
  | orFatal =>
    cases reply with
    | ok value => exact ⟨h, rfl⟩
    | error e => exact hR.fatal h _

end ServiceCongruence

/-! ## Requests -/

namespace QuietCongruence

variable {R : World κ → World κ → Prop} (hR : QuietCongruence R) {w v : World κ} (h : R w v)
include hR h

theorem runtime_cases (i : RuntimeId) :
    (w.runtimes[i]? = none ∧ v.runtimes[i]? = none) ∨
      ∃ rt rt', w.runtimes[i]? = some rt ∧ v.runtimes[i]? = some rt' ∧
        rt'.registry = rt.registry := by
  have hi := hR.registry h i
  cases hw : w.runtimes[i]? with
  | none =>
    rw [hw] at hi
    exact .inl ⟨rfl, Option.map_eq_none_iff.1 hi⟩
  | some rt =>
    rw [hw] at hi
    obtain ⟨rt', hrt', hg⟩ := Option.map_eq_some_iff.1 hi
    exact .inr ⟨rt, rt', rfl, hrt', hg⟩

/-- **A request goes the same way in related worlds**, if applications do, and if the caps are the
same or nobody asks for one, and so is whether logging was started. -/
theorem perform (request : Request κ)
    (hlogging : request = .service .loggingStarted →
      v.journal.isInitialized = w.journal.isInitialized)
    (happly : ∀ i rt rt' callee args, request = .on i (.apply callee args) →
      w.runtimes[i]? = some rt → v.runtimes[i]? = some rt' → rt'.registry = rt.registry →
      Agree R (w.apply i rt callee args) (v.apply i rt' callee args))
    (hcap : ∀ i rt rt', request = .query i .cap → w.runtimes[i]? = some rt →
      v.runtimes[i]? = some rt' → rt'.cap = rt.cap) :
    Agree R (w.perform request) (v.perform request) := by
  cases request with
  | on i op =>
    rcases hR.runtime_cases h i with ⟨hw, hv⟩ | ⟨rt, rt', hw, hv, hg⟩
    · simp only [World.perform, hw, hv]
      exact ⟨h, rfl⟩
    · simp only [World.perform, hw, hv]
      exact hR.operate h i hg op fun callee args hop =>
        happly i rt rt' callee args (hop ▸ rfl) hw hv hg
  | query i query =>
    rcases hR.runtime_cases h i with ⟨hw, hv⟩ | ⟨rt, rt', hw, hv, hg⟩
    · simp only [World.perform, hw, hv]
      exact ⟨h, rfl⟩
    · have hanswer : rt'.answer query = rt.answer query := by
        cases query with
        | cap => simp only [Runtime.answer, hcap i rt rt' rfl hw hv]
        | _ => simp only [Runtime.answer, hg]
      simp only [World.perform, hw, hv, hanswer]
      exact ⟨h, rfl⟩
  | handle op => exact hR.operateHandle h op
  | foreign call => exact hR.call h call fun r _ f => hR.inspect h r f
  | service service => exact hR.serve h service fun hservice => hlogging (hservice ▸ rfl)

end QuietCongruence

theorem ProcessCongruence.perform {R : World κ → World κ → Prop} (hR : ProcessCongruence R)
    {w v : World κ} (h : R w v) (request : Request κ)
    (happly : ∀ i rt rt' callee args, request = .on i (.apply callee args) →
      w.runtimes[i]? = some rt → v.runtimes[i]? = some rt' → rt'.registry = rt.registry →
      Agree R (w.apply i rt callee args) (v.apply i rt' callee args))
    (hcap : ∀ i rt rt', request = .query i .cap → w.runtimes[i]? = some rt →
      v.runtimes[i]? = some rt' → rt'.cap = rt.cap) :
    Agree R (w.perform request) (v.perform request) :=
  hR.toQuietCongruence.perform h request (fun _ => hR.logging h) happly hcap

end World

/-! ## Runs -/

namespace Moment

open World

/-- Two moments that differ in their worlds only, which are related. -/
structure Alike (R : World κ → World κ → Prop) (m m' : Moment κ σ φ) : Prop where
  world : R m.world m'.world
  state : m'.state = m.state
  stack : m'.stack = m.stack
  control : m'.control = m.control

namespace Alike

variable {R : World κ → World κ → Prop} {host : Host κ σ φ} {m m' : Moment κ σ φ}

theorem of_worlds {w v : World κ} (h : R w v) (s : σ) (stack : List (Frame κ φ))
    (c : Control κ) : Alike R (⟨w, s, stack, c⟩ : Moment κ σ φ) ⟨v, s, stack, c⟩ :=
  ⟨h, rfl, rfl, rfl⟩

theorem move (h : Alike R m m') (invocation : Option (Invocation κ)) (mv : Move κ φ) :
    Alike R (m.move invocation mv) (m'.move invocation mv) := by
  cases mv with
  | ask request frame => exact ⟨h.world, h.state, congrArg (_ :: ·) h.stack, rfl⟩
  | finish answer => cases invocation <;> exact ⟨h.world, h.state, h.stack, rfl⟩

theorem turn {p q : World κ × Turn κ} (hagree : Agree R p q) (s : σ) (stack : List (Frame κ φ))
    (c : Control κ) :
    Alike R ((⟨p.1, s, stack, c⟩ : Moment κ σ φ).turn host p.2)
      ((⟨q.1, s, stack, c⟩ : Moment κ σ φ).turn host q.2) := by
  obtain ⟨w, v, t, rfl, rfl, h⟩ := hagree.cases
  cases t with
  | done reply => exact of_worlds h _ _ _
  | next request p => exact of_worlds h _ _ _
  | halt ending => exact of_worlds h _ _ _
  | enter run => exact (of_worlds h _ _ _).move _ _

theorem step (hR : ServiceCongruence R) (h : Alike R m m')
    (hperform : ∀ request, m.control = .perform request →
      Agree R (m.world.perform request) (m'.world.perform request)) :
    Alike R (m.step host) (m'.step host) := by
  obtain ⟨w, s, stack, c⟩ := m
  obtain ⟨v, s', stack', c'⟩ := m'
  obtain ⟨hworld, rfl, rfl, rfl⟩ := h
  cases c' with
  | ended ending => exact of_worlds hworld _ _ _
  | perform request => exact turn (hperform request rfl) _ _ _
  | reply reply =>
    cases stack' with
    | nil => exact of_worlds hworld _ _ _
    | cons frame stack =>
      cases frame with
      | pending p => exact turn (hR.resume hworld reply p) _ _ _
      | host invocation f => exact (of_worlds hworld _ _ _).move _ _

theorem observation (h : Alike R m m')
    (hperform : ∀ request, m.control = .perform request →
      Agree R (m.world.perform request) (m'.world.perform request)) :
    m'.observation = m.observation := by
  unfold Moment.observation
  rw [h.control, h.stack]
  cases hcontrol : m.control with
  | perform request => simp only [(hperform request hcontrol).2]
  | reply reply => split <;> simp_all
  | ended ending => rfl

/-- **Runs from moments that are `Alike` stay alike**, and host code sees the same in both, as long
as the requests go the same way. -/
theorem run_of_requests (hR : ServiceCongruence R) (host : Host κ σ φ) (h : Alike R m m') (n : Nat)
    (hperform : ∀ k < n, ∀ v request, R (m.run host k).world v →
      (m.run host k).control = .perform request →
      Agree R ((m.run host k).world.perform request) (v.perform request)) :
    Alike R (m.run host n) (m'.run host n) ∧
      m'.trace host Moment.observation n = m.trace host Moment.observation n := by
  induction n with
  | zero => exact ⟨h, rfl⟩
  | succ n ih =>
    obtain ⟨halike, htrace⟩ := ih fun k hk => hperform k (by omega)
    have hnow := fun request => hperform n (Nat.lt_succ_self n) _ request halike.world
    rw [run_succ, run_succ, trace_succ, trace_succ, htrace, halike.observation hnow]
    exact ⟨halike.step hR hnow, rfl⟩

theorem run (hR : ProcessCongruence R) (host : Host κ σ φ) (h : Alike R m m') (n : Nat)
    (hperform : ∀ k < n, ∀ v request, R (m.run host k).world v →
      (m.run host k).control = .perform request →
      Agree R ((m.run host k).world.perform request) (v.perform request)) :
    Alike R (m.run host n) (m'.run host n) ∧
      m'.trace host Moment.observation n = m.trace host Moment.observation n :=
  h.run_of_requests hR.toServiceCongruence host n hperform

end Alike

end Moment

end ObjectRuntime
