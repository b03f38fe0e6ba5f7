import ObjectRuntime.Procedure
import ObjectRuntime.Proofs.Alone
import ObjectRuntime.Proofs.Handles.Surplus
/-!
# Accounting for handles

What the operations on handles do, to the `surplus` of an object above all; and that handles that
are `Covered` stay covered, so that they can be dropped in any order.
-/

namespace ObjectRuntime

variable {κ σ φ : Type}

/-- The runtime and the object of the new handle that a request makes of a new reference. -/
def Request.borrows (w : World κ) : Request κ → Option (RuntimeId × Ref)
  | .handle (.borrow i (some r)) => some (i, r)
  | .handle (.nil i) => some (i, .nil i)
  | .handle (.clone h) => (w.handle? h).map fun handle => (handle.runtime, handle.object)
  | _ => none

theorem World.perform_of_borrows {w : World κ} {request : Request κ} {i : RuntimeId} {r : Ref}
    (h : request.borrows w = some (i, r)) : w.perform request = w.borrow i r := by
  unfold Request.borrows at h
  split at h
  · cases h
    rfl
  · cases h
    rfl
  next handle =>
    obtain ⟨handle, hh, h⟩ := Option.map_eq_some_iff.1 h
    cases h
    simp only [perform, operateHandle, hh]
  · cases h

namespace Moment

/-- What goes on at this moment is the operation `op` of runtime `i`, as it goes on alone, and then
its result becomes a handle: one is made of an object without another reference, none is made of
null, and an error is passed on. -/
structure AdoptsResult (host : Host κ σ φ) (m : Moment κ σ φ) (i : RuntimeId) (op : Operation κ)
    (name : String) : Prop where
  runs : ∀ n, (∀ k < n, ¬ ((alone m.world m.state (.on i op)).run host k).IsBack) →
    m.run host (n + 1) =
        ((alone m.world m.state (.on i op)).run host n).above
          (.pending (.adopt i name) :: m.stack) ∧
      m.trace host observation (n + 1) =
        (alone m.world m.state (.on i op)).trace host observation n
  adopts : ∀ n w s r,
    (alone m.world m.state (.on i op)).Gives host n w s (.ok (.object (some r))) →
      m.run host (n + 2) =
        ⟨(w.addHandle r i).1, s, m.stack, .reply (.ok (.handle (some w.handles.size)))⟩
  null : ∀ n w s, (alone m.world m.state (.on i op)).Gives host n w s (.ok (.object none)) →
    m.run host (n + 2) = ⟨w, s, m.stack, .reply (.error (.nullObject name))⟩
  fails : ∀ n w s e, (alone m.world m.state (.on i op)).Gives host n w s (.error e) →
    m.run host (n + 2) = ⟨w, s, m.stack, .reply (.error e)⟩

/-- What the operations on handles do at this moment. -/
structure HandleAccounts (host : Host κ σ φ) (m : Moment κ σ φ) : Prop where
  null : ∀ i, m.control = .perform (.handle (.adopt i none)) ∨
      m.control = .perform (.handle (.borrow i none)) →
    m.step host = { m with control := .reply (.ok (.handle none)) }
  adopt : ∀ i r, m.control = .perform (.handle (.adopt i (some r))) →
    m.step host = { m with
        world := (m.world.addHandle r i).1
        control := .reply (.ok (.handle (some m.world.handles.size))) } ∧
      ∀ o, (m.step host).world.surplus o =
        (m.world.surplus o).map (· - if o = r then 1 else 0)
  borrow : ∀ request i r c, m.control = .perform request → request.borrows m.world = some (i, r) →
    m.world.heap.live? r = some c →
      (m.step host).control = .reply (.ok (.handle (some m.world.handles.size))) ∧
      (m.step host).world.handle? m.world.handles.size = some { object := r, runtime := i } ∧
      ∀ o, (m.step host).world.surplus o = m.world.surplus o
  drop : ∀ h handle, m.control = .perform (.handle (.drop h)) →
    m.world.handle? h = some handle →
      m.step host = { m with
        world := m.world.endHandle h
        stack := .pending .orFatal :: m.stack
        control := .perform (.on handle.runtime (.release (some handle.object))) } ∧
      ∀ rt c, m.world.runtimes[handle.runtime]? = some rt →
        m.world.heap.live? handle.object = some c →
          ∀ o, (m.run host 2).world.surplus o = m.world.surplus o
  intoPointer : ∀ h handle, m.control = .perform (.handle (.intoPointer h)) →
    m.world.handle? h = some handle →
      m.step host = { m with
        world := m.world.endHandle h
        control := .reply (.ok (.object (some handle.object))) } ∧
      ∀ o, (m.step host).world.surplus o =
        (m.world.surplus o).map (· + if o = handle.object then 1 else 0)
  lookup : ∀ h handle name, m.control = .perform (.handle (.lookup h name)) →
    m.world.handle? h = some handle →
      m.AdoptsResult host handle.runtime (.lookup (some handle.object) name) "lookup" ∧
      ∀ o, (m.run host 3).world.surplus o = m.world.surplus o
  call : ∀ h handle args pointers, m.control = .perform (.handle (.call h args)) →
    m.world.handle? h = some handle → m.world.handleArgs args = some pointers →
      m.AdoptsResult host handle.runtime (.apply (some handle.object) pointers) "apply"
  methodCall : ∀ h handle name args pointers,
    m.control = .perform (.handle (.methodCall h name args)) →
    m.world.handle? h = some handle → m.world.handleArgs args = some pointers →
      m.AdoptsResult host handle.runtime (.methodCall (some handle.object) name pointers)
        "method_call"

variable (host : Host κ σ φ) {m : Moment κ σ φ}

theorem adoptsResult {request : Request κ} {i : RuntimeId} {op : Operation κ} {name : String}
    (hcontrol : m.control = .perform request)
    (hperform : m.world.perform request = (m.world, .next (.on i op) (.adopt i name))) :
    m.AdoptsResult host i op name := by
  have hstep : m.step host =
      (alone m.world m.state (.on i op)).above (.pending (.adopt i name) :: m.stack) := by
    rw [step_perform host hcontrol, hperform]
    rfl
  have hsilent : m.observation = [] := by simp only [observation, hcontrol, hperform]
  have hback : ∀ n w s reply,
      (alone m.world m.state (.on i op)).Gives host n w s reply →
        m.run host (n + 2) =
          (⟨w, s, .pending (.adopt i name) :: m.stack, .reply reply⟩ : Moment κ σ φ).step host := by
    intro n w s reply hgives
    rw [run_succ, run_cons, hstep, (above_run _ hgives.waits).1, hgives.back]
    rfl
  refine ⟨fun n hwaits => ?_, fun n w s r h => hback n w s _ h, fun n w s h => hback n w s _ h,
    fun n w s e h => hback n w s _ h⟩
  obtain ⟨hrun, htrace⟩ :=
    above_run (.pending (.adopt i name) :: m.stack) hwaits
  rw [run_cons, hstep, trace, hstep, hsilent, htrace]
  exact ⟨hrun, rfl⟩

theorem lookup_cases {i : RuntimeId} {r : Ref} {name : String}
    (h : m.AdoptsResult host i (.lookup (some r) name) "lookup") :
    (m.run host 3).world = m.world ∨ ∃ member c journal, m.world.heap.live? member = some c ∧
      (m.run host 3).world =
        (({ m.world with heap := m.world.heap.addCount member 1, journal } : World κ).addHandle
          member i).1 := by
  rcases m.world.perform_lookup_cases i r name with hw | ⟨e, hw⟩ | ⟨member, c, journal, hc, hw⟩
  · have hended : m.run host 2 = ⟨m.world, m.state, .pending (.adopt i "lookup") :: m.stack,
        .ended .fault⟩ := by
      refine (h.runs 1 fun k hk => ?_).1.trans ?_
      · obtain rfl : k = 0 := by omega
        exact not_isBack_alone
      · rw [run_cons, run_zero, step_alone, hw]
        rfl
    exact .inl (by rw [run_succ, hended, step_of_isFinal host rfl])
  · exact .inl (by rw [h.fails 1 m.world m.state e (gives_of_done host m.state hw)])
  · exact .inr ⟨member, c, journal, hc,
      by rw [h.adopts 1 _ m.state member (gives_of_done host m.state hw)]⟩

theorem surplus_lookup {i : RuntimeId} {r : Ref} {name : String}
    (h : m.AdoptsResult host i (.lookup (some r) name) "lookup") (o : Ref) :
    (m.run host 3).world.surplus o = m.world.surplus o := by
  rcases lookup_cases host h with hw | ⟨member, c, journal, -, hw⟩
  · rw [hw]
  · rw [hw]
    exact (World.surplus_congr rfl rfl o).trans (m.world.surplus_retain_addHandle member i o)

theorem handleAccounts (m : Moment κ σ φ) : m.HandleAccounts host where
  null i h := by
    rcases h with h | h <;> exact step_of_done h rfl
  adopt i r h := by
    have hstep : m.step host = { m with
        world := (m.world.addHandle r i).1
        control := .reply (.ok (.handle (some m.world.handles.size))) } := step_of_done h rfl
    refine ⟨hstep, fun o => ?_⟩
    rw [hstep]
    exact m.world.surplus_addHandle r i o
  borrow request i r c hcontrol hborrows hc := by
    rcases m.world.borrow_cases i r with ⟨hnone, -⟩ | ⟨_, -, hw⟩
    · cases hc.symm.trans hnone
    · rw [step_of_done hcontrol ((World.perform_of_borrows hborrows).trans hw)]
      refine ⟨rfl, ?_, m.world.surplus_retain_addHandle r i⟩
      simp [World.handle?, World.addHandle]
  drop h handle hcontrol hh := by
    have hstep : m.step host = { m with
        world := m.world.endHandle h
        stack := .pending .orFatal :: m.stack
        control := .perform (.on handle.runtime (.release (some handle.object))) } := by
      rw [step_perform host hcontrol]
      simp only [World.perform, World.operateHandle, hh]
      rfl
    refine ⟨hstep, fun rt c hrt hc o => ?_⟩
    have hworld : (m.run host 2).world =
        ((m.world.endHandle h).operate handle.runtime rt (.release (some handle.object))).1 := by
      rw [run_succ, run_cons, run_zero, hstep, world_step_perform host rfl]
      exact congrArg Prod.fst (World.perform_on (w := m.world.endHandle h) hrt _)
    rw [hworld]
    exact World.surplus_drop hh hc (World.handles_operate _ _ _ _) rfl o
  intoPointer h handle hcontrol hh := by
    have hstep : m.step host = { m with
        world := m.world.endHandle h
        control := .reply (.ok (.object (some handle.object))) } :=
      step_of_done hcontrol (by simp only [World.perform, World.operateHandle, hh])
    refine ⟨hstep, fun o => ?_⟩
    rw [hstep]
    exact World.surplus_endHandle hh o
  lookup h handle name hcontrol hh := by
    have hadopts : m.AdoptsResult host handle.runtime (.lookup (some handle.object) name)
        "lookup" :=
      adoptsResult host hcontrol (by simp only [World.perform, World.operateHandle, hh])
    exact ⟨hadopts, surplus_lookup host hadopts⟩
  call h handle args pointers hcontrol hh hargs :=
    adoptsResult host hcontrol (by simp only [World.perform, World.operateHandle, hh, hargs])
  methodCall h handle name args pointers hcontrol hh hargs :=
    adoptsResult host hcontrol (by simp only [World.perform, World.operateHandle, hh, hargs])

/-! ## Handles that are covered -/

/-- Whether this step gives up a reference or takes an object out of use, for all that is known
about the world: a release, a free, a count that is written, or a handle made of a reference that
somebody has. -/
def givesUp (m : Moment κ σ φ) : Bool :=
  match m.control, m.stack with
  | .perform (.on _ (.release (some _))), _ => true
  | .perform (.handle (.adopt _ (some _))), _ => true
  | .perform (.service (.freeObject (some _))), _ => true
  | .perform (.service (.setCount _ _)), _ => true
  | .reply (.ok (.object (some _))), .pending (.adopt _ _) :: _ => true
  | _, _ => false

/-- Whether a handle is dropped. -/
def drops (m : Moment κ σ φ) : Bool :=
  match m.control with
  | .perform (.handle (.drop _)) => true
  | _ => false

/-- Whether a member is looked up through a handle. -/
def looksUp (m : Moment κ σ φ) : Bool :=
  match m.control with
  | .perform (.handle (.lookup _ _)) => true
  | _ => false

/-- **A step that gives no reference up keeps all handles `Covered`.** -/
theorem covered_step (h : m.world.Covered) (hkeeps : m.givesUp = false) :
    (m.step host).world.Covered := by
  obtain ⟨w, s, stack, control⟩ := m
  cases control with
  | ended ending => exact h
  | perform request =>
    rw [world_step]
    by_cases hhandle : ∃ op, request = .handle op
    · obtain ⟨op, rfl⟩ := hhandle
      refine World.Covered.operateHandle h ?_
      rintro i r rfl
      cases hkeeps
    · have hout := w.perform_outcome request
      have hrelease : ∀ r i, request ≠ .on i (.release (some r)) := by
        rintro r i rfl
        cases hkeeps
      have hset : ∀ r n, request ≠ .service (.setCount r n) := by
        rintro r n rfl
        cases hkeeps
      refine h.of_stays (w.handles_perform fun op hop => hhandle ⟨op, hop⟩) (fun r c' hc' => ?_)
        fun r c hc => ?_
      · rcases hout.origin hset hc' with ⟨hnone, hone⟩ | ⟨c, hc, hle | ⟨⟨i, hi⟩, -⟩⟩
        · exact .inl ⟨hnone, by omega⟩
        · exact .inr ⟨c, hc, hle⟩
        · exact absurd hi (hrelease r i)
      · have hfree : request ≠ .service (.freeObject (some r)) := by
          rintro rfl
          cases hkeeps
        obtain ⟨c', hc', -⟩ := hout.stays (hset r) (hrelease r) hfree hc
        exact ⟨c', hc'⟩
  | reply reply =>
    rw [world_step]
    cases stack with
    | nil => exact h
    | cons frame stack =>
      cases frame with
      | host => exact h
      | pending p =>
        cases p with
        | releaseMethod i method => exact h
        | keep kept => cases reply <;> exact h
        | orFatal =>
          cases reply with
          | ok value => exact h
          | error e => exact ⟨h.enough, h.inUse⟩
        | adopt i name =>
          unfold World.resume
          dsimp only
          split
          · cases hkeeps
          · exact h
          · exact h

theorem covered_lookup (h : m.world.Covered) (hlooks : m.looksUp = true) :
    (m.run host 3).world.Covered := by
  obtain ⟨j, name, hcontrol⟩ : ∃ j name, m.control = .perform (.handle (.lookup j name)) := by
    unfold looksUp at hlooks
    split at hlooks
    next j name hcontrol => exact ⟨j, name, hcontrol⟩
    · cases hlooks
  cases hh : m.world.handle? j with
  | none =>
    have hended : m.step host = { m with control := .ended .fault } :=
      step_of_halt hcontrol (by simp only [World.perform, World.operateHandle, hh])
    rw [run_cons, hended, run_of_isFinal host rfl]
    exact h
  | some handle =>
    obtain ⟨hadopts, -⟩ := (handleAccounts host m).lookup j handle name hcontrol hh
    rcases lookup_cases host hadopts with hw | ⟨member, c, journal, hc, hw⟩
    · rw [hw]
      exact h
    · have hcovered := h.retain_addHandle hc handle.runtime
      rw [hw]
      exact ⟨hcovered.enough, hcovered.inUse⟩

theorem control_of_enter {run : Invocation κ} (hrole : run.role.isDestructor = true) :
    (∃ request, (m.turn host (.enter run)).control = .perform request) ∨
      (m.turn host (.enter run)).control = .reply (.ok .unit) := by
  have hreply (answer : Answer) : run.role.reply answer = (.ok .unit : Reply κ) := by
    cases hr : run.role with
    | nativeDestructor | closureDestructor => rfl
    | nativeApply | closureApply => simp [hr, Role.isDestructor] at hrole
  simp only [turn]
  cases (host.enter run m.state).2 with
  | ask request frame => exact .inl ⟨request, rfl⟩
  | finish answer => exact .inr (congrArg Control.reply (hreply answer))

/-- A handle that is dropped while all are `Covered` leaves the others covered, whatever its release
goes on with; the release is not the end of the run and does not fail for want of a reference. -/
theorem covered_drop (h : m.world.Covered) (hdrops : m.drops = true) :
    (m.run host 2).world.Covered ∧
      ∀ j handle rt, m.control = .perform (.handle (.drop j)) → m.world.handle? j = some handle →
        m.world.runtimes[handle.runtime]? = some rt →
          (∀ ending, (m.run host 2).control ≠ .ended ending) ∧
            ∀ kind n, (m.run host 2).control ≠ .reply (.error (.countUnderflow kind n)) := by
  obtain ⟨j, hcontrol⟩ : ∃ j, m.control = .perform (.handle (.drop j)) := by
    unfold drops at hdrops
    split at hdrops
    next j hcontrol => exact ⟨j, hcontrol⟩
    · cases hdrops
  cases hh : m.world.handle? j with
  | none =>
    have hended : m.step host = { m with control := .ended .fault } :=
      step_of_halt hcontrol (by simp only [World.perform, World.operateHandle, hh])
    rw [run_cons, hended, run_of_isFinal host rfl]
    refine ⟨h, fun j' handle rt hcontrol' hh' => ?_⟩
    cases hcontrol.symm.trans hcontrol'
    cases hh.symm.trans hh'
  | some handle =>
    obtain ⟨hstep, -⟩ := (handleAccounts host m).drop j handle hcontrol hh
    rw [run_succ, run_cons, run_zero, hstep]
    cases hrt : m.world.runtimes[handle.runtime]? with
    | none =>
      rw [step_of_halt rfl (World.perform_on_none (w := m.world.endHandle j) hrt _)]
      refine ⟨h.endHandle hh, fun j' handle' rt hcontrol' hh' hrt' => ?_⟩
      cases hcontrol.symm.trans hcontrol'
      cases hh.symm.trans hh'
      cases hrt.symm.trans hrt'
    | some rt =>
      obtain ⟨hcovered, hgoes⟩ := h.drop hh handle.runtime rt
      have hperform := World.perform_on (w := m.world.endHandle j) hrt
        (.release (some handle.object))
      rw [step_perform host rfl, hperform]
      refine ⟨by rw [world_turn]; exact hcovered, fun j' handle' rt' _ _ _ => ?_⟩
      rcases hgoes with ⟨reply, hdone, hreply⟩ | ⟨run, hrun, hrole⟩
      · rw [hdone]
        exact ⟨fun ending hended => (by cases hended), fun kind n hback => hreply kind n
          (Control.reply.inj hback)⟩
      · rw [hrun]
        rcases control_of_enter host hrole with ⟨request, hasks⟩ | hback
        · exact ⟨fun ending hended => (by cases hasks.symm.trans hended),
            fun kind n hfails => (by cases hasks.symm.trans hfails)⟩
        · exact ⟨fun ending hended => (by cases hback.symm.trans hended),
            fun kind n hfails => (by cases hback.symm.trans hfails)⟩

/-- **Handles that are covered stay covered** while they are cloned, dropped, looked up through and
made of new references in any order, as long as nothing else gives up a reference that is a
handle's. -/
theorem covered_run {n : Nat} (h : m.world.Covered)
    (howned : ∀ k < n, (m.run host k).givesUp = true →
      (∀ j, k = j + 1 → (m.run host j).drops = false) →
      (∀ j, k = j + 2 → (m.run host j).looksUp = false) →
      (m.run host k).world.Covered → (m.run host (k + 1)).world.Covered) :
    ∀ k ≤ n, (m.run host k).world.Covered := by
  intro k
  induction k using Nat.strongRecOn with
  | ind k ih =>
    intro hk
    cases k with
    | zero => exact h
    | succ k =>
      have hnow := ih k (by omega) (by omega)
      cases hgives : (m.run host k).givesUp with
      | false =>
        rw [run_succ]
        exact covered_step host hnow hgives
      | true =>
        by_cases hdrops : ∃ j, k = j + 1 ∧ (m.run host j).drops = true
        · obtain ⟨j, rfl, hdrops⟩ := hdrops
          have := (covered_drop host (ih j (by omega) (by omega)) hdrops).1
          rwa [← run_add] at this
        · by_cases hlooks : ∃ j, k = j + 2 ∧ (m.run host j).looksUp = true
          · obtain ⟨j, rfl, hlooks⟩ := hlooks
            have := covered_lookup host (ih j (by omega) (by omega)) hlooks
            rwa [← run_add] at this
          · refine howned k (by omega) hgives (fun j hj => ?_) (fun j hj => ?_) hnow
            · exact Bool.not_eq_true _ ▸ fun hd => hdrops ⟨j, hj, hd⟩
            · exact Bool.not_eq_true _ ▸ fun hl => hlooks ⟨j, hj, hl⟩

/-- **The accounts of the handles.**  Every operation on handles changes the difference between the
count of an object and the handles held for it by what it takes over or gives away, whoever asks for
it and wherever.  From any moment at which each object in use has a reference for each handle held
for it, handles can be dropped in any order: each drop finds its object in use with a reference to
take, whatever destructors do with references of their own. -/
theorem handles_account (m : Moment κ σ φ) (n : Nat) (hcovered : m.world.Covered)
    (howned : ∀ k < n, (m.run host k).givesUp = true →
      (∀ j, k = j + 1 → (m.run host j).drops = false) →
      (∀ j, k = j + 2 → (m.run host j).looksUp = false) →
      (m.run host k).world.Covered → (m.run host (k + 1)).world.Covered) :
    (∀ m' : Moment κ σ φ, m'.HandleAccounts host) ∧
      ∀ k ≤ n, (m.run host k).world.Covered ∧ ∀ j handle rt,
        (m.run host k).control = .perform (.handle (.drop j)) →
        (m.run host k).world.handle? j = some handle →
        (m.run host k).world.runtimes[handle.runtime]? = some rt →
          (∀ ending, (m.run host (k + 2)).control ≠ .ended ending) ∧
            ∀ kind c, (m.run host (k + 2)).control ≠ .reply (.error (.countUnderflow kind c)) := by
  refine ⟨handleAccounts host, fun k hk => ?_⟩
  have hnow := covered_run host hcovered howned k hk
  refine ⟨hnow, fun j handle rt hcontrol hh hrt => ?_⟩
  have hdrops : (m.run host k).drops = true := by simp only [drops, hcontrol]
  have hend := (covered_drop host hnow hdrops).2 j handle rt hcontrol hh hrt
  rwa [← run_add] at hend

/-- A client that holds two handles for an object and drops them. -/
def cloneAndDrop : Procedure Unit Unit Answer :=
  .ask (.service (.startRuntime (some 1))) fun _ =>
  .ask (.on 0 (.register 10)) fun _ =>
  .ask (.on 0 (.newObject 10 0)) fun _ =>
  .ask (.handle (.borrow 0 (some (.object 0)))) fun _ =>
  .ask (.handle (.clone 0)) fun _ =>
  .ask (.handle (.drop 0)) fun _ =>
  .ask (.handle (.drop 1)) fun _ =>
  .done (.ok none)

/-- Destructors that do nothing. -/
def silentHost : Host Unit Unit (Procedure.Waiting Unit Unit) :=
  Procedure.toHost fun _ => .done (.ok none)

theorem handles_account_cloneAndDrop :
    (start ({} : World Unit) () (cloneAndDrop.toMove ()).2).world.Covered ∧
      (∀ k < 17, ((start {} () (cloneAndDrop.toMove ()).2).run silentHost k).givesUp = true →
        ∃ j < k, k = j + 1 ∧
          ((start {} () (cloneAndDrop.toMove ()).2).run silentHost j).drops = true) ∧
      ((start {} () (cloneAndDrop.toMove ()).2).run silentHost 17).world.Covered ∧
      ∀ kind c, ((start {} () (cloneAndDrop.toMove ()).2).run silentHost 16).control ≠
        .reply (.error (.countUnderflow kind c)) := by
  have hcovered : (start ({} : World Unit) () (cloneAndDrop.toMove ()).2).world.Covered :=
    ⟨fun r c hc => by simp [Heap.live?] at hc,
      fun r hr => by simp [World.holders] at hr⟩
  have hdrops : ∀ k < 17,
      ((start {} () (cloneAndDrop.toMove ()).2).run silentHost k).givesUp = true →
        ∃ j < k, k = j + 1 ∧
          ((start {} () (cloneAndDrop.toMove ()).2).run silentHost j).drops = true := by decide
  obtain ⟨-, haccounts⟩ := handles_account silentHost _ 17 hcovered
    fun k hk hgives hnone _ _ => by
      obtain ⟨j, -, hj, hdrop⟩ := hdrops k hk hgives
      cases hdrop.symm.trans (hnone j hj)
  exact ⟨hcovered, hdrops, (haccounts 17 (Nat.le_refl 17)).1,
    ((haccounts 14 (by decide)).2 1 ⟨.object 0, 0, true⟩ _ rfl rfl rfl).2⟩

end Moment

end ObjectRuntime
