import ObjectRuntime.Proofs.Application
import ObjectRuntime.Proofs.Journal.Notes
import ObjectRuntime.Proofs.KindDispatch
import ObjectRuntime.Proofs.Storage
import ObjectRuntime.Proofs.Undisturbed
/-!
# The journal is exact

A collector that takes everything has, at every moment of every run, exactly what the steps so far
reported.  What they report on each `Topic` is told by how the requests went (`Request.due`): a
registration, an attachment, a look-up or an overwritten member is reported if it happened and not
otherwise, and an application or a destruction immediately before the slot is started
(`recordsDispatch`).
-/

namespace ObjectRuntime

variable {κ σ φ : Type}

/-- What an event is about that reports a change of a registry or a dispatch. -/
inductive Topic where
  | registration
  | attachment
  | overwrite
  | lookup
  | application
  | destruction
  deriving DecidableEq, Repr

namespace Event

def topic? : Event κ → Option Topic
  | kindRegistered _ => some .registration
  | destructorAttached .. | applyAttached .. => some .attachment
  | memberOverwrite .. => some .overwrite
  | lookup .. => some .lookup
  | apply .. => some .application
  | objectDestroy .. => some .destruction
  | allocation .. | deallocation _ | allocatorReplaced | objectNew .. | objectFree _
  | builtinsRegistered _ | bootstrapped .. | methodCall .. | foreignCall .. | initialized | shutdown
  | fatal _ => none

def isOn (topic : Topic) (e : Event κ) : Bool := e.topic? == some topic

end Event

/-! ## What is due on a topic -/

/-- The look-up of `name` for an object, by the object's kind. -/
def World.lookupOf (w : World κ) (r : Ref) (name : String) : List (Event κ) :=
  (w.heap.live? r).elim [] fun c => [.lookup c.kind name]

/-- What is due on a topic when an operation of a runtime goes on like this. -/
def Operation.due (w : World κ) (rt : Runtime κ) (turn : Turn κ) :
    Topic → Operation κ → List (Event κ)
  | .registration, .register kind => turn.onSuccess [.kindRegistered kind]
  | .attachment, .setDestructor kind slot => turn.onSuccess [.destructorAttached kind slot]
  | .attachment, .setApply kind slot => turn.onSuccess [.applyAttached kind slot]
  | .overwrite, .setMember kind name (some _) =>
    match rt.registry.member kind name with
    | .ok old => [.memberOverwrite kind name old]
    | .error _ => []
  | .lookup, .lookup (some r) name | .lookup, .methodCall (some r) name _ =>
    turn.onSuccess (w.lookupOf r name)
  | .application, .apply (some r) args =>
    match resolve w.heap rt.registry rt.hopBudget r 0 with
    | .land _ kind _ hops => [.apply kind args.length hops]
    | _ => []
  | .destruction, .release (some r) =>
    match w.heap.live? r with
    | some c =>
      if c.count = 1 ∧ rt.registry.contains c.kind then [.objectDestroy c.kind r] else []
    | none => []
  | _, _ => []

/-- What is due on a topic when a request goes on like this.  A runtime that is to be started
registers its built-in kinds, whatever becomes of it. -/
def Request.due (w : World κ) (turn : Turn κ) (topic : Topic) (request : Request κ) :
    List (Event κ) :=
  match topic, request with
  | _, .on i op => w.runtimes[i]?.elim [] fun rt => op.due w rt turn topic
  | .registration, _ =>
    if request.starts w then [.kindRegistered nilKind, .kindRegistered functionKind] else []
  | _, _ => []

/-- What is due on a topic at this moment. -/
def Moment.due (topic : Topic) (m : Moment κ σ φ) : List (Event κ) :=
  match m.control with
  | .perform request => request.due m.world (m.world.perform request).2 topic
  | _ => []

theorem Registry.contains_iff_destructor {g : Registry κ} {kind : KindId} :
    g.contains kind = true ↔ ∃ slot, g.destructor kind = .ok slot := by
  unfold contains destructor find Table.contains
  cases g.kinds.get? kind <;> simp [Except.map]

theorem Registry.destruction_eq (g : Registry κ) (kind : KindId) (r : Ref) :
    g.destruction kind r = if g.contains kind then
      .objectDestroy kind r :: (if g.reclaims kind then reclamation r else []) else [] := by
  unfold destruction reclaims
  cases hslot : g.destructor kind with
  | error e =>
    have hout : ¬ g.contains kind = true := fun h => by
      obtain ⟨slot, hok⟩ := contains_iff_destructor.1 h
      cases hslot.symm.trans hok
    rw [if_neg hout]
  | ok slot =>
    rw [if_pos (contains_iff_destructor.2 ⟨slot, hslot⟩)]
    split <;> simp_all

theorem filter_reclamation (r : Ref) (topic : Topic) :
    (reclamation r : List (Event κ)).filter (·.isOn topic) = [] := by
  cases topic <;> rfl

theorem Registry.filter_destruction (g : Registry κ) (kind : KindId) (r : Ref) (topic : Topic) :
    (g.destruction kind r).filter (·.isOn topic) =
      if topic = .destruction ∧ g.contains kind then [.objectDestroy kind r] else [] := by
  rw [destruction_eq]
  by_cases hin : g.contains kind = true
  · have hafter : ((if g.reclaims kind then reclamation r else []) : List (Event κ)).filter
        (·.isOn topic) = [] := by
      split
      · exact filter_reclamation r topic
      · rfl
    rw [if_pos hin, List.filter_cons, hafter]
    cases topic <;> simp [hin, Event.isOn, Event.topic?]
  · simp [hin]

theorem Operation.filter_reports (w : World κ) (rt : Runtime κ) (turn : Turn κ)
    (op : Operation κ) (topic : Topic) :
    (op.reports w rt turn).filter (·.isOn topic) = op.due w rt turn topic := by
  cases op with
  | register | setDestructor | setApply =>
    rw [reports, turn.filter_onSuccess]
    cases topic <;> simp [due, Event.isOn, Event.topic?]
  | setMember kind name value =>
    cases value with
    | none => cases topic <;> rfl
    | some r =>
      simp only [reports, Registry.overwriting]
      cases hm : rt.registry.member kind name <;> cases topic <;>
        simp [due, hm, Event.isOn, Event.topic?]
  | newObject kind payload =>
    rw [reports]
    cases turn.object? <;> cases topic <;> rfl
  | nil | retain => cases topic <;> rfl
  | release object =>
    cases object with
    | none => cases topic <;> rfl
    | some r =>
      simp only [reports]
      cases hc : w.heap.live? r with
      | none => cases topic <;> simp [due, hc]
      | some c =>
        simp only [Option.elim_some]
        by_cases hone : c.count = 1
        · rw [if_pos hone, Registry.filter_destruction]
          cases topic <;> simp [due, hc, hone]
        · rw [if_neg hone]
          cases topic <;> simp [due, hc, hone]
  | lookup object name =>
    cases object with
    | none => cases topic <;> rfl
    | some r =>
      rw [reports, turn.filter_onSuccess]
      cases hc : w.heap.live? r <;> cases topic <;>
        simp [due, World.lookupOf, hc, Event.isOn, Event.topic?]
  | apply callee args =>
    cases callee with
    | none => cases topic <;> rfl
    | some r =>
      simp only [reports]
      cases hr : resolve w.heap rt.registry rt.hopBudget r 0 <;> cases topic <;>
        simp [due, hr, Event.isOn, Event.topic?]
  | methodCall object name args =>
    cases object with
    | none => cases topic <;> rfl
    | some r =>
      rw [reports, turn.filter_onSuccess]
      cases hc : w.heap.live? r <;> cases topic <;>
        simp [due, World.lookupOf, hc, Event.isOn, Event.topic?]

theorem filter_bootstrapping (nil : Ref) (cap : DepthCap) (turn : Turn κ) (topic : Topic) :
    (bootstrapping nil cap turn).filter (·.isOn topic) =
      if topic = .registration then [.kindRegistered nilKind, .kindRegistered functionKind]
      else [] := by
  unfold bootstrapping Turn.onSuccess
  split <;> cases topic <;> rfl

theorem World.filter_sharedReports (w : World κ) (turn : Turn κ) (topic : Topic) :
    (w.sharedReports turn).filter (·.isOn topic) =
      if topic = .registration ∧ w.shared.isNone then
        [.kindRegistered nilKind, .kindRegistered functionKind]
      else [] := by
  unfold sharedReports
  split
  next h => simp [filter_bootstrapping, h]
  next h => simp [h]

theorem Turn.filter_lastWords (turn : Turn κ) (topic : Topic) :
    (turn.lastWords.filterMap (·.event?)).filter (·.isOn topic) = [] := by
  unfold lastWords
  split
  · rfl
  · rfl

theorem ForeignCall.filter_notes (w : World κ) (turn : Turn κ) (call : ForeignCall κ)
    (topic : Topic) :
    ((call.notes w turn).filterMap (·.event?)).filter (·.isOn topic) =
      (Request.foreign call).due w turn topic := by
  have hannouncement : call.announcement.filter (·.isOn topic) = [] := by
    unfold announcement
    split
    · split <;> rfl
    · split <;> rfl
    · rfl
  have hlogging : ((call.logging w turn).filterMap (·.event?)).filter (·.isOn topic) = [] := by
    unfold logging Turn.onSuccess
    split
    · split <;> rfl
    · rfl
    · rfl
  simp only [notes, List.filterMap_append, Note.filterMap_event?, List.filter_append,
    hannouncement, hlogging, List.nil_append, List.append_nil]
  cases hneeds : call.needsRuntime with
  | false => cases topic <;> simp [Request.due, Request.starts, hneeds]
  | true =>
    rw [if_pos rfl, World.filter_sharedReports]
    cases topic <;> simp [Request.due, Request.starts, hneeds]

theorem Service.filter_notes (w : World κ) (turn : Turn κ) (service : Service κ) (topic : Topic) :
    ((service.notes w turn).filterMap (·.event?)).filter (·.isOn topic) =
      (Request.service service).due w turn topic := by
  cases service with
  | startRuntime cap =>
    rw [notes, Note.filterMap_event?, filter_bootstrapping]
    cases topic <;> rfl
  | sharedRuntime =>
    rw [notes, Note.filterMap_event?, World.filter_sharedReports]
    cases topic <;> simp [Request.due, Request.starts]
  | createObject | createFunction =>
    rw [notes]
    cases turn.object? <;> cases topic <;> rfl
  | allocate size =>
    rw [notes]
    cases turn.block? <;> cases topic <;> rfl
  | freeObject object | freeBlock object =>
    cases object with
    | none => cases topic <;> rfl
    | some released =>
      simp only [notes, Turn.onSuccess]
      split <;> cases topic <;> rfl
  | requireRuntime | install | installed | traffic | startLogging | startLoggingWith | stopLogging
    | loggingStarted | fatal | isReleased | count | kind | setCount | payload | write =>
    cases topic <;> rfl

/-- **What a request reports on a topic is what is due**, by `Request.due`. -/
theorem Request.filter_notes (w : World κ) (turn : Turn κ) (request : Request κ) (topic : Topic) :
    ((request.notes w turn).filterMap (·.event?)).filter (·.isOn topic) =
      request.due w turn topic := by
  simp only [notes, List.filterMap_append, List.filter_append, Turn.filter_lastWords,
    List.append_nil]
  cases request with
  | on i op =>
    simp only [ownNotes, Note.filterMap_event?]
    cases hrt : w.runtimes[i]? with
    | none => cases topic <;> simp [due, hrt]
    | some rt =>
      have hdue : (Request.on i op).due w turn topic = op.due w rt turn topic := by
        cases topic <;> simp [due, hrt]
      rw [hdue]
      exact op.filter_reports w rt turn topic
  | query | handle => cases topic <;> rfl
  | foreign call => exact call.filter_notes w turn topic
  | service service => exact service.filter_notes w turn topic

theorem Moment.filter_reports (m : Moment κ σ φ) (topic : Topic) :
    m.reports.filter (·.isOn topic) = m.due topic := by
  obtain ⟨w, s, stack, control⟩ := m
  cases control with
  | ended ending => rfl
  | perform request => exact request.filter_notes w _ topic
  | reply reply =>
    cases stack with
    | nil => rfl
    | cons frame stack =>
      cases frame with
      | pending p => exact Turn.filter_lastWords _ topic
      | host invocation f => rfl

/-! ## What a collector has -/

theorem Journal.foldl_note_collector (override : Option Filter) {j : Journal κ} {c : Collector κ}
    (hc : j.collector = some c) (l : List (Note κ)) :
    (l.foldl (note override) j).collector = some { c with events := c.events ++
      ((l.filterMap (·.event?)).filter fun e => c.threshold.admits e.level).toArray } := by
  induction l generalizing j c with
  | nil => simpa using hc
  | cons entry l ih =>
    cases entry with
    | event e =>
      have hemit : (j.emit e).collector = some (c.record e) := by rw [emit, hc]
      have hrest := ih hemit
      rw [Collector.record] at hrest
      by_cases h : c.threshold.admits e.level = true
      · simpa [note, h] using hrest
      · simpa [note, h] using hrest
    | opening settings =>
      have hstart : (j.start settings override).collector = some c := by
        unfold start
        split <;> exact hc
      exact ih hstart
    | closing =>
      have hclose : j.closeFile.collector = some c := hc
      exact ih hclose

namespace World

/-- The events that the host's collector has, in order. -/
def recorded (w : World κ) : List (Event κ) := w.journal.collector.elim [] (·.events.toList)

/-- Whether the host collects everything. -/
def Traced (w : World κ) : Prop :=
  ∃ events, w.journal.collector = some { threshold := .trace, events }

theorem Notes.recorded {w v : World κ} {l : List (Note κ)} (h : w.Notes l v) (hw : w.Traced) :
    v.Traced ∧ v.recorded = w.recorded ++ l.filterMap (·.event?) := by
  obtain ⟨events, hc⟩ := hw
  have hv := Journal.foldl_note_collector w.filter hc l
  rw [← h.journal] at hv
  have hadmits (e : Event κ) : Level.trace.admits e.level = true := by
    cases e.level <;> rfl
  exact ⟨⟨_, hv⟩, by simp [World.recorded, hc, hv, hadmits]⟩

end World

/-! ## Where applications land -/

/-- That an application of `r` comes to the direct slot of `o`'s kind, after so many hops. -/
structure World.Lands (w : World κ) (rt : Runtime κ) (r o : Ref) (c : Cell κ) (hops : Nat)
    (target : Callable κ) : Prop where
  ends : Chain.Ends w.heap rt.registry r hops o
  allowed : rt.cap.Allows hops
  live : w.heap.live? o = some c
  direct : rt.registry.apply c.kind = .ok (.direct target)

theorem World.resolve_eq_land_iff {w : World κ} {rt : Runtime κ} {r o : Ref} {kind : KindId}
    {target : Callable κ} {hops : Nat} :
    resolve w.heap rt.registry rt.hopBudget r 0 = .land o kind target hops ↔
      ∃ c, w.Lands rt r o c hops target ∧ c.kind = kind := by
  constructor
  · intro h
    have hne : resolve w.heap rt.registry rt.hopBudget r 0 ≠ .exhausted := by
      rw [h]
      exact nofun
    obtain ⟨n, o', hends, hn⟩ := ends_of_resolve_ne_exhausted hne
    have hstops := hends.stopsAt hn
    rw [h] at hstops
    obtain ⟨rfl, rfl, hkind, hdirect⟩ := hstops
    obtain ⟨c, hc, rfl⟩ := Option.map_eq_some_iff.1 hkind
    refine ⟨c, ⟨hends, fun cap hcap => ?_, hc, hdirect⟩, rfl⟩
    rwa [Runtime.hopBudget, hcap] at hn
  · rintro ⟨c, h, rfl⟩
    have hhop := Registry.hop_eq_land_iff.2 h.direct
    rw [resolve_budget h.ends h.allowed, resolve, h.live]
    simp only [hhop]

theorem World.enter_of_apply {w : World κ} {i : RuntimeId} {rt : Runtime κ} {callee : Pointer}
    {args : List Pointer} {run : Invocation κ} (h : (w.apply i rt callee args).2 = .enter run) :
    ∃ r c hops target, callee = some r ∧ w.Lands rt r run.receiver c hops target ∧
      run.args = args := by
  cases callee with
  | none => cases h
  | some r =>
    simp only [apply] at h
    cases hresolve : resolve w.heap rt.registry rt.hopBudget r 0 with
    | land o kind target hops =>
      obtain ⟨c, hlands, -⟩ := resolve_eq_land_iff.1 hresolve
      rw [hresolve] at h
      have hlive : (w.emit (.apply kind args.length hops)).heap.live? o = some c := hlands.live
      obtain ⟨rfl, hargs⟩ := (startsAlike hlive hlive i target args).handed run h
      exact ⟨r, c, hops, target, rfl, hlands, hargs⟩
    | fail e =>
      rw [hresolve] at h
      cases h
    | fault =>
      rw [hresolve] at h
      cases h
    | exhausted =>
      rw [hresolve] at h
      simp only [Runtime.exhausted] at h
      split at h <;> cases h

theorem World.enter_of_release {w : World κ} {i : RuntimeId} {g : Registry κ} {r : Ref}
    {run : Invocation κ} (h : (w.release i g r).2 = .enter run) :
    run.receiver = r ∧ ∃ c, w.heap.live? r = some c ∧ c.count = 1 ∧ g.contains c.kind = true ∧
      g.reclaims c.kind = false := by
  cases hc : w.heap.live? r with
  | none =>
    rw [release, hc] at h
    cases h
  | some c =>
    rcases w.release_cases i g r hc with ⟨⟨reply, hdone⟩, -⟩ | ⟨run', henter, -, hr, hcount, -⟩
    · cases hdone.symm.trans h
    · cases henter.symm.trans h
      rw [release_of_eq_one hc hcount, destroy] at h
      cases hslot : g.destructor c.kind with
      | error e =>
        rw [hslot] at h
        cases h
      | ok slot =>
        refine ⟨hr, c, rfl, hcount, Registry.contains_iff_destructor.2 ⟨slot, hslot⟩, ?_⟩
        rw [hslot] at h
        unfold Registry.reclaims
        split
        next hstock =>
          cases hslot.symm.trans hstock
          dsimp only at h
          split at h <;> cases h
        · rfl

theorem Operation.reports_apply_of_lands {w : World κ} {rt : Runtime κ} {r o : Ref} {c : Cell κ}
    {hops : Nat} {target : Callable κ} (h : w.Lands rt r o c hops target) (turn : Turn κ)
    (args : List Pointer) :
    (Operation.apply (some r) args).reports w rt turn = [.apply c.kind args.length hops] := by
  simp only [reports, World.resolve_eq_land_iff.2 ⟨c, h, rfl⟩]

theorem Operation.reports_apply_of_missed {w : World κ} {rt : Runtime κ} {callee : Pointer}
    (h : ∀ r o c hops target, callee = some r → ¬ w.Lands rt r o c hops target) (turn : Turn κ)
    (args : List Pointer) : (Operation.apply callee args).reports w rt turn = [] := by
  cases callee with
  | none => rfl
  | some r =>
    simp only [reports]
    split
    next o kind target hops hresolve =>
      obtain ⟨c, hlands, -⟩ := World.resolve_eq_land_iff.1 hresolve
      exact absurd hlands (h r o c hops target rfl)
    · rfl

theorem Operation.reports_release {w : World κ} {rt : Runtime κ} {r : Ref} {c : Cell κ}
    (hc : w.heap.live? r = some c) (turn : Turn κ) :
    (Operation.release (some r)).reports w rt turn =
      if c.count = 1 ∧ rt.registry.contains c.kind = true then
        .objectDestroy c.kind r :: if rt.registry.reclaims c.kind then reclamation r else []
      else [] := by
  simp only [reports, hc, Option.elim_some, Registry.destruction_eq]
  by_cases hcount : c.count = 1
  · simp only [hcount, if_true, true_and]
  · rw [if_neg hcount, if_neg fun h => hcount h.1]

/-! ## What a step records -/

namespace Moment

theorem recorded_step (host : Host κ σ φ) {m : Moment κ σ φ} (hm : m.world.Traced) :
    (m.step host).world.recorded = m.world.recorded ++ m.reports :=
  ((notes_step host m).recorded hm).2

theorem recorded_step_on (host : Host κ σ φ) {m : Moment κ σ φ} (hm : m.world.Traced)
    {i : RuntimeId} {rt : Runtime κ} {op : Operation κ} (hcontrol : m.control = .perform (.on i op))
    (hrt : m.world.runtimes[i]? = some rt) : (m.step host).world.recorded =
      m.world.recorded ++ op.reports m.world rt (m.world.operate i rt op).2 := by
  have hreports : m.reports = op.reports m.world rt (m.world.operate i rt op).2 := by
    simp only [reports, notes, hcontrol, Request.notes, Request.ownNotes, World.perform, hrt,
      (m.world.operate_fits i rt op).lastWords, List.append_nil, Option.elim_some,
      Note.filterMap_event?]
  rw [recorded_step host hm, hreports]

/-- How applications and destructions are recorded at this moment. -/
structure RecordsDispatch (host : Host κ σ φ) (m : Moment κ σ φ) : Prop where
  /-- An application that comes to a direct slot is recorded, with the kind of the object at the end
  of the chain, and the slot is started next. -/
  landed : ∀ i rt r args o c hops target, m.control = .perform (.on i (.apply (some r) args)) →
    m.world.runtimes[i]? = some rt → m.world.Lands rt r o c hops target →
    (m.step host).world.recorded = m.world.recorded ++ [.apply c.kind args.length hops] ∧
      (m.world.perform (.on i (.apply (some r) args))).2 = m.world.start i target o args
  /-- One that comes to none is not recorded, and starts nothing. -/
  missed : ∀ i rt callee args, m.control = .perform (.on i (.apply callee args)) →
    m.world.runtimes[i]? = some rt →
    (∀ r o c hops target, callee = some r → ¬ m.world.Lands rt r o c hops target) →
    (m.step host).world.recorded = m.world.recorded ∧ m.observation = []
  /-- The release that takes the last reference to an object of a registered kind records that it is
  destroyed before the slot is started: the stock destructor gives the storage back after that. -/
  destroyed : ∀ i rt r c, m.control = .perform (.on i (.release (some r))) →
    m.world.runtimes[i]? = some rt → m.world.heap.live? r = some c → c.count = 1 →
    rt.registry.contains c.kind = true →
    (m.step host).world.recorded = m.world.recorded ++
      .objectDestroy c.kind r :: if rt.registry.reclaims c.kind then reclamation r else []
  /-- No other release records anything, or starts anything. -/
  spared : ∀ i rt r c, m.control = .perform (.on i (.release (some r))) →
    m.world.runtimes[i]? = some rt → m.world.heap.live? r = some c →
    (c.count ≠ 1 ∨ rt.registry.contains c.kind = false) →
    (m.step host).world.recorded = m.world.recorded ∧ m.observation = []
  /-- Whenever host code is entered, what was recorded last is the destruction of its receiver or
  the application that came to it. -/
  entered : ∀ run, .entered run ∈ m.observation → ∃ c, m.world.heap.live? run.receiver = some c ∧
    if run.role.isDestructor then
      (m.step host).world.recorded = m.world.recorded ++ [.objectDestroy c.kind run.receiver]
    else ∃ hops,
      (m.step host).world.recorded = m.world.recorded ++ [.apply c.kind run.args.length hops]

theorem observation_eq_nil {m : Moment κ σ φ} {request : Request κ}
    (hcontrol : m.control = .perform request)
    (h : ∀ run, (m.world.perform request).2 ≠ .enter run) : m.observation = [] := by
  rw [observation, hcontrol]
  dsimp only
  split
  next run henter => exact absurd henter (h run)
  · rfl

/-- **Every step records dispatch as it should**, as long as the host collects everything. -/
theorem recordsDispatch (host : Host κ σ φ) {m : Moment κ σ φ} (hm : m.world.Traced) :
    m.RecordsDispatch host where
  landed i rt r args o c hops target hcontrol hrt hlands := by
    constructor
    · rw [recorded_step_on host hm hcontrol hrt, Operation.reports_apply_of_lands hlands]
    · rw [World.perform_on hrt, World.operate, World.apply]
      simp only [World.resolve_eq_land_iff.2 ⟨c, hlands, rfl⟩]
      rfl
  missed i rt callee args hcontrol hrt hmissed := by
    constructor
    · rw [recorded_step_on host hm hcontrol hrt, Operation.reports_apply_of_missed hmissed,
        List.append_nil]
    · refine observation_eq_nil hcontrol fun run henter => ?_
      rw [World.perform_on hrt] at henter
      obtain ⟨r, c, hops, target, hcallee, hlands, -⟩ := World.enter_of_apply henter
      exact hmissed r _ c hops target hcallee hlands
  destroyed i rt r c hcontrol hrt hc hcount hkind := by
    rw [recorded_step_on host hm hcontrol hrt, Operation.reports_release hc,
      if_pos ⟨hcount, hkind⟩]
  spared i rt r c hcontrol hrt hc hspared := by
    have hnot : ¬ (c.count = 1 ∧ rt.registry.contains c.kind = true) := by
      rintro ⟨hcount, hkind⟩
      rcases hspared with hne | hout
      · exact hne hcount
      · rw [hout] at hkind
        cases hkind
    constructor
    · rw [recorded_step_on host hm hcontrol hrt, Operation.reports_release hc, if_neg hnot,
        List.append_nil]
    · refine observation_eq_nil hcontrol fun run henter => ?_
      rw [World.perform_on hrt] at henter
      obtain ⟨-, c', hc', hcount, hkind, -⟩ := World.enter_of_release henter
      cases hc.symm.trans hc'
      exact hnot ⟨hcount, hkind⟩
  entered run hrun := by
    obtain ⟨request, hcontrol, henter⟩ := entered_mem_observation.1 hrun
    obtain ⟨i, rt, op, rfl, hrt, henter⟩ := World.perform_enter henter
    have hfits := m.world.operate_fits i rt op
    rw [henter, Turn.Fits] at hfits
    rw [recorded_step_on host hm hcontrol hrt]
    -- The role of the host code tells which operation started it.
    split at hfits
    next hrole =>
      obtain ⟨r, rfl⟩ := hfits
      obtain ⟨rfl, c, hc, hcount, hkind, hstock⟩ := World.enter_of_release henter
      refine ⟨c, hc, ?_⟩
      rw [if_pos hrole, Operation.reports_release hc, if_pos ⟨hcount, hkind⟩, hstock]
      rfl
    next hrole =>
      obtain ⟨r, args, rfl⟩ := hfits
      obtain ⟨r, c, hops, target, hcallee, hlands, rfl⟩ := World.enter_of_apply henter
      cases hcallee
      refine ⟨c, hlands.live, ?_⟩
      rw [if_neg hrole, Operation.reports_apply_of_lands hlands]
      exact ⟨hops, rfl⟩

/-- That the events recorded along so many steps are an exact account of them. -/
structure ExactlyRecorded (host : Host κ σ φ) (m : Moment κ σ φ) (n : Nat) : Prop where
  /-- They are what the steps reported, in order. -/
  whole : (m.run host n).world.recorded = m.trace host reports n
  /-- On each topic they are what was due. -/
  topics : ∀ topic, (m.run host n).world.recorded.filter (·.isOn topic) = m.trace host (due topic) n
  /-- What happens next is recorded with the slot that it starts. -/
  dispatch : (m.run host n).RecordsDispatch host
  /-- Storage that was served is recorded, and so is storage that was given back. -/
  served : (m.run host n).world.allocator.total =
    (m.run host n).world.recorded.countP (·.isAllocation)
  balance : (m.run host n).world.allocator.live +
      (m.run host n).world.recorded.countP (·.isDeallocation) =
    (m.run host n).world.recorded.countP (·.isAllocation)

/-! ## What a run records -/

theorem traced_run (host : Host κ σ φ) {m : Moment κ σ φ} (hm : m.world.Traced) (n : Nat) :
    (m.run host n).world.Traced :=
  ((notes_run host m n).recorded hm).1

theorem filterMap_trace (host : Host κ σ φ) (m : Moment κ σ φ) (n : Nat) :
    (m.trace host notes n).filterMap (·.event?) = m.trace host reports n := by
  induction n with
  | zero => rfl
  | succ n ih => rw [trace_succ, trace_succ, List.filterMap_append, ih, reports]

theorem filter_trace_reports (host : Host κ σ φ) (m : Moment κ σ φ) (topic : Topic) (n : Nat) :
    (m.trace host reports n).filter (·.isOn topic) = m.trace host (due topic) n := by
  induction n with
  | zero => rfl
  | succ n ih => rw [trace_succ, trace_succ, List.filter_append, ih, filter_reports]

/-- **The journal is exact.**  Take any host in a fresh process, and collect everything.  At every
moment of the run the events collected are what the steps reported, in order; on each topic they are
what was due by how the requests went; applications and destructions are recorded immediately before
their slots are started; and the storage in use is what was served and not given back by the
events. -/
theorem journal_exact (host : Host κ σ φ) {w : World κ} (hw : w.Fresh) {first : Pair}
    (hfirst : w.allocator = { installed := first })
    (hcollector : w.journal.collector = some { threshold := .trace }) (s : σ) (mv : Move κ φ)
    (n : Nat) : (start w s mv).ExactlyRecorded host n := by
  have hstart : (start w s mv).world = w := world_start w s mv
  have hnothing : w.recorded = [] := by
    rw [World.recorded, hcollector]
    rfl
  have htraced : (start w s mv).world.Traced := ⟨#[], by rw [hstart]; exact hcollector⟩
  have hnotes := notes_run host (start w s mv) n
  have hwhole := (hnotes.recorded htraced).2
  rw [hstart, hnothing, List.nil_append, filterMap_trace] at hwhole
  have hserved := hnotes.served
  have hreturned := hnotes.returned
  rw [hstart, filterMap_trace, ← hwhole] at hserved hreturned
  have htallies := tallies_run host hw hfirst s mv n
  have hbalance := htallies.balance
  rw [← htallies.givenBack] at hbalance
  -- Nothing was served or given back before, so the counters are those of this run.
  have htotal : w.allocator.total = 0 := by rw [hfirst]
  have hgone : w.heap.givenBack = 0 := by rw [hw.heap]; rfl
  exact {
    whole := hwhole
    topics := fun topic => by rw [hwhole]; exact filter_trace_reports host _ topic n
    dispatch := recordsDispatch host (traced_run host htraced n)
    served := by omega
    balance := by omega }

/-- A world in which the host collects everything. -/
def collecting : World Unit := { journal := { collector := some { threshold := .trace } } }

/-- A client that registers a kind twice, binds a member twice, calls it as a method, which fails
because nil can not be applied, and releases the object. -/
def failAndGoOn : Procedure Unit Unit Answer :=
  .ask (.service (.startRuntime none)) fun _ =>
  .ask (.on 0 (.register 10)) fun _ =>
  .ask (.on 0 (.register 10)) fun _ =>
  .ask (.on 0 (.setMember 10 "m" (some (.nil 0)))) fun _ =>
  .ask (.on 0 (.setMember 10 "m" (some (.nil 0)))) fun _ =>
  .ask (.on 0 (.newObject 10 8)) fun _ =>
  .ask (.on 0 (.methodCall (some (.object 0)) "m" [])) fun _ =>
  .ask (.on 0 (.release (some (.object 0)))) fun _ =>
  .done (.ok none)

theorem journal_exact_failAndGoOn :
    collecting.Fresh ∧ collecting.allocator = { installed := .system } ∧
      collecting.journal.collector = some { threshold := .trace } ∧
      (((start collecting () (failAndGoOn.toMove ()).2).run idleHost 30).world.recorded.filter
          (·.isOn .registration) = [.kindRegistered 1, .kindRegistered 2, .kindRegistered 10]) ∧
      (((start collecting () (failAndGoOn.toMove ()).2).run idleHost 30).world.recorded.filter
          (·.isOn .overwrite) = [.memberOverwrite 10 "m" (.nil 0)]) ∧
      (((start collecting () (failAndGoOn.toMove ()).2).run idleHost 30).world.recorded.filter
          (·.isOn .application) = []) ∧
      (((start collecting () (failAndGoOn.toMove ()).2).run idleHost 30).world.recorded.filter
          (·.isOn .destruction) = [.objectDestroy 10 (.object 0)]) := by
  have hw : collecting.Fresh := ⟨rfl, rfl, rfl, rfl⟩
  have hexact := journal_exact idleHost hw
    (rfl : collecting.allocator = { installed := .system }) rfl () (failAndGoOn.toMove ()).2 30
  exact ⟨hw, rfl, rfl, (hexact.topics .registration).trans rfl,
    (hexact.topics .overwrite).trans rfl, (hexact.topics .application).trans rfl,
    (hexact.topics .destruction).trans rfl⟩

end Moment

end ObjectRuntime
