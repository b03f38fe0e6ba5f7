import ObjectRuntime.Proofs.Congruence.Logging
import ObjectRuntime.Proofs.Journal
/-!
# Levels

A log level is chosen in the settings, in a filter of the environment, in a call that initialises
logging, or by the host that collects events.  `withLevel` makes the choice, wherever it can be
made.  Runs with one level and with another are the same but for the events recorded, and the less
verbose level has those of the other that it lets through: this is shown of a note
(`Journal.note_withLevel`), then of a request, a step and a run.
-/

namespace ObjectRuntime

variable {κ σ φ : Type}

namespace Level

theorem admits_self (level : Level) : level.admits level = true := by
  cases level <;> rfl

theorem admits_trans {high low level : Level} (h : high.admits low = true)
    (h' : low.admits level = true) : high.admits level = true := by
  simp only [admits, decide_eq_true_eq] at h h' ⊢
  omega

/-- Those of the events that a level lets through. -/
def keep (level : Level) (events : Array (Event κ)) : Array (Event κ) :=
  events.filter fun e => level.admits e.level

variable {low high : Level} (h : high.admits low = true)

include h in
theorem keep_keep (events : Array (Event κ)) : low.keep (high.keep events) = low.keep events := by
  unfold keep
  rw [Array.filter_filter]
  congr 1
  funext e
  cases hlow : low.admits e.level with
  | true => simp [admits_trans h hlow]
  | false => rfl

theorem keep_push (events : Array (Event κ)) (e : Event κ) : low.keep (events.push e) =
    if low.admits e.level then (low.keep events).push e else low.keep events := by
  unfold keep
  rw [Array.filter_push]

end Level

/-! ## Choosing the level -/

def LogSettings.withLevel (level : Level) (settings : LogSettings) : LogSettings :=
  { settings with level }

/-- The same target and field with this level. -/
def Directive.withLevel (level : Level) (d : Directive) : Directive :=
  { d with threshold := some level }

namespace Filter

/-- The same targets and fields with this level. -/
def withLevel (level : Level) (f : Filter) : Filter := ⟨f.directives.map (·.withLevel level)⟩

@[simp] theorem withLevel_withLevel (low high : Level) (f : Filter) :
    (f.withLevel high).withLevel low = f.withLevel low := by
  simp [withLevel, Directive.withLevel]

@[simp] theorem withLevel_atLevel (low high : Level) : (atLevel high).withLevel low = atLevel low :=
  rfl

theorem governing_withLevel (level : Level) (f : Filter) (target : String) (fields : List String) :
    (f.withLevel level).governing target fields =
      (f.governing target fields).map (·.withLevel level) := by
  have hmatching : (f.withLevel level).directives.filter (·.covers target fields) =
      (f.directives.filter (·.covers target fields)).map (·.withLevel level) := by
    unfold withLevel
    rw [List.filter_map]
    rfl
  have hnone : (none : Option Directive) = (none : Option Directive).map (·.withLevel level) := rfl
  unfold governing
  rw [hmatching]
  generalize f.directives.filter (·.covers target fields) = l
  -- Directives are gone through one by one, whichever of those before counts so far.
  conv_lhs => rw [hnone]
  generalize (none : Option Directive) = best
  induction l generalizing best with
  | nil => rfl
  | cons d l ih =>
    rw [List.map_cons, List.foldl_cons, List.foldl_cons, ← ih]
    congr 1
    cases best with
    | none => rfl
    | some b =>
      have hspecific : (d.withLevel level).isAsSpecificAs (b.withLevel level) =
        d.isAsSpecificAs b := rfl
      simp only [Option.map_some, hspecific]
      split <;> rfl

theorem admits_withLevel (level level' : Level) (f : Filter) (target : String)
    (fields : List String) : (f.withLevel level).admits target fields level' =
      ((f.governing target fields).isSome && level.admits level') := by
  unfold admits
  rw [governing_withLevel]
  cases f.governing target fields <;> rfl

end Filter

def Collector.withLevel (level : Level) (c : Collector κ) : Collector κ where
  threshold := level
  events := level.keep c.events

def ProcessLog.withLevel (level : Level) (p : ProcessLog κ) : ProcessLog κ where
  filter := p.filter.withLevel level
  settings := p.settings.withLevel level
  fileOpen := p.fileOpen
  console := level.keep p.console
  file := level.keep p.file

/-- The journal as it would be with this level, if it had a more verbose one. -/
def Journal.withLevel (level : Level) (j : Journal κ) : Journal κ where
  collector := j.collector.map (·.withLevel level)
  process := j.process.map (·.withLevel level)

def Note.withLevel (level : Level) : Note κ → Note κ
  | opening settings => opening (settings.withLevel level)
  | entry => entry

/-- The process as it would be with this level, in the settings, in the filter of the environment
and in what collects events. -/
def World.withLevel (level : Level) (w : World κ) : World κ :=
  { w with
    journal := w.journal.withLevel level
    settings := { w.settings with log := w.settings.log.withLevel level }
    filter := w.filter.map (·.withLevel level) }

def Service.withLevel (level : Level) : Service κ → Service κ
  | startLoggingWith settings => startLoggingWith (settings.withLevel level)
  | asked => asked

def Request.withLevel (level : Level) : Request κ → Request κ
  | service asked => service (asked.withLevel level)
  | request => request

def Control.withLevel (level : Level) : Control κ → Control κ
  | perform request => perform (request.withLevel level)
  | control => control

/-- The moment as it would be with this level.  Frames wait for replies, and have no level. -/
def Moment.withLevel (level : Level) (m : Moment κ σ φ) : Moment κ σ φ :=
  { m with world := m.world.withLevel level, control := m.control.withLevel level }

def Move.withLevel (level : Level) : Move κ φ → Move κ φ
  | ask request frame => ask (request.withLevel level) frame
  | finish answer => finish answer

/-- The same host, which chooses this level whenever it initialises logging. -/
def Host.withLevel (level : Level) (host : Host κ σ φ) : Host κ σ φ where
  enter run s := ((host.enter run s).1, (host.enter run s).2.withLevel level)
  resume f reply s := ((host.resume f reply s).1, (host.resume f reply s).2.withLevel level)

/-! ## The journal -/

section Journal

variable {low high : Level} (h : high.admits low = true)

include h

theorem Collector.record_withLevel (c : Collector κ) (e : Event κ) :
    (c.withLevel low).record e = ((c.withLevel high).record e).withLevel low := by
  unfold record withLevel
  cases hlow : low.admits e.level with
  | true => simp [hlow, Level.admits_trans h hlow, Level.keep_push, Level.keep_keep h]
  | false => cases high.admits e.level <;> simp [hlow, Level.keep_push, Level.keep_keep h]

theorem ProcessLog.withLevel_withLevel (p : ProcessLog κ) :
    (p.withLevel high).withLevel low = p.withLevel low := by
  simp [withLevel, LogSettings.withLevel, Level.keep_keep h]

theorem ProcessLog.record_withLevel (p : ProcessLog κ) (e : Event κ) :
    (p.withLevel low).record e = ((p.withLevel high).record e).withLevel low := by
  have hadmits (level : Level) :
      (p.withLevel level).filter.admits e.target e.fieldNames e.level =
        ((p.filter.governing e.target e.fieldNames).isSome && level.admits e.level) :=
    Filter.admits_withLevel ..
  unfold record
  rw [hadmits, hadmits]
  cases (p.filter.governing e.target e.fieldNames).isSome with
  | false => exact (p.withLevel_withLevel h).symm
  | true =>
    cases hlow : low.admits e.level with
    | true =>
      rw [Level.admits_trans h hlow]
      by_cases hfile : p.settings.file.isSome = true ∧ p.fileOpen = true <;>
        simp [withLevel, LogSettings.withLevel, Level.keep_push, Level.keep_keep h, hlow, hfile]
    | false =>
      cases high.admits e.level with
      | false => exact (p.withLevel_withLevel h).symm
      | true =>
        by_cases hfile : p.settings.file.isSome = true ∧ p.fileOpen = true <;>
          simp [withLevel, LogSettings.withLevel, Level.keep_push, Level.keep_keep h, hlow, hfile]

theorem Collector.withLevel_withLevel (c : Collector κ) :
    (c.withLevel high).withLevel low = c.withLevel low := by
  simp [withLevel, Level.keep_keep h]

theorem Journal.withLevel_withLevel (j : Journal κ) :
    (j.withLevel high).withLevel low = j.withLevel low := by
  simp [withLevel, Function.comp_def, Collector.withLevel_withLevel h,
    ProcessLog.withLevel_withLevel h]

/-- **A note does the same to a journal with either level**, other than that the less verbose one
lets less through. -/
theorem Journal.note_withLevel (f : Option Filter) (j : Journal κ) (entry : Note κ) :
    (j.withLevel low).note (f.map (·.withLevel low)) (entry.withLevel low) =
      ((j.withLevel high).note (f.map (·.withLevel high))
        (entry.withLevel high)).withLevel low := by
  obtain ⟨collector, process⟩ := j
  cases entry with
  | event e =>
    cases collector with
    | some c =>
      simp [Note.withLevel, note, emit, withLevel, Collector.record_withLevel h,
        Function.comp_def, ProcessLog.withLevel_withLevel h]
    | none =>
      simp [Note.withLevel, note, emit, withLevel, Function.comp_def,
        ProcessLog.record_withLevel h]
  | opening settings =>
    cases process with
    | some p => exact (withLevel_withLevel h _).symm
    | none =>
      cases f <;>
        simp [Note.withLevel, note, start, withLevel, Function.comp_def,
          Collector.withLevel_withLevel h, ProcessLog.withLevel, LogSettings.withLevel, Level.keep]
  | closing =>
    simp [Note.withLevel, note, closeFile, withLevel, Function.comp_def,
      Collector.withLevel_withLevel h, ProcessLog.withLevel, LogSettings.withLevel,
      Level.keep_keep h]

theorem Journal.foldl_note_withLevel (f : Option Filter) (l : List (Note κ)) (j : Journal κ) :
    (l.map (·.withLevel low)).foldl (note (f.map (·.withLevel low))) (j.withLevel low) =
      ((l.map (·.withLevel high)).foldl (note (f.map (·.withLevel high)))
        (j.withLevel high)).withLevel low := by
  induction l generalizing j with
  | nil => exact (withLevel_withLevel h j).symm
  | cons entry l ih =>
    -- The journal after the first note has the higher level again, so the rest applies to it.
    have hhigh := note_withLevel high.admits_self f j entry
    have hrest := ih ((j.withLevel high).note (f.map (·.withLevel high)) (entry.withLevel high))
    rw [← hhigh] at hrest
    rw [List.map_cons, List.foldl_cons, List.map_cons, List.foldl_cons, note_withLevel h, hrest]

end Journal

/-! ## Requests -/

@[simp] theorem Note.map_withLevel_event (level : Level) (l : List (Event κ)) :
    (l.map Note.event).map (·.withLevel level) = l.map .event := by
  rw [List.map_map]
  rfl

theorem Turn.map_withLevel_lastWords (level : Level) (turn : Turn κ) :
    turn.lastWords.map (·.withLevel level) = turn.lastWords := by
  unfold lastWords
  split <;> rfl

theorem Turn.map_onSuccess {α β : Type} (turn : Turn κ) (f : α → β) (l : List α) :
    (turn.onSuccess l).map f = turn.onSuccess (l.map f) := by
  unfold onSuccess
  split <;> rfl

theorem ForeignCall.notes_withLevel (level : Level) (w : World κ) (turn : Turn κ)
    (call : ForeignCall κ) : call.notes (w.withLevel level) turn =
      (call.notes w turn).map (·.withLevel level) := by
  have hlogging : call.logging (w.withLevel level) turn =
      (call.logging w turn).map (·.withLevel level) := by
    cases call with
    | startUp =>
      simp only [logging]
      rw [Turn.map_onSuccess]
      rfl
    | _ => rfl
  have hevents := Note.map_withLevel_event level
    (call.announcement ++ if call.needsRuntime then w.sharedReports turn else [])
  unfold notes
  rw [hlogging]
  conv_rhs => rw [List.map_append, hevents]
  rfl

theorem Service.notes_withLevel (level : Level) (w : World κ) (turn : Turn κ)
    (asked : Service κ) : (asked.withLevel level).notes (w.withLevel level) turn =
      (asked.notes w turn).map (·.withLevel level) := by
  cases asked with
  | startRuntime | sharedRuntime | createObject =>
    exact (Note.map_withLevel_event level _).symm
  | createFunction =>
    simp only [withLevel, notes]
    cases turn.object? <;> rfl
  | allocate =>
    simp only [withLevel, notes]
    cases turn.block? <;> rfl
  | freeObject object =>
    cases object with
    | none => rfl
    | some r =>
      simp only [withLevel, notes]
      rw [Turn.map_onSuccess, Note.map_withLevel_event]
  | freeBlock block =>
    cases block with
    | none => rfl
    | some b =>
      simp only [withLevel, notes]
      rw [Turn.map_onSuccess]
      rfl
  | _ => rfl

theorem Request.notes_withLevel (level : Level) (w : World κ) (turn : Turn κ)
    (request : Request κ) : (request.withLevel level).notes (w.withLevel level) turn =
      (request.notes w turn).map (·.withLevel level) := by
  rw [notes, notes, List.map_append, Turn.map_withLevel_lastWords]
  congr 1
  cases request with
  | on i op =>
    simp only [withLevel, ownNotes, Note.map_withLevel_event]
    rfl
  | query | handle => rfl
  | foreign call => exact call.notes_withLevel level w turn
  | service asked => exact asked.notes_withLevel level w turn

theorem Request.IsDelegate.withLevel {request : Request κ} (h : request.IsDelegate)
    (level : Level) : request.withLevel level = request := by
  unfold IsDelegate at h
  split at h
  · rfl
  · rfl
  · rfl
  · exact h.elim

namespace World

theorem loggingAside_withLevel (low high : Level) (w : World κ) :
    (w.withLevel high).LoggingAside (w.withLevel low) :=
  ⟨_, _, _, rfl⟩

theorem isInitialized_withLevel (level : Level) (w : World κ) :
    (w.withLevel level).journal.isInitialized = w.journal.isInitialized := by
  simp [withLevel, Journal.withLevel, Journal.isInitialized]

theorem perform_aside (low high : Level) (w : World κ) (request : Request κ) :
    Agree LoggingAside ((w.withLevel high).perform (request.withLevel high))
      ((w.withLevel low).perform (request.withLevel low)) := by
  have hinit : (w.withLevel low).journal.isInitialized =
      (w.withLevel high).journal.isInitialized := by
    rw [isInitialized_withLevel, isInitialized_withLevel]
  have haside := w.loggingAside_withLevel low high
  cases request with
  | service asked =>
    cases asked with
    -- The one request in which a level is chosen does nothing but log.
    | startLoggingWith settings => exact ⟨⟨_, _, _, rfl⟩, rfl⟩
    | _ => exact haside.perform _ hinit
  | _ => exact haside.perform _ hinit

variable {low high : Level} (h : high.admits low = true)

include h

theorem withLevel_withLevel (w : World κ) : (w.withLevel high).withLevel low = w.withLevel low := by
  simp [withLevel, Journal.withLevel_withLevel h, LogSettings.withLevel, Function.comp_def]

theorem Notes.eq_withLevel {w v u : World κ} {l : List (Note κ)}
    (hhigh : (w.withLevel high).Notes (l.map (·.withLevel high)) v)
    (hlow : (w.withLevel low).Notes (l.map (·.withLevel low)) u) (haside : v.LoggingAside u) :
    u = v.withLevel low := by
  obtain ⟨journal, log, filter, rfl⟩ := haside
  have hjournal : journal = v.journal.withLevel low := by
    rw [hhigh.journal]
    exact hlow.journal.trans (Journal.foldl_note_withLevel h _ _ _)
  have hfilter : filter = v.filter.map (·.withLevel low) := by
    have hf : filter = w.filter.map (·.withLevel low) := hlow.filter
    rw [hf, hhigh.filter]
    simp [withLevel, Function.comp_def]
  have hlog : log = v.settings.log.withLevel low := by
    have hl : log = w.settings.log.withLevel low := congrArg Settings.log hlow.settings
    rw [hl, hhigh.settings]
    rfl
  rw [hjournal, hfilter, hlog]
  rfl

theorem perform_withLevel (w : World κ) (request : Request κ) :
    (w.withLevel low).perform (request.withLevel low) =
      (((w.withLevel high).perform (request.withLevel high)).1.withLevel low,
        ((w.withLevel high).perform (request.withLevel high)).2) := by
  have hagree := w.perform_aside low high request
  have hhigh := Notes.perform (w.withLevel high) (request.withLevel high)
  have hlow := Notes.perform (w.withLevel low) (request.withLevel low)
  rw [Request.notes_withLevel] at hhigh hlow
  rw [hagree.2] at hlow
  exact Prod.ext (hhigh.eq_withLevel h hlow hagree.1) hagree.2

theorem resume_withLevel (w : World κ) (reply : Reply κ) (p : Pending κ) :
    (w.withLevel low).resume reply p =
      (((w.withLevel high).resume reply p).1.withLevel low,
        ((w.withLevel high).resume reply p).2) := by
  have hagree := LoggingAside.congruence.resume (w.loggingAside_withLevel low high) reply p
  have hhigh := Notes.resume (w.withLevel high) reply p
  have hlow := Notes.resume (w.withLevel low) reply p
  rw [← Turn.map_withLevel_lastWords high] at hhigh
  rw [hagree.2, ← Turn.map_withLevel_lastWords low] at hlow
  exact Prod.ext (hhigh.eq_withLevel h hlow hagree.1) hagree.2

end World

/-! ## Steps -/

theorem Request.withLevel_withLevel (low high : Level) (request : Request κ) :
    (request.withLevel high).withLevel low = request.withLevel low := by
  cases request with
  | service asked => cases asked <;> rfl
  | _ => rfl

theorem Move.withLevel_withLevel (low high : Level) (mv : Move κ φ) :
    (mv.withLevel high).withLevel low = mv.withLevel low := by
  cases mv with
  | ask request frame => exact congrArg (ask · frame) (request.withLevel_withLevel low high)
  | finish => rfl

namespace Moment

theorem start_withLevel (level : Level) (w : World κ) (s : σ) (mv : Move κ φ) :
    start (w.withLevel level) s (mv.withLevel level) = (start w s mv).withLevel level := by
  cases mv <;> rfl

theorem move_withLevel (low high : Level) (v : World κ) (s : σ) (stack : List (Frame κ φ))
    (c c' : Control κ) (run : Option (Invocation κ)) (mv : Move κ φ) :
    (mk (v.withLevel low) s stack c).move run (mv.withLevel low) =
      ((mk v s stack c').move run (mv.withLevel high)).withLevel low := by
  cases mv with
  | ask request frame =>
    have hcontrol : ((Control.perform request).withLevel high).withLevel low =
        (Control.perform request).withLevel low :=
      congrArg Control.perform (request.withLevel_withLevel low high)
    exact congrArg (mk (v.withLevel low) s (.host run frame :: stack)) hcontrol.symm
  | finish => cases run <;> rfl

theorem turn_withLevel (low high : Level) (host : Host κ σ φ) (v : World κ) (s : σ)
    (stack : List (Frame κ φ)) (c c' : Control κ) {t : Turn κ}
    (ht : ∀ next p, t = .next next p → next.IsDelegate) :
    (mk (v.withLevel low) s stack c).turn (host.withLevel low) t =
      ((mk v s stack c').turn (host.withLevel high) t).withLevel low := by
  cases t with
  | done | halt => rfl
  | next request p =>
    have hsame := (ht request p rfl).withLevel low
    exact congrArg (fun request => mk (v.withLevel low) s (.pending p :: stack) (.perform request))
      hsame.symm
  | enter run => exact move_withLevel low high v _ stack c c' (some run) _

variable {low high : Level} (h : high.admits low = true)

include h

theorem withLevel_withLevel (m : Moment κ σ φ) :
    (m.withLevel high).withLevel low = m.withLevel low := by
  have hcontrol : (m.control.withLevel high).withLevel low = m.control.withLevel low := by
    cases m.control with
    | perform request => exact congrArg Control.perform (request.withLevel_withLevel low high)
    | reply | ended => rfl
  unfold withLevel
  dsimp only
  rw [World.withLevel_withLevel h, hcontrol]

theorem step_withLevel (host : Host κ σ φ) (m : Moment κ σ φ) :
    (m.withLevel low).step (host.withLevel low) =
      ((m.withLevel high).step (host.withLevel high)).withLevel low := by
  have hstay := m.withLevel_withLevel h
  obtain ⟨w, s, stack, control⟩ := m
  cases control with
  | ended ending => exact hstay.symm
  | perform request =>
    have hlow : (withLevel low (mk w s stack (.perform request))).control =
      .perform (request.withLevel low) := rfl
    have hhigh : (withLevel high (mk w s stack (.perform request))).control =
      .perform (request.withLevel high) := rfl
    have hworld (level : Level) : (withLevel level (mk w s stack (.perform request))).world =
      w.withLevel level := rfl
    rw [step_perform _ hlow, step_perform _ hhigh, hworld, hworld, w.perform_withLevel h]
    exact turn_withLevel low high host _ s stack _ _ fun _ _ => World.perform_next_isDelegate
  | reply reply =>
    cases stack with
    | nil => exact hstay.symm
    | cons frame stack =>
      cases frame with
      | host run f =>
        show (mk (w.withLevel low) s (.host run f :: stack) (.reply reply)).step _ =
          ((mk (w.withLevel high) s (.host run f :: stack) (.reply reply)).step _).withLevel low
        -- Here the world stays, and the lower level is that of the higher one made lower.
        rw [step_host, step_host, ← w.withLevel_withLevel h]
        exact move_withLevel low high _ _ stack _ _ run _
      | pending p =>
        show (mk (w.withLevel low) s (.pending p :: stack) (.reply reply)).step _ =
          ((mk (w.withLevel high) s (.pending p :: stack) (.reply reply)).step _).withLevel low
        rw [step_pending, step_pending, w.resume_withLevel h]
        exact turn_withLevel low high host _ s stack _ _ fun _ _ => World.resume_next_isDelegate

theorem run_withLevel (host : Host κ σ φ) (m : Moment κ σ φ) (n : Nat) :
    (m.withLevel low).run (host.withLevel low) n =
      ((m.withLevel high).run (host.withLevel high) n).withLevel low := by
  induction n generalizing m with
  | zero => exact (m.withLevel_withLevel h).symm
  | succ n ih =>
    -- A step keeps the higher level, so that the rest of the run starts with it.
    have hhigh := step_withLevel high.admits_self host m
    rw [run_cons, run_cons, step_withLevel h, ih, ← hhigh]

theorem observation_withLevel (m : Moment κ σ φ) :
    (m.withLevel low).observation = (m.withLevel high).observation := by
  obtain ⟨w, s, stack, control⟩ := m
  cases control with
  | ended ending => rfl
  | perform request =>
    have hturn : ((w.withLevel low).perform (request.withLevel low)).2 =
      ((w.withLevel high).perform (request.withLevel high)).2 := by rw [w.perform_withLevel h]
    simp only [observation, withLevel, Control.withLevel, hturn]
  | reply reply =>
    cases stack with
    | nil => rfl
    | cons frame stack => cases frame <;> rfl

theorem trace_observation_withLevel (host : Host κ σ φ) (m : Moment κ σ φ) (n : Nat) :
    (m.withLevel low).trace (host.withLevel low) observation n =
      (m.withLevel high).trace (host.withLevel high) observation n := by
  induction n with
  | zero => rfl
  | succ n ih =>
    have hhigh := run_withLevel high.admits_self host m n
    rw [trace_succ, trace_succ, ih, run_withLevel h, observation_withLevel h, ← hhigh]

/-! ## Whole runs -/

omit h

/-- Two moments that are the same, but that the second one has fewer events: those of the first one
that a level lets through. -/
structure SameButForEvents (low : Level) (m m' : Moment κ σ φ) : Prop where
  state : m'.state = m.state
  stack : m'.stack = m.stack
  /-- The same comes next, other than that logging may be initialised with the level. -/
  control : m'.control = m.control.withLevel low
  ended : ∀ ending, m'.control = .ended ending ↔ m.control = .ended ending
  heap : m'.world.heap = m.world.heap
  allocator : m'.world.allocator = m.world.allocator
  runtimes : m'.world.runtimes = m.world.runtimes
  shared : m'.world.shared = m.world.shared
  handles : m'.world.handles = m.world.handles
  recorded : m'.world.recorded = m.world.recorded.filter fun e => low.admits e.level
  /-- So it is with the console and the log file of the process. -/
  process : m'.world.journal.process = m.world.journal.process.map (·.withLevel low)

theorem sameButForEvents_withLevel (low : Level) (m : Moment κ σ φ) :
    m.SameButForEvents low (m.withLevel low) where
  state := rfl
  stack := rfl
  control := rfl
  ended ending := by
    show m.control.withLevel low = _ ↔ _
    cases m.control <;> simp [Control.withLevel]
  heap := rfl
  allocator := rfl
  runtimes := rfl
  shared := rfl
  handles := rfl
  recorded := by
    show ((m.world.journal.withLevel low).collector.elim [] _) = _
    unfold World.recorded Journal.withLevel
    cases m.world.journal.collector with
    | none => rfl
    | some c => exact Array.toList_filter
  process := rfl

/-- **Logging does not interfere.**  Take any host and two levels, and let one or the other be
chosen wherever a level can be.  What host code sees and does, the objects, the storage, the
runtimes and the way the run ends are the same, and the events that are recorded with the less
verbose level are those recorded with the other that it lets through. -/
theorem level_only_filters_events {low high : Level} (h : high.admits low = true)
    (host : Host κ σ φ) (w : World κ) (s : σ) (mv : Move κ φ) (n : Nat) :
    (start (w.withLevel low) s (mv.withLevel low)).trace (host.withLevel low) observation n =
        (start (w.withLevel high) s (mv.withLevel high)).trace (host.withLevel high) observation n ∧
      SameButForEvents low
        ((start (w.withLevel high) s (mv.withLevel high)).run (host.withLevel high) n)
        ((start (w.withLevel low) s (mv.withLevel low)).run (host.withLevel low) n) := by
  rw [start_withLevel, start_withLevel, run_withLevel h]
  exact ⟨trace_observation_withLevel h host _ n, sameButForEvents_withLevel low _⟩

theorem level_only_filters_events_failAndGoOn :
    Level.debug.admits .warn = true ∧
      ((start (collecting.withLevel .debug) () ((failAndGoOn.toMove ()).2.withLevel .debug)).run
        (idleHost.withLevel .debug) 30).world.recorded =
          [.kindRegistered 1, .kindRegistered 2, .builtinsRegistered (.nil 0), .bootstrapped 2 none,
            .kindRegistered 10, .memberOverwrite 10 "m" (.nil 0)] ∧
      ((start (collecting.withLevel .warn) () ((failAndGoOn.toMove ()).2.withLevel .warn)).run
        (idleHost.withLevel .warn) 30).world.recorded = [.memberOverwrite 10 "m" (.nil 0)] := by
  have hadmits : Level.debug.admits .warn = true := rfl
  have hsame := (level_only_filters_events hadmits idleHost collecting ()
    (failAndGoOn.toMove ()).2 30).2
  exact ⟨hadmits, rfl, hsame.recorded.trans rfl⟩

end Moment

end ObjectRuntime
