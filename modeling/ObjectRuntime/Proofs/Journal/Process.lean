import ObjectRuntime.Proofs.Diagnostics
import ObjectRuntime.Proofs.Journal.Notes
/-!
# Logging in a process

Logging is initialised by the first call that asks for it, for good, and its file gets events until
the first shutdown after that, for good.  What is noted along a run says in which order these came,
and `ProcessLog.ofNotes` what the log of the process is then (`Journal.foldl_note_empty`).
-/

namespace ObjectRuntime

variable {κ σ φ : Type}

/-! ## Which events a level lets through -/

theorem Event.covers (level : Level) (e : Event κ) :
    ({ target := some "kindrt", threshold := some level } : Directive).covers e.target
      e.fieldNames = true := by
  cases e <;> simp [Directive.covers, target]

/-- All events of the library have its target, so that a level lets through what is as severe. -/
theorem Filter.admits_atLevel (level : Level) (e : Event κ) :
    (atLevel level).admits e.target e.fieldNames e.level = level.admits e.level := by
  simp [admits, governing, atLevel, Event.covers]

namespace Note

def isClosing : Note κ → Bool
  | closing => true
  | _ => false

@[simp] theorem isClosing_event (e : Event κ) : (event e).isClosing = false := rfl

@[simp] theorem isClosing_opening (settings : LogSettings) :
    (opening settings : Note κ).isClosing = false := rfl

@[simp] theorem isClosing_closing : (closing : Note κ).isClosing = true := rfl

theorem any_isClosing_eq_false {l : List (Note κ)} :
    l.any (·.isClosing) = false ↔ closing ∉ l := by
  rw [List.any_eq_false]
  constructor
  · intro h hmem
    exact h closing hmem rfl
  · intro h entry hmem hentry
    cases entry with
    | closing => exact h hmem
    | event | opening => cases hentry

end Note

/-- The events among notes that a level lets through. -/
def Level.passing (level : Level) (l : List (Note κ)) : List (Event κ) :=
  (l.filterMap (·.event?)).filter fun e => level.admits e.level

/-! ## What becomes of the process's log -/

namespace ProcessLog

/-- The log of a process that initialised logging with `settings`, after these notes: its file gets
events up to the first shutdown. -/
def after (settings : LogSettings) (l : List (Note κ)) : ProcessLog κ where
  filter := .atLevel settings.level
  settings := settings
  fileOpen := !l.any (·.isClosing)
  console := (settings.level.passing l).toArray
  file := if settings.file.isSome then
    (settings.level.passing (l.takeWhile (!·.isClosing))).toArray else #[]

/-- The log of a process after these notes: the first initialisation decides. -/
def ofNotes : List (Note κ) → Option (ProcessLog κ)
  | [] => none
  | .opening settings :: l => some (after settings l)
  | _ :: l => ofNotes l

theorem takeWhile_append (l l' : List (Note κ)) :
    (l ++ l').takeWhile (!·.isClosing) = l.takeWhile (!·.isClosing) ++
      if l.any (·.isClosing) then [] else l'.takeWhile (!·.isClosing) := by
  induction l with
  | nil => rfl
  | cons first l ih => cases h : first.isClosing <;> simp [h, ih]

theorem takeWhile_concat (l : List (Note κ)) (entry : Note κ) :
    (l ++ [entry]).takeWhile (!·.isClosing) = l.takeWhile (!·.isClosing) ++
      if l.any (·.isClosing) || entry.isClosing then [] else [entry] := by
  rw [takeWhile_append]
  cases l.any (·.isClosing) <;> cases h : entry.isClosing <;> simp [h]

theorem any_concat (l : List (Note κ)) (entry : Note κ) :
    (l ++ [entry]).any (·.isClosing) = (l.any (·.isClosing) || entry.isClosing) := by
  rw [List.any_append, List.any_cons, List.any_nil, Bool.or_false]

theorem passing_concat (level : Level) (l : List (Note κ)) (e : Event κ) :
    level.passing (l ++ [Note.event e]) =
      level.passing l ++ if level.admits e.level then [e] else [] := by
  simp [Level.passing, List.filter_cons]

theorem passing_concat_of_none (level : Level) (l : List (Note κ)) (entry : Note κ)
    (h : entry.event? = none) : level.passing (l ++ [entry]) = level.passing l := by
  simp [Level.passing, h]

theorem after_event (settings : LogSettings) (l : List (Note κ)) (e : Event κ) :
    after settings (l ++ [Note.event e]) = (after settings l).record e := by
  have hfilter : (after settings l : ProcessLog κ).filter.admits e.target e.fieldNames e.level =
    settings.level.admits e.level := Filter.admits_atLevel settings.level e
  unfold record
  rw [hfilter]
  unfold after
  rw [passing_concat, takeWhile_concat, any_concat, Note.isClosing_event, Bool.or_false]
  by_cases hadmits : settings.level.admits e.level = true
  · by_cases hfile : settings.file.isSome = true
    · cases l.any (·.isClosing) <;> simp [hadmits, hfile, passing_concat]
    · simp [hadmits, hfile]
  · cases l.any (·.isClosing) <;> simp [hadmits, passing_concat]

theorem after_opening (settings settings' : LogSettings) (l : List (Note κ)) :
    after settings (l ++ [Note.opening settings']) = after settings l := by
  unfold after
  rw [takeWhile_concat, any_concat, Note.isClosing_opening, Bool.or_false,
    passing_concat_of_none _ _ _ rfl]
  cases l.any (·.isClosing) with
  | true => simp
  | false => simp [passing_concat_of_none settings.level _ (.opening settings') rfl]

theorem after_closing (settings : LogSettings) (l : List (Note κ)) :
    after settings (l ++ [Note.closing]) = { after settings l with fileOpen := false } := by
  unfold after
  rw [takeWhile_concat, any_concat, Note.isClosing_closing, Bool.or_true,
    passing_concat_of_none _ _ _ rfl]
  simp

theorem file_after_append (settings : LogSettings) {l : List (Note κ)}
    (h : l.any (·.isClosing) = true) (l' : List (Note κ)) :
    (after settings (l ++ l')).file = (after settings l).file := by
  unfold after
  rw [takeWhile_append, if_pos h, List.append_nil]

theorem file_after_last (settings : LogSettings) {l : List (Note κ)} {e : Event κ}
    (hopen : l.any (·.isClosing) = false) (hfile : settings.file.isSome = true)
    (hadmits : settings.level.admits e.level = true) :
    (after settings (l ++ [Note.event e, .closing])).file.back? = some e := by
  have hsplit : l ++ [Note.event e, .closing] = (l ++ [Note.event e]) ++ [Note.closing] := by simp
  unfold after
  rw [hsplit, takeWhile_concat, takeWhile_concat, hopen, if_pos hfile]
  simp [passing_concat, hadmits]

theorem ofNotes_append {l : List (Note κ)} (h : ∀ settings, .opening settings ∉ l)
    (l' : List (Note κ)) : ofNotes (l ++ l') = ofNotes l' := by
  induction l with
  | nil => rfl
  | cons entry l ih =>
    have hrest := ih fun settings hmem => h settings (List.mem_cons_of_mem _ hmem)
    cases entry with
    | opening settings => exact absurd List.mem_cons_self (h settings)
    | event | closing => exact hrest

theorem isSome_ofNotes_iff {l : List (Note κ)} :
    (ofNotes l).isSome = true ↔ ∃ settings, .opening settings ∈ l := by
  induction l with
  | nil => simp [ofNotes]
  | cons entry l ih => cases entry <;> simp [ofNotes, ih]

theorem exists_after_of_ofNotes {l : List (Note κ)} {p : ProcessLog κ} (h : ofNotes l = some p) :
    ∃ settings l₀, p = after settings l₀ ∧
      ∀ l', ofNotes (l ++ l') = some (after settings (l₀ ++ l')) := by
  induction l with
  | nil => cases h
  | cons entry l ih =>
    cases entry with
    | opening settings => exact ⟨settings, l, (Option.some.inj h).symm, fun _ => rfl⟩
    | event | closing => exact ih h

end ProcessLog

namespace Journal

theorem foldl_note_after (settings : LogSettings) (l l' : List (Note κ)) :
    l'.foldl (note none) { process := some (.after settings l) } =
      { process := some (.after settings (l ++ l')) } := by
  induction l' generalizing l with
  | nil => rw [List.foldl_nil, List.append_nil]
  | cons entry l' ih =>
    -- Whatever comes next, the log is again one that the notes so far explain.
    have hnext : note none { process := some (.after settings l) } entry =
        { process := some (.after settings (l ++ [entry])) } := by
      cases entry with
      | event e =>
        rw [ProcessLog.after_event]
        rfl
      | opening settings' =>
        rw [ProcessLog.after_opening]
        rfl
      | closing =>
        rw [ProcessLog.after_closing]
        rfl
    rw [List.foldl_cons, hnext, ih, List.append_assoc, List.singleton_append]

/-- **The log of a process follows the notes**, as `ProcessLog.ofNotes` says, where the host
collects nothing itself and the environment has no filter. -/
theorem foldl_note_empty (l : List (Note κ)) :
    l.foldl (note none) ∅ = { process := ProcessLog.ofNotes l } := by
  induction l with
  | nil => rfl
  | cons entry l ih =>
    cases entry with
    | event e => exact ih
    | opening settings =>
      have hstart : (∅ : Journal κ).start settings none =
          { process := some (.after settings []) } := by
        show ({ process := some { filter := .atLevel settings.level, settings } } : Journal κ) = _
        simp [ProcessLog.after, Level.passing]
      rw [List.foldl_cons, note, hstart]
      exact foldl_note_after settings [] l
    | closing => exact ih

end Journal

/-! ## Which requests initialise logging and which shut it down -/

theorem Turn.not_opening_lastWords (turn : Turn κ) (settings : LogSettings) :
    .opening settings ∉ turn.lastWords := by
  unfold lastWords
  split <;> simp

theorem Turn.closing_mem_lastWords {turn : Turn κ} :
    .closing ∈ turn.lastWords ↔ ∃ message, turn = .halt (.aborted message) := by
  unfold lastWords
  split
  · simp
  next h => simpa using h

theorem Note.ne_event {entry : Note κ} (h : entry.event? = none) (e : Event κ) :
    entry ≠ .event e := by
  rintro rfl
  cases h

theorem Note.not_mem_map_event {entry : Note κ} (h : entry.event? = none) (l : List (Event κ)) :
    entry ∉ l.map .event := by
  intro hmem
  obtain ⟨e, -, he⟩ := List.mem_map.1 hmem
  exact ne_event h e he.symm

theorem Turn.not_mem_onSuccess_event {turn : Turn κ} {l : List (Event κ)} {entry : Note κ}
    (h : entry.event? = none) : entry ∉ turn.onSuccess (l.map .event) := fun hmem =>
  Note.not_mem_map_event h l (mem_of_mem_onSuccess hmem)

theorem Service.mem_notes_iff {w : World κ} {turn : Turn κ} {service : Service κ}
    {entry : Note κ} (h : entry.event? = none) : entry ∈ service.notes w turn ↔
      (service = .startLogging ∧ entry = .opening w.settings.log) ∨
      (∃ settings, service = .startLoggingWith settings ∧ entry = .opening settings) ∨
      (service = .stopLogging ∧ entry = .closing) := by
  have hno := Note.ne_event h
  cases service with
  | startRuntime | sharedRuntime | createObject =>
    simpa [notes] using Note.not_mem_map_event h _
  | startLogging | startLoggingWith | stopLogging => simp [notes]
  | createFunction =>
    rw [notes]
    cases turn.object? <;> simp [hno]
  | allocate =>
    rw [notes]
    cases turn.block? <;> simp [hno]
  | freeObject object =>
    cases object with
    | none => simp [notes]
    | some r => simpa [notes] using Turn.not_mem_onSuccess_event h
  | freeBlock block =>
    cases block with
    | none => simp [notes]
    | some b => simpa [notes] using Turn.not_mem_onSuccess_event (l := [.deallocation (.block b)]) h
  | install | requireRuntime | installed | traffic | loggingStarted | fatal | isReleased | count
    | kind | setCount | payload | write => simp [notes, hno]

theorem World.startUp_cases (w : World κ) : (w.call .startUp).2 = .done (.ok .unit) ∨
    ∃ message, (w.call .startUp).2 = .halt (.aborted message) := by
  simp only [call]
  split
  · exact .inl rfl
  · exact .inr ⟨_, rfl⟩

theorem ForeignCall.mem_notes_iff {w : World κ} {call : ForeignCall κ} {entry : Note κ}
    (h : entry.event? = none) : entry ∈ call.notes w (w.call call).2 ↔
      (call = .startUp ∧ (w.call call).2 = .done (.ok .unit) ∧ entry = .opening w.settings.log) ∨
      (call = .cleanup ∧ entry = .closing) := by
  have hno := Note.ne_event h
  rw [notes, List.mem_append, or_iff_right (Note.not_mem_map_event h _)]
  cases call with
  | startUp => rcases w.startUp_cases with hturn | ⟨message, hturn⟩ <;>
      simp [logging, hturn, Turn.onSuccess, hno]
  | cleanup => simp [logging, hno]
  | _ => simp [logging]

namespace Moment

variable (host : Host κ σ φ) (m : Moment κ σ φ)

/-- What happens next is a call that initialises logging with these settings, if that was not done
before. -/
def Initialises (settings : LogSettings) : Prop :=
  (m.control = .perform (.service .startLogging) ∧ settings = m.world.settings.log) ∨
  m.control = .perform (.service (.startLoggingWith settings)) ∨
  (m.control = .perform (.foreign .startUp) ∧ (m.step host).control = .reply (.ok .unit) ∧
    settings = m.world.settings.log)

/-- The process aborts next, with this message. -/
def Aborts (message : String) : Prop :=
  (∀ ending, m.control ≠ .ended ending) ∧ (m.step host).control = .ended (.aborted message)

/-- Logging is shut down next, by a call or because the process aborts. -/
def ShutsDown : Prop :=
  m.control = .perform (.service .stopLogging) ∨ m.control = .perform (.foreign .cleanup) ∨
    ∃ message, m.Aborts host message

variable {host m}

theorem aborts_iff {message : String} : m.Aborts host message ↔
    (∃ request, m.control = .perform request ∧
      (m.world.perform request).2 = .halt (.aborted message)) ∨
    ∃ reply p stack, m.control = .reply reply ∧ m.stack = .pending p :: stack ∧
      (m.world.resume reply p).2 = .halt (.aborted message) := by
  obtain ⟨w, s, stack, control⟩ := m
  constructor
  · rintro ⟨hrunning, hended⟩
    cases control with
    | ended ending => exact absurd rfl (hrunning ending)
    | perform request => exact .inl ⟨request, rfl, halt_of_turn hended⟩
    | reply reply =>
      cases stack with
      | nil => cases hended
      | cons frame stack =>
        cases frame with
        | host run f => exact absurd hended move_control_ne_ended
        | pending p => exact .inr ⟨reply, p, stack, rfl, rfl, halt_of_turn hended⟩
  · rintro (⟨request, rfl, hhalt⟩ | ⟨reply, p, stack, rfl, rfl, hhalt⟩)
    · refine ⟨nofun, ?_⟩
      show (turn host _ (w.perform request).2).control = _
      rw [hhalt]
      rfl
    · refine ⟨nofun, ?_⟩
      rw [step_pending, hhalt]
      rfl

theorem mem_notes_of_perform {request : Request κ} (h : m.control = .perform request)
    {entry : Note κ} : entry ∈ m.notes ↔
      entry ∈ request.ownNotes m.world (m.world.perform request).2 ∨
        entry ∈ (m.world.perform request).2.lastWords := by
  rw [notes, h]
  exact List.mem_append

theorem step_startUp (w : World κ) (s : σ) (stack : List (Frame κ φ)) :
    (step host (mk w s stack (.perform (.foreign .startUp)))).control = .reply (.ok .unit) ↔
      (w.call .startUp).2 = .done (.ok .unit) := by
  show (turn host _ (w.call .startUp).2).control = _ ↔ _
  rcases w.startUp_cases with hturn | ⟨message, hturn⟩
  · rw [hturn]
    exact iff_of_true rfl rfl
  · rw [hturn]
    exact ⟨nofun, nofun⟩

variable (host) in
theorem opening_mem_notes {settings : LogSettings} :
    .opening settings ∈ m.notes ↔ m.Initialises host settings := by
  obtain ⟨w, s, stack, control⟩ := m
  cases control with
  | ended ending => simp [notes, Initialises]
  | reply reply =>
    cases stack with
    | nil => simp [notes, Initialises]
    | cons frame stack =>
      cases frame <;> simp [notes, Initialises, Turn.not_opening_lastWords]
  | perform request =>
    rw [mem_notes_of_perform rfl, or_iff_left (Turn.not_opening_lastWords _ _)]
    cases request with
    | on | query | handle => simp [Request.ownNotes, Initialises]
    | service asked =>
      rw [Request.ownNotes, Service.mem_notes_iff rfl]
      simp [Initialises, eq_comm]
    | foreign call =>
      rw [Request.ownNotes, World.perform, ForeignCall.mem_notes_iff rfl]
      cases call with
      | startUp => simp [Initialises, step_startUp]
      | _ => simp [Initialises]

variable (host) in
theorem closing_mem_notes : .closing ∈ m.notes ↔ m.ShutsDown host := by
  obtain ⟨w, s, stack, control⟩ := m
  unfold ShutsDown
  simp only [aborts_iff]
  cases control with
  | ended ending => simp [notes]
  | reply reply =>
    cases stack with
    | nil => simp [notes]
    | cons frame stack =>
      cases frame with
      | host => simp [notes]
      | pending p => simp [notes, Turn.closing_mem_lastWords]
  | perform request =>
    rw [mem_notes_of_perform rfl, Turn.closing_mem_lastWords]
    cases request with
    | on | query | handle => simp [Request.ownNotes]
    | service asked =>
      rw [Request.ownNotes, Service.mem_notes_iff rfl]
      simp
    | foreign call =>
      have hcall : (w.perform (.foreign call)).2 = (w.call call).2 := rfl
      rw [Request.ownNotes, hcall, ForeignCall.mem_notes_iff rfl]
      simp [hcall]

theorem Initialises.notes {settings : LogSettings} (h : m.Initialises host settings) :
    ∃ before after : List (Event κ),
      m.notes = before.map .event ++ .opening settings :: after.map .event := by
  obtain ⟨w, s, stack, control⟩ := m
  rcases h with ⟨rfl, rfl⟩ | rfl | ⟨rfl, hreply, rfl⟩
  · exact ⟨[], [], rfl⟩
  · exact ⟨[], [], rfl⟩
  · refine ⟨w.sharedReports (w.call .startUp).2, [.initialized], ?_⟩
    have hturn := (step_startUp w s stack).1 hreply
    simp [Moment.notes, Request.notes, Request.ownNotes, World.perform, ForeignCall.notes,
      ForeignCall.announcement, ForeignCall.needsRuntime, ForeignCall.logging, hturn,
      Turn.onSuccess]

/-- An abort closes the file right after its own event. -/
theorem Aborts.notes {message : String} (h : m.Aborts host message) :
    ∃ l, m.notes = l ++ [Note.event (.fatal message), .closing] ∧ .closing ∉ l := by
  obtain ⟨w, s, stack, control⟩ := m
  rcases aborts_iff.1 h with ⟨request, rfl, hhalt⟩ | ⟨reply, p, stack, rfl, rfl, hhalt⟩
  · refine ⟨request.ownNotes w (w.perform request).2, ?_, ?_⟩
    · simp [Moment.notes, Request.notes, hhalt, Turn.lastWords]
    · cases request with
      | on | query | handle => simp [Request.ownNotes]
      | service asked =>
        rw [Request.ownNotes, Service.mem_notes_iff rfl]
        rintro (⟨-, h⟩ | ⟨settings, -, h⟩ | ⟨rfl, -⟩)
        · cases h
        · cases h
        · cases hhalt
      | foreign call =>
        have hcall : (w.perform (.foreign call)).2 = (w.call call).2 := rfl
        rw [Request.ownNotes, hcall, ForeignCall.mem_notes_iff rfl]
        rintro (⟨-, -, h⟩ | ⟨rfl, -⟩)
        · cases h
        · cases hhalt
  · refine ⟨[], ?_, List.not_mem_nil⟩
    simp [Moment.notes, hhalt, Turn.lastWords]

/-! ## Logging along a run -/

/-- That logging is initialised once and for all along so many steps, and its file closed once and
for all. -/
structure LogsOnce (host : Host κ σ φ) (m : Moment κ σ φ) (n : Nat) : Prop where
  /-- What is noted at each moment is all that happens to the log of the process, and it counts from
  the first initialisation on. -/
  journal : (m.run host n).world.journal =
    { process := ProcessLog.ofNotes (m.trace host Moment.notes n) }
  opens : ∀ settings,
    .opening settings ∈ (m.run host n).notes ↔ (m.run host n).Initialises host settings
  closes : .closing ∈ (m.run host n).notes ↔ (m.run host n).ShutsDown host
  /-- Logging is initialised if a call asked for it, and stays so. -/
  initialized : (m.run host n).world.journal.isInitialized = true ↔
    ∃ k < n, ∃ settings, (m.run host k).Initialises host settings
  /-- This is what the host is told. -/
  told : (m.run host n).control = .perform (.service .loggingStarted) →
    (m.run host (n + 1)).control =
      .reply (.ok (.flag (m.run host n).world.journal.isInitialized))
  /-- The first call decides on level, format and file.  The console has the events from then on
  that the level lets through, and the file has those of them that came before the first
  shutdown. -/
  decided : ∀ k < n, ∀ settings, (m.run host k).Initialises host settings →
    (∀ j < k, ∀ settings', ¬ (m.run host j).Initialises host settings') →
    ∃ before after : List (Event κ),
      (m.run host k).notes = before.map .event ++ .opening settings :: after.map .event ∧
      (m.run host n).world.journal = { process := some (.after settings
        (after.map .event ++ (m.run host (k + 1)).trace host Moment.notes (n - (k + 1)))) }
  /-- The file is open until the first shutdown after that call. -/
  openUntil : ∀ k < n, ∀ settings, (m.run host k).Initialises host settings →
    (∀ j < k, ∀ settings', ¬ (m.run host j).Initialises host settings') →
    ∃ p, (m.run host n).world.journal.process = some p ∧ p.settings = settings ∧
      (p.fileOpen = true ↔ ∀ j, k < j → j < n → ¬ (m.run host j).ShutsDown host)
  /-- A file that is closed stays as it is. -/
  final : ∀ p, (m.run host n).world.journal.process = some p → p.fileOpen = false →
    ∀ k, ∃ q, (m.run host (n + k)).world.journal.process = some q ∧ q.file = p.file
  /-- If the process aborts before its file is closed, the reason is the last thing in there. -/
  reason : ∀ message p, (m.run host n).Aborts host message →
    (m.run host n).world.journal.process = some p → p.settings.file.isSome = true →
    p.fileOpen = true → ∃ q, (m.run host (n + 1)).world.journal.process = some q ∧
      q.file.back? = some (.fatal message)

section Run

variable (host : Host κ σ φ) {m : Moment κ σ φ} (hjournal : m.world.journal = ∅)
  (hfilter : m.world.filter = none) (n : Nat)

include hjournal hfilter

theorem journal_run : (m.run host n).world.journal =
    { process := ProcessLog.ofNotes (m.trace host Moment.notes n) } := by
  rw [(notes_run host m n).journal, hjournal, hfilter]
  exact Journal.foldl_note_empty _

theorem process_run : (m.run host n).world.journal.process =
    ProcessLog.ofNotes (m.trace host Moment.notes n) := by
  rw [journal_run host hjournal hfilter]

theorem isInitialized_run : (m.run host n).world.journal.isInitialized = true ↔
    ∃ k < n, ∃ settings, (m.run host k).Initialises host settings := by
  rw [Journal.isInitialized, process_run host hjournal hfilter, ProcessLog.isSome_ofNotes_iff]
  simp only [mem_trace, opening_mem_notes host]
  constructor
  · rintro ⟨settings, k, hk, hinit⟩
    exact ⟨k, hk, settings, hinit⟩
  · rintro ⟨k, hk, settings, hinit⟩
    exact ⟨settings, k, hk, hinit⟩

theorem journal_run_of_initialises {k : Nat} (hk : k < n) {settings : LogSettings}
    (hinit : (m.run host k).Initialises host settings)
    (hfirst : ∀ j < k, ∀ settings', ¬ (m.run host j).Initialises host settings') :
    ∃ before after : List (Event κ),
      (m.run host k).notes = before.map .event ++ .opening settings :: after.map .event ∧
      (m.run host n).world.journal = { process := some (.after settings
        (after.map .event ++ (m.run host (k + 1)).trace host Moment.notes (n - (k + 1)))) } := by
  obtain ⟨before, after, hnotes⟩ := hinit.notes
  refine ⟨before, after, hnotes, ?_⟩
  -- No earlier moment initialises logging, so all notes before this one fall away.
  have hno (settings' : LogSettings) :
      .opening settings' ∉ m.trace host Moment.notes k ++ before.map .event := by
    simp only [List.mem_append, mem_trace, opening_mem_notes host, List.mem_map]
    rintro (⟨j, hj, h⟩ | ⟨e, -, h⟩)
    · exact hfirst j hj settings' h
    · cases h
  have hsplit : m.trace host Moment.notes n =
      (m.trace host Moment.notes k ++ before.map .event) ++ .opening settings ::
        (after.map .event ++ (m.run host (k + 1)).trace host Moment.notes (n - (k + 1))) := by
    have hn : n = k + 1 + (n - (k + 1)) := by omega
    conv_lhs => rw [hn]
    rw [trace_add, trace_succ, hnotes]
    simp only [List.append_assoc, List.cons_append]
  rw [journal_run host hjournal hfilter, hsplit, ProcessLog.ofNotes_append hno]
  rfl

theorem fileOpen_run_of_initialises {k : Nat} (hk : k < n) {settings : LogSettings}
    (hinit : (m.run host k).Initialises host settings)
    (hfirst : ∀ j < k, ∀ settings', ¬ (m.run host j).Initialises host settings') :
    ∃ p, (m.run host n).world.journal.process = some p ∧ p.settings = settings ∧
      (p.fileOpen = true ↔ ∀ j, k < j → j < n → ¬ (m.run host j).ShutsDown host) := by
  obtain ⟨before, after, -, hn⟩ :=
    journal_run_of_initialises host hjournal hfilter n hk hinit hfirst
  refine ⟨_, by rw [hn], rfl, ?_⟩
  have hevents : .closing ∉ after.map Note.event := Note.not_mem_map_event rfl after
  rw [ProcessLog.after, Bool.not_eq_true', Note.any_isClosing_eq_false, List.mem_append,
    or_iff_right hevents, mem_trace]
  simp only [← run_add, closing_mem_notes host]
  constructor
  · intro h j hkj hjn hshut
    refine h ⟨j - (k + 1), by omega, ?_⟩
    rwa [Nat.add_sub_cancel' hkj]
  · rintro h ⟨j, hj, hshut⟩
    exact h (k + 1 + j) (by omega) (by omega) hshut

theorem file_run_of_closed {p : ProcessLog κ}
    (hp : (m.run host n).world.journal.process = some p) (hclosed : p.fileOpen = false) (k : Nat) :
    ∃ q, (m.run host (n + k)).world.journal.process = some q ∧ q.file = p.file := by
  rw [process_run host hjournal hfilter] at hp
  obtain ⟨settings, l, rfl, hrest⟩ := ProcessLog.exists_after_of_ofNotes hp
  have hclosing : l.any (·.isClosing) = true := by simpa [ProcessLog.after] using hclosed
  have hlater := hrest ((m.run host n).trace host Moment.notes k)
  rw [← trace_add, ← process_run host hjournal hfilter] at hlater
  exact ⟨_, hlater, ProcessLog.file_after_append settings hclosing _⟩

theorem file_run_of_aborts {message : String} {p : ProcessLog κ}
    (haborts : (m.run host n).Aborts host message)
    (hp : (m.run host n).world.journal.process = some p) (hfile : p.settings.file.isSome = true)
    (hopen : p.fileOpen = true) :
    ∃ q, (m.run host (n + 1)).world.journal.process = some q ∧
      q.file.back? = some (.fatal message) := by
  rw [process_run host hjournal hfilter] at hp
  obtain ⟨settings, l, rfl, hrest⟩ := ProcessLog.exists_after_of_ofNotes hp
  obtain ⟨l', hnotes, hclosing⟩ := haborts.notes
  have hstillOpen : (l ++ l').any (·.isClosing) = false := by
    rw [List.any_append, Note.any_isClosing_eq_false.2 hclosing, Bool.or_false]
    simpa [ProcessLog.after] using hopen
  have hadmits : settings.level.admits (Event.fatal message : Event κ).level = true := by
    cases settings.level <;> rfl
  have hnext := hrest (m.run host n).notes
  rw [← trace_succ, ← process_run host hjournal hfilter, hnotes, ← List.append_assoc] at hnext
  exact ⟨_, hnext, ProcessLog.file_after_last settings hstillOpen hfile hadmits⟩

end Run

/-- **The first call that initialises logging wins, and a shutdown is final.**  Take any host that
collects nothing itself, where no filter is set from outside.  Whatever it asks for, and however
often, level, format and file are those of the first call that initialises logging, which counts as
initialised from then on.  The file gets what the level lets through up to the first shutdown after
that call, and nothing later; if the process aborts before one, it gets the reason as well. -/
theorem first_initialisation_wins (host : Host κ σ φ) {w : World κ} (hjournal : w.journal = ∅)
    (hfilter : w.filter = none) (s : σ) (mv : Move κ φ) (n : Nat) :
    (start w s mv).LogsOnce host n := by
  have hstart : (start w s mv).world = w := world_start w s mv
  rw [← hstart] at hjournal hfilter
  exact {
    journal := journal_run host hjournal hfilter n
    opens := fun settings => opening_mem_notes host
    closes := closing_mem_notes host
    initialized := isInitialized_run host hjournal hfilter n
    told := fun hcontrol => by
      rw [run_succ, step_perform host hcontrol]
      rfl
    decided := fun k hk settings => journal_run_of_initialises host hjournal hfilter n hk
    openUntil := fun k hk settings => fileOpen_run_of_initialises host hjournal hfilter n hk
    final := fun p hp hclosed => file_run_of_closed host hjournal hfilter n hp hclosed
    reason := fun message p haborts hp => file_run_of_aborts host hjournal hfilter n haborts hp }

/-- A client that shuts logging down before it initialises it, does both again with other settings,
and registers a kind after each of these. -/
def initialiseTwice : Procedure Unit Unit Answer :=
  .ask (.service (.startRuntime none)) fun _ =>
  .ask (.foreign .cleanup) fun _ =>
  .ask (.service (.startLoggingWith { level := .debug, file := some "first.log" })) fun _ =>
  .ask (.on 0 (.register 10)) fun _ =>
  .ask (.service .stopLogging) fun _ =>
  .ask (.on 0 (.register 11)) fun _ =>
  .ask (.service (.startLoggingWith { level := .trace, file := some "second.log" })) fun _ =>
  .ask (.on 0 (.register 12)) fun _ =>
  .ask (.service (.fatal "over")) fun _ =>
  .done (.ok none)

theorem first_initialisation_wins_initialiseTwice :
    ({} : World Unit).journal = ∅ ∧ ({} : World Unit).filter = none ∧
      ((start {} () (initialiseTwice.toMove ()).2).run idleHost 20).world.journal =
        { process := some {
            filter := .atLevel .debug
            settings := { level := .debug, file := some "first.log" }
            fileOpen := false
            console := #[.kindRegistered 10, .kindRegistered 11, .kindRegistered 12, .fatal "over"]
            file := #[.kindRegistered 10] } } := by
  have hlogs := first_initialisation_wins idleHost (rfl : ({} : World Unit).journal = ∅) rfl ()
    (initialiseTwice.toMove ()).2 20
  exact ⟨rfl, rfl, hlogs.journal.trans rfl⟩

end Moment

end ObjectRuntime
