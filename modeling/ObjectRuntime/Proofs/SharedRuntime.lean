import ObjectRuntime.Proofs.Congruence.Journal
/-!
# The shared runtime

Which calls through the C interface need the one runtime of the process
(`ForeignCall.needsRuntime`).  A call changes nothing but the journal and, if it needs that
runtime, what starting it changes (`journalAside_call`).
-/

namespace ObjectRuntime

variable {κ : Type}

/-- Whether a call needs the shared runtime: it asks for something that a runtime does, and what it
names can be decoded. -/
def ForeignCall.needsRuntime : ForeignCall κ → Bool
  | .register _ | .setDestructor _ _ | .setApply _ _ | .newObject _ _ | .nil => true
  | .retain _ | .release _ | .startUp => true
  | .setMember _ name _ | .lookup _ name => name.decode.isOk
  | .apply _ args => args.decode.isOk
  | .methodCall _ name args => name.decode.isOk && args.decode.isOk
  | .createFunction _ | .count _ | .kind _ | .panic _ | .cleanup => false

namespace World

variable (w : World κ)

/-- The world once the shared runtime is there and storage was served for its nil. -/
def started : World κ :=
  { w with
    heap := w.heap.addNil { kind := nilKind, body := .nothing }
    allocator := (w.allocator.allocate (UInt64.ofNat headerSize)).1
    runtimes := w.runtimes.push { registry := .builtin, cap := w.settings.maxCallDepth }
    shared := some w.runtimes.size }

theorem sharedRuntime_of_some {w : World κ} {i : RuntimeId} (h : w.shared = some i) :
    w.sharedRuntime = (w, .ok i) := by
  simp only [sharedRuntime, h]

theorem sharedRuntime_of_none {w : World κ} (h : w.shared = none) :
    ∃ journal, w.sharedRuntime =
      if (w.allocator.allocate (UInt64.ofNat headerSize)).2 then
        ({ w.started with journal }, .ok w.runtimes.size)
      else
        ({ w with allocator := (w.allocator.allocate (UInt64.ofNat headerSize)).1, journal },
          .error (.allocationFailed (UInt64.ofNat headerSize))) := by
  obtain ⟨journal, hstart⟩ := w.startRuntime_eq w.settings.maxCallDepth
  simp only [sharedRuntime, h, hstart]
  cases (w.allocator.allocate (UInt64.ofNat headerSize)).2 with
  | true => exact ⟨journal, rfl⟩
  | false => exact ⟨journal, rfl⟩

theorem journalAside_fatal (message : String) : w.JournalAside (w.fatal message).1 := ⟨_, rfl⟩

theorem journalAside_onShared (op : Operation κ) :
    w.sharedRuntime.1.JournalAside (w.onShared op).1 := by
  rcases w.onShared_cases op with ⟨i, -, h⟩ | ⟨e, -, h⟩
  · rw [h]
    exact ⟨w.sharedRuntime.1.journal, rfl⟩
  · rw [h]
    exact journalAside_fatal _ _

theorem journalAside_emit_onShared (e : Event κ) (op : Operation κ) :
    w.sharedRuntime.1.JournalAside ((w.emit e).onShared op).1 := by
  have hemit : w.JournalAside (w.emit e) := ⟨_, rfl⟩
  exact hemit.sharedRuntime.1.trans ((w.emit e).journalAside_onShared op)

theorem journalAside_onSharedWith {α : Type} (decoded : Except Failure α) (op : α → Operation κ) :
    (if decoded.isOk then w.sharedRuntime.1 else w).JournalAside (w.onSharedWith decoded op).1 := by
  cases decoded with
  | ok a => exact w.journalAside_onShared (op a)
  | error e => exact w.journalAside_fatal _

/-- **A call changes nothing but the journal**, apart from the start of the shared runtime. -/
theorem journalAside_call (call : ForeignCall κ) :
    (if call.needsRuntime then w.sharedRuntime.1 else w).JournalAside (w.call call).1 := by
  cases call with
  | register | setDestructor | setApply | newObject | nil | retain | release =>
    exact w.journalAside_onShared _
  | setMember kind name value => exact w.journalAside_onSharedWith _ _
  | lookup object name => exact w.journalAside_onSharedWith _ _
  | apply callee args =>
    cases hargs : args.decode with
    | error e =>
      simp only [World.call, ForeignCall.needsRuntime, hargs]
      exact w.journalAside_fatal _
    | ok args =>
      simp only [World.call, ForeignCall.needsRuntime, hargs]
      exact w.journalAside_emit_onShared _ _
  | methodCall object name args =>
    cases hname : name.decode with
    | error e =>
      simp only [World.call, ForeignCall.needsRuntime, hname]
      exact w.journalAside_fatal _
    | ok name =>
      cases hargs : args.decode with
      | error e =>
        simp only [World.call, ForeignCall.needsRuntime, hname, hargs]
        exact w.journalAside_fatal _
      | ok args =>
        simp only [World.call, ForeignCall.needsRuntime, hname, hargs]
        exact w.journalAside_emit_onShared _ _
  | createFunction entry =>
    cases entry with
    | none => exact w.journalAside_fatal _
    | some code => exact ⟨w.journal, rfl⟩
  | count object | kind object =>
    cases object with
    | none => exact ⟨w.journal, rfl⟩
    | some r =>
      simp only [World.call, inspect]
      cases w.heap.live? r <;> exact ⟨w.journal, rfl⟩
  | panic message => cases message <;> exact w.journalAside_fatal _
  | startUp =>
    simp only [World.call]
    rcases h : w.sharedRuntime with ⟨w', e | i⟩
    · simp only [ForeignCall.needsRuntime]
      exact w'.journalAside_fatal _
    · simp only [ForeignCall.needsRuntime]
      exact ⟨_, rfl⟩
  | cleanup => exact ⟨_, rfl⟩

theorem onShared_refused {w : World κ} {e : Failure} (h : w.sharedRuntime.2 = .error e)
    (op : Operation κ) : (w.onShared op).2 = .halt (.aborted e.message) := by
  rcases w.onShared_cases op with ⟨i, hi, -⟩ | ⟨e', he', hw⟩
  · cases h.symm.trans hi
  · cases h.symm.trans he'
    rw [hw]
    rfl

theorem call_refused {w : World κ} {e : Failure} (h : w.sharedRuntime.2 = .error e)
    {call : ForeignCall κ} (hneeds : call.needsRuntime = true) :
    (w.call call).2 = .halt (.aborted e.message) := by
  have hemit (event : Event κ) : (w.emit event).sharedRuntime.2 = .error e := by
    have hsame : w.JournalAside (w.emit event) := ⟨_, rfl⟩
    exact hsame.sharedRuntime.2.trans h
  cases call with
  | register | setDestructor | setApply | newObject | nil | retain | release =>
    exact onShared_refused h _
  | setMember kind name value | lookup object name =>
    cases hname : name.decode with
    | error e' => simp [ForeignCall.needsRuntime, hname, Except.isOk, Except.toBool] at hneeds
    | ok text =>
      simp only [World.call, onSharedWith, hname]
      exact onShared_refused h _
  | apply callee args =>
    cases hargs : args.decode with
    | error e' => simp [ForeignCall.needsRuntime, hargs, Except.isOk, Except.toBool] at hneeds
    | ok list =>
      simp only [World.call, hargs]
      exact onShared_refused (hemit _) _
  | methodCall object name args =>
    cases hname : name.decode with
    | error e' => simp [ForeignCall.needsRuntime, hname, Except.isOk, Except.toBool] at hneeds
    | ok text =>
      cases hargs : args.decode with
      | error e' => simp [ForeignCall.needsRuntime, hargs, Except.isOk, Except.toBool] at hneeds
      | ok list =>
        simp only [World.call, hname, hargs]
        exact onShared_refused (hemit _) _
  | startUp =>
    simp only [World.call]
    rcases hshared : w.sharedRuntime with ⟨w', e' | i⟩
    · rw [hshared] at h
      cases h
      rfl
    · rw [hshared] at h
      cases h
  | createFunction | count | kind | panic | cleanup => cases hneeds

end World

end ObjectRuntime
