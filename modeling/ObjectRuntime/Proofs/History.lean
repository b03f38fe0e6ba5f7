import ObjectRuntime.Procedure
import ObjectRuntime.Proofs.History.Change
import ObjectRuntime.Proofs.Ledger.Outcome
/-!
# The registries of a run

Registries are written by operations of their runtime and by nothing else, wherever host code asks
for them.  So at every moment of a run each registry is what the calls on its runtime say that
succeeded so far: each of these is a `Change`, and `Recorded` is what a step keeps.
-/

namespace ObjectRuntime

variable {κ σ φ : Type}

/-- The call on the registry that an operation amounts to. -/
def Operation.change? : Operation κ → Option (Change κ)
  | .register kind => some (.register kind)
  | .setDestructor kind slot => some (.setDestructor kind slot)
  | .setApply kind slot => some (.setApply kind slot)
  | .setMember kind name (some r) => some (.setMember kind name r)
  | _ => none

namespace World

theorem operate_of_change (w : World κ) (i : RuntimeId) (rt : Runtime κ) {op : Operation κ}
    {c : Change κ} (h : op.change? = some c) :
    (∃ e, rt.registry.make c = .error e ∧ w.operate i rt op = (w, .done (.error e))) ∨
      ∃ g, rt.registry.make c = .ok g ∧
        (w.operate i rt op).1.runtimes = (w.setRegistry i g).runtimes ∧
        ((w.operate i rt op).2 = .done (.ok .unit) ∨
          (w.operate i rt op).2 = .halt .fault ∧
            ∃ kind name r, op = .setMember kind name (some r) ∧ w.heap.live? r = none) := by
  have hwrite : ∀ (e : Event κ) change,
      (∃ e', change = .error e' ∧ w.writeRegistry i e change = (w, .done (.error e'))) ∨
        ∃ g, change = .ok g ∧
          (w.writeRegistry i e change).1.runtimes = (w.setRegistry i g).runtimes ∧
          (w.writeRegistry i e change).2 = .done (.ok .unit) := fun e change => by
    cases change with
    | error e' => exact .inl ⟨e', rfl, rfl⟩
    | ok g => exact .inr ⟨g, rfl, rfl, rfl⟩
  cases op with
  | register | setDestructor | setApply =>
    cases h
    rcases hwrite _ _ with herror | ⟨g, hg, hruntimes, hturn⟩
    · exact .inl herror
    · exact .inr ⟨g, hg, hruntimes, .inl hturn⟩
  | setMember kind name value =>
    cases value with
    | none => cases h
    | some r =>
      cases h
      cases hg : rt.registry.setMember kind name r with
      | error e =>
        exact .inl ⟨e, by rw [Registry.make, hg]; rfl, by simp only [operate, setMember, hg]⟩
      | ok result =>
        refine .inr ⟨result.1, by rw [Registry.make, hg]; rfl, ?_⟩
        simp only [operate, setMember, hg, orFault, retain, heap_reportOverwrite,
          heap_setRegistry]
        cases hr : w.heap.live? r with
        | none => exact ⟨by simp, .inr ⟨rfl, kind, name, r, rfl, hr⟩⟩
        | some cell => exact ⟨by simp, .inl rfl⟩
  | _ => cases h

theorem runtimes_operate (w : World κ) (i : RuntimeId) (rt : Runtime κ) {op : Operation κ}
    (h : op.change? = none) : (w.operate i rt op).1.runtimes = w.runtimes := by
  have hretain : ∀ r reply, (w.orFault ((w.retain r).map (·, .done reply))).1.runtimes =
      w.runtimes := fun r reply => by
    unfold retain
    cases w.heap.live? r <;> rfl
  cases op with
  | register | setDestructor | setApply => cases h
  | setMember kind name value =>
    cases value with
    | none => rfl
    | some r => cases h
  | newObject kind payload =>
    simp only [operate]
    split
    · exact (w.createObject_cases kind payload).1
    · rfl
  | nil => exact hretain _ _
  | retain object =>
    cases object with
    | none => rfl
    | some r => exact hretain r _
  | release object =>
    cases object with
    | none => rfl
    | some r => exact w.runtimes_release i rt.registry r
  | lookup object name =>
    cases object with
    | none => rfl
    | some r =>
      rcases w.lookup_cases rt.registry r name with hl | ⟨c, -, ⟨e, -, hl⟩ | ⟨m, w', -, hr, hl⟩⟩
      · simp [operate, orFault, hl]
      · simp [operate, orFault, hl]
      · obtain ⟨-, -, rfl⟩ := retain_eq_some_iff.1 hr
        simp [operate, orFault, hl]
  | apply callee args =>
    obtain ⟨⟨journal, hw⟩, -⟩ := w.apply_frame i rt callee args
    rw [operate, hw]
  | methodCall object name args =>
    rcases w.methodCall_cases i rt.registry object name args with
      hw | ⟨e, hw⟩ | ⟨r, c, method, w', -, -, -, hr, hw⟩
    · rw [operate, hw]
    · rw [operate, hw]
    · obtain ⟨-, -, rfl⟩ := retain_eq_some_iff.1 hr
      rw [operate, hw]
      rfl

theorem runtimes_perform (w : World κ) {request : Request κ} (h : ∀ i op, request ≠ .on i op) :
    (w.perform request).1.runtimes = w.runtimes ∨
      ∃ cap, (w.perform request).1.runtimes =
        w.runtimes.push { registry := .builtin, cap } := by
  have hout := w.perform_outcome request
  generalize (w.perform request).1 = w', (w.perform request).2 = turn at hout
  cases hout with
  | started cap _ hruntimes => exact .inr ⟨cap, hruntimes⟩
  | plain _ _ hruntimes | taken _ _ _ _ _ _ _ hruntimes | made _ _ _ _ hruntimes
    | freed _ _ _ hruntimes | recounted _ _ _ hruntimes | written _ _ _ hruntimes =>
    exact .inl hruntimes
  | configured | bound | unbound | method | released | reclaimed | destroying =>
    exact absurd rfl (h _ _)

end World

namespace Moment

/-- The call on the registry of a runtime that succeeds at this moment, if there is one. -/
def changes (i : RuntimeId) (m : Moment κ σ φ) : History κ :=
  match m.control with
  | .perform (.on j op) =>
    match (m.world.perform (.on j op)).2 with
    | .done (.ok _) => if j = i then op.change?.toList else []
    | _ => []
  | _ => []

/-- The calls on the registry of a runtime that succeeded in so many steps, after those that set it
up. -/
def history (host : Host κ σ φ) (i : RuntimeId) (n : Nat) (m : Moment κ σ φ) : History κ :=
  History.builtin ++ m.trace host (changes i) n

/-- The registries of a moment are what these histories say, unless the run has touched storage that
was given back.  A runtime that was not started yet has no history. -/
structure Recorded (histories : RuntimeId → History κ) (m : Moment κ σ φ) : Prop where
  records : m.control = .ended .fault ∨ ∀ (i : RuntimeId) (rt : Runtime κ),
    m.world.runtimes[i]? = some rt → rt.registry.Records (History.builtin ++ histories i)
  unborn : ∀ i, m.world.runtimes.size ≤ i → histories i = []

variable {host : Host κ σ φ} {m : Moment κ σ φ} {histories : RuntimeId → History κ}

theorem changes_of_not_on (h : ∀ i op, m.control ≠ .perform (.on i op)) (i : RuntimeId) :
    m.changes i = [] := by
  unfold changes
  split
  next hc => exact absurd hc (h _ _)
  · rfl

theorem Recorded.of_runtimes (h : m.Recorded histories) {m' : Moment κ σ φ}
    (hcontrol : m.control ≠ .ended .fault) (hchanges : ∀ i, m.changes i = [])
    (hruntimes : m'.world.runtimes = m.world.runtimes ∨
      ∃ cap, m'.world.runtimes = m.world.runtimes.push { registry := .builtin, cap }) :
    m'.Recorded fun i => histories i ++ m.changes i := by
  have hrecords := h.records.resolve_left hcontrol
  simp only [hchanges, List.append_nil]
  rcases hruntimes with hruntimes | ⟨cap, hruntimes⟩
  · exact ⟨.inr (by rwa [hruntimes]), by rw [hruntimes]; exact h.unborn⟩
  · refine ⟨.inr fun i rt hrt => ?_, fun i hi => h.unborn i ?_⟩
    · rw [hruntimes, Array.getElem?_push] at hrt
      split at hrt
      next hi =>
        cases hrt
        rw [h.unborn i (Nat.le_of_eq hi.symm), List.append_nil]
        exact Registry.Records.builtin
      · exact hrecords i rt hrt
    · rw [hruntimes, Array.size_push] at hi
      omega

theorem Recorded.of_change (h : m.Recorded histories) {i : RuntimeId} {rt : Runtime κ}
    {op : Operation κ} {c : Change κ} (hcontrol : m.control = .perform (.on i op))
    (hrt : m.world.runtimes[i]? = some rt) (hop : op.change? = some c) :
    (m.step host).Recorded fun j => histories j ++ m.changes j := by
  have hrecords := h.records.resolve_left (by rw [hcontrol]; simp)
  have hperform := World.perform_on hrt op
  have hsize (g : Registry κ) :
      (m.world.setRegistry i g).runtimes.size = m.world.runtimes.size := by
    simp [World.setRegistry]
  rcases m.world.operate_of_change i rt hop with
    ⟨e, -, hw⟩ | ⟨g, hg, hruntimes, hdone | ⟨hfault, -⟩⟩
  · refine h.of_runtimes (by simp [hcontrol]) (fun j => ?_) (.inl ?_)
    · simp only [changes, hcontrol, hperform, hw]
    · rw [world_step_perform host hcontrol, hperform, hw]
  · have hchanges (j : RuntimeId) : m.changes j = if i = j then [c] else [] := by
      simp only [changes, hcontrol, hperform, hdone, hop, Option.toList]
    have hnext : (m.step host).world.runtimes = (m.world.setRegistry i g).runtimes := by
      rw [world_step_perform host hcontrol, hperform, hruntimes]
    refine ⟨.inr fun j rt' hrt' => ?_, fun j hj => ?_⟩
    · rw [hnext, World.setRegistry, Array.getElem?_modify] at hrt'
      by_cases hij : i = j
      · subst hij
        rw [if_pos rfl, hrt] at hrt'
        cases hrt'
        rw [hchanges, if_pos rfl, ← List.append_assoc]
        exact (hrecords i rt hrt).make hg
      · rw [if_neg hij] at hrt'
        rw [hchanges, if_neg hij, List.append_nil]
        exact hrecords j rt' hrt'
    · rw [hnext, hsize] at hj
      obtain ⟨hi, -⟩ := Array.getElem?_eq_some_iff.1 hrt
      have hij : i ≠ j := fun hij => absurd (hij ▸ hi) (by omega)
      rw [h.unborn j hj, hchanges, if_neg hij, List.nil_append]
  · have hchanges (j : RuntimeId) : m.changes j = [] := by
      simp only [changes, hcontrol, hperform, hfault]
    refine ⟨.inl ?_, fun j hj => ?_⟩
    · rw [step_perform host hcontrol, hperform, hfault]
      rfl
    · rw [world_step_perform host hcontrol, hperform, hruntimes, hsize] at hj
      rw [h.unborn j hj, hchanges, List.nil_append]

theorem Recorded.step (h : m.Recorded histories) :
    (m.step host).Recorded fun i => histories i ++ m.changes i := by
  cases hcontrol : m.control with
  | ended ending =>
    have hchanges := changes_of_not_on (m := m) (by simp [hcontrol])
    simpa only [hchanges, List.append_nil, Moment.step, hcontrol] using h
  | reply reply =>
    exact h.of_runtimes (by simp [hcontrol]) (changes_of_not_on (by simp [hcontrol]))
      (.inl (step_frame host (by simp [hcontrol])).2)
  | perform request =>
    have hworld := world_step_perform host hcontrol
    cases request with
    | on i op =>
      cases hrt : m.world.runtimes[i]? with
      | none =>
        have hperform := World.perform_on_none hrt op
        refine h.of_runtimes (by simp [hcontrol]) (fun j => ?_) (.inl ?_)
        · simp only [changes, hcontrol, hperform]
        · rw [hworld, hperform]
      | some rt =>
        have hperform := World.perform_on hrt op
        cases hop : op.change? with
        | some c => exact h.of_change hcontrol hrt hop
        | none =>
          refine h.of_runtimes (by simp [hcontrol]) (fun j => ?_) (.inl ?_)
          · simp only [changes, hcontrol, hop, Option.toList, ite_self]
            split <;> rfl
          · rw [hworld, hperform, m.world.runtimes_operate i rt hop]
    | query | handle | foreign | service =>
      refine h.of_runtimes (by simp [hcontrol]) (changes_of_not_on (by simp [hcontrol])) ?_
      rw [hworld]
      exact m.world.runtimes_perform (by simp)

theorem Recorded.run (h : m.Recorded fun _ => []) (n : Nat) :
    (m.run host n).Recorded fun i => m.trace host (changes i) n := by
  induction n with
  | zero => exact h
  | succ n ih => simpa only [run_succ, trace_succ] using ih.step

theorem Recorded.start {w : World κ} (hw : w.Fresh) (s : σ) (first : Move κ φ) :
    (start w s first).Recorded fun _ => [] where
  records := .inr fun i rt hrt => by
    rw [world_start, hw.runtimes] at hrt
    simp at hrt
  unborn _ _ := rfl

/-! ## The registries of a run -/

theorem records_history {w : World κ} (hw : w.Fresh) {s : σ} {first : Move κ φ} {n : Nat}
    (hfault : ((start w s first).run host n).control ≠ .ended .fault) {i : RuntimeId}
    {rt : Runtime κ} (hrt : ((start w s first).run host n).world.runtimes[i]? = some rt) :
    rt.registry.Records ((start w s first).history host i n) :=
  ((Recorded.start hw s first).run n).records.resolve_left hfault i rt hrt

/-- What becomes of a call on the registry of a runtime that is made at this moment is what a
history says.  A call that fails changes nothing. -/
structure CallsFollow (host : Host κ σ φ) (i : RuntimeId) (l : History κ) (m : Moment κ σ φ) :
    Prop where
  refused : ∀ op c, m.control = .perform (.on i op) → op.change? = some c →
    (c.kind ∈ l.kinds ↔ c.registers = true) →
    m.step host = { m with control := .reply (.error c.refusal) }
  /-- A member that was given back is found out when the table takes its reference. -/
  made : ∀ op c, m.control = .perform (.on i op) → op.change? = some c →
    ¬ (c.kind ∈ l.kinds ↔ c.registers = true) →
    (m.step host).control = .reply (.ok .unit) ∨
      ∃ kind name r, op = .setMember kind name (some r) ∧ m.world.heap.live? r = none ∧
        (m.step host).control = .ended .fault
  null : ∀ kind name, m.control = .perform (.on i (.setMember kind name none)) →
    m.step host = { m with control := .reply (.error (.nullObject "set_member")) }

theorem callsFollow_of_records {i : RuntimeId} {rt : Runtime κ} {l : History κ}
    (hrt : m.world.runtimes[i]? = some rt) (h : rt.registry.Records l) :
    m.CallsFollow host i l := by
  have hperform := World.perform_on hrt
  refine ⟨fun op c hcontrol hop hrefused => ?_, fun op c hcontrol hop hmade => ?_,
    fun kind name hcontrol => ?_⟩
  · have hmake := (h.follows.refuses c c.refusal).2 ⟨hrefused, rfl⟩
    rcases m.world.operate_of_change i rt hop with ⟨e, he, hw⟩ | ⟨g, hg, -⟩
    · cases hmake.symm.trans he
      exact step_of_done hcontrol ((hperform op).trans hw)
    · cases hmake.symm.trans hg
  · rcases m.world.operate_of_change i rt hop with
      ⟨e, he, -⟩ | ⟨g, -, -, hdone | ⟨hfault, kind, name, r, rfl, hr⟩⟩
    · exact absurd ((h.follows.refuses c e).1 he).1 hmade
    · left
      rw [step_perform host hcontrol, hperform, hdone]
      rfl
    · refine .inr ⟨kind, name, r, rfl, hr, ?_⟩
      rw [step_perform host hcontrol, hperform, hfault]
      rfl
  · exact step_of_done hcontrol (hperform _)

/-- **A registry is the fold of its history, in which what was written last counts.**  This holds of
a registry on its own after any calls on it, and of the registry of every runtime at every moment of
every run: what it tells, and what becomes of the next call on it, is said by the calls on that
runtime that succeeded so far. -/
theorem registry_follows_history (calls : List (Change κ)) (host : Host κ σ φ) (w : World κ)
    (hw : w.Fresh) (s : σ) (first : Move κ φ) (n : Nat)
    (hfault : ((start w s first).run host n).control ≠ .ended .fault) (i : RuntimeId)
    (rt : Runtime κ) (hrt : ((start w s first).run host n).world.runtimes[i]? = some rt) :
    ((∅ : Registry κ).makeAll calls).1.Follows ((∅ : Registry κ).makeAll calls).2 ∧
      rt.registry.Follows ((start w s first).history host i n) ∧
      ((start w s first).run host n).CallsFollow host i ((start w s first).history host i n) := by
  have hrecords := records_history hw hfault hrt
  exact ⟨(Registry.Records.empty.makeAll calls).follows, hrecords.follows,
    callsFollow_of_records hrt hrecords⟩

/-- A client that registers a kind twice, gives it a destructor and two members of one name, and
lets an object of that kind go. -/
def registerAndRelease : Procedure Unit Unit Answer :=
  .ask (.service (.startRuntime (some 1))) fun _ =>
  .ask (.on 0 (.register 10)) fun _ =>
  .ask (.on 0 (.register 10)) fun _ =>
  .ask (.on 0 (.setDestructor 10 (.closure ()))) fun _ =>
  .ask (.on 0 (.newObject 10 0)) fun _ =>
  .ask (.on 0 (.newObject 10 0)) fun _ =>
  .ask (.on 0 (.setMember 10 "next" (some (.object 0)))) fun _ =>
  .ask (.on 0 (.setMember 10 "next" (some (.object 1)))) fun _ =>
  .ask (.on 0 (.newObject 10 0)) fun _ =>
  .ask (.on 0 (.release (some (.object 2)))) fun _ =>
  .done (.ok none)

/-- The destructor replaces itself. -/
def replaceDestructor : Host Unit Unit (Procedure.Waiting Unit Unit) :=
  Procedure.toHost fun _ =>
    .ask (.on 0 (.setDestructor 10 (.native .stock))) fun _ => .done (.ok none)

theorem registry_follows_history_replaceDestructor :
    World.Fresh ({} : World Unit) ∧
      ((start {} () (registerAndRelease.toMove ()).2).run replaceDestructor 22).control ≠
        .ended .fault ∧
      (start {} () (registerAndRelease.toMove ()).2).history replaceDestructor 0 22 =
        History.builtin ++ [.register 10, .setDestructor 10 (.closure ()),
          .setMember 10 "next" (.object 0), .setMember 10 "next" (.object 1),
          .setDestructor 10 (.native .stock)] ∧
      ∃ rt, ((start {} () (registerAndRelease.toMove ()).2).run
          replaceDestructor 22).world.runtimes[0]? = some rt ∧
        rt.registry.destructor 10 = .ok (.native .stock) ∧
        rt.registry.member 10 "next" = .ok (.object 1) := by
  have hw : World.Fresh ({} : World Unit) := ⟨rfl, rfl, rfl, rfl⟩
  have hfault : ((start {} () (registerAndRelease.toMove ()).2).run replaceDestructor 22).control ≠
      .ended .fault := by
    have hended : (match ((start {} () (registerAndRelease.toMove ()).2).run
        replaceDestructor 22).control with
      | .ended _ => true
      | _ => false) = false := by decide +kernel
    intro h
    rw [h] at hended
    cases hended
  have hhistory : (start {} () (registerAndRelease.toMove ()).2).history replaceDestructor 0 22 =
      History.builtin ++ [.register 10, .setDestructor 10 (.closure ()),
        .setMember 10 "next" (.object 0), .setMember 10 "next" (.object 1),
        .setDestructor 10 (.native .stock)] := by
    decide +kernel
  obtain ⟨rt, hrt⟩ : ∃ rt, ((start {} () (registerAndRelease.toMove ()).2).run
      replaceDestructor 22).world.runtimes[0]? = some rt :=
    Option.isSome_iff_exists.1 (by decide +kernel)
  obtain ⟨-, hfollows, -⟩ := registry_follows_history [] replaceDestructor {} hw ()
    (registerAndRelease.toMove ()).2 22 hfault 0 rt hrt
  rw [hhistory] at hfollows
  exact ⟨hw, hfault, hhistory, rt, hrt, hfollows.destructor 10, hfollows.member 10 "next"⟩

end Moment

end ObjectRuntime
