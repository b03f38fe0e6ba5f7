import ObjectRuntime.Proofs.Application.Invocation
import ObjectRuntime.Proofs.MethodCall
/-!
# Failures change nothing

An operation that fails leaves everything as it was, whatever it did before it found out; only a
release counts even when it fails.  What is done at once is looked at request by request
(`spares_perform`), and the rest by what an application or a release `Gives`.
-/

namespace ObjectRuntime

variable {κ σ φ : Type}

/-- Whether an operation can reach host code. -/
def Operation.runsCode : Operation κ → Bool
  | .release _ | .apply _ _ | .methodCall _ _ _ => true
  | _ => false

/-- Whether a request that can fail is done at once: an operation that can not reach host code, or a
service that makes an object or a runtime. -/
def Request.isDirect : Request κ → Bool
  | .on _ op => !op.runsCode
  | .service (.createObject _ _) | .service (.createFunction _) | .service (.startRuntime _) => true
  | _ => false

namespace Heap

theorem addCount_addCount_neg (h : Heap κ) (r : Ref) (n : Int) :
    (h.addCount r n).addCount r (-n) = h := by
  have hmodify (a : Array (Cell κ)) (i : Nat) :
      (a.modify i fun c => { c with count := c.count + n }).modify i
        (fun c => { c with count := c.count + -n }) = a := by
    refine Array.ext_getElem? fun j => ?_
    simp only [Array.getElem?_modify]
    split
    · cases a[j]? <;> simp
    · rfl
  cases r with
  | nil i => exact congrArg (fun nils => { h with nils }) (hmodify h.nils i)
  | object i => exact congrArg (fun objects => { h with objects }) (hmodify h.objects i)

end Heap

namespace World

/-- Nothing changed but what was reported and how often the allocators were asked. -/
def Untouched (w w' : World κ) : Prop :=
  ∃ journal traffic, w' = { w with journal, allocator := { w.allocator with traffic } }

theorem Untouched.refl (w : World κ) : w.Untouched w := ⟨_, _, rfl⟩

variable {w w' : World κ} {e : Failure}

theorem untouched_of_allocate {size : UInt64} {a : Address}
    (h : w.allocate size a = (w', false)) : w.Untouched w' := by
  unfold allocate Allocator.allocate at h
  dsimp only at h
  split at h
  next hserved =>
    split at hserved <;> cases hserved
    cases h
  next hrefused =>
    split at hrefused <;> cases hrefused
    cases h
    exact ⟨_, _, rfl⟩

theorem untouched_of_createObject {kind : KindId} {payload : UInt64}
    (h : w.createObject kind payload = (w', .error e)) : w.Untouched w' := by
  simp only [createObject] at h
  split at h
  · split at h
    · cases h
    next hrefused =>
      cases h
      exact untouched_of_allocate hrefused
  · cases h
    exact .refl w

theorem untouched_of_createFunction {code : κ} (h : w.createFunction code = (w', .error e)) :
    w.Untouched w' := by
  simp only [createFunction] at h
  split at h
  · cases h
  next hrefused =>
    cases h
    exact untouched_of_allocate hrefused

theorem untouched_of_startRuntime {cap : DepthCap} (h : w.startRuntime cap = (w', .error e)) :
    w.Untouched w' := by
  simp only [startRuntime] at h
  split at h
  · cases h
  next hrefused =>
    cases h
    obtain ⟨journal, traffic, rfl⟩ := untouched_of_allocate hrefused
    exact ⟨journal, traffic, rfl⟩

/-- A request in `w` ended the run or was done, and left `w` untouched if it failed. -/
def Spares (w : World κ) (p : World κ × Turn κ) : Prop :=
  (∃ ending, p.2 = .halt ending) ∨ ∃ w' reply, p = (w', .done reply) ∧
    ∀ e, reply = .error e → w.Untouched w'

theorem spares_of_ok (w w' : World κ) (value : Value κ) : w.Spares (w', .done (.ok value)) :=
  .inr ⟨w', _, rfl, fun _ h => by cases h⟩

theorem spares_of_same (w : World κ) (reply : Reply κ) : w.Spares (w, .done reply) :=
  .inr ⟨w, _, rfl, fun _ _ => .refl w⟩

theorem spares_objectReply {p : World κ × Except Failure Ref}
    (h : ∀ w' e, p = (w', .error e) → w.Untouched w') : w.Spares (p.1, objectReply p.2) := by
  obtain ⟨w', e | r⟩ := p
  · exact .inr ⟨w', _, rfl, fun _ _ => h w' e rfl⟩
  · exact spares_of_ok w w' _

theorem spares_retain (r : Ref) (value : Value κ) :
    w.Spares (w.orFault ((w.retain r).map (·, .done (.ok value)))) := by
  cases hr : w.retain r with
  | none => exact .inl ⟨.fault, rfl⟩
  | some w' => exact spares_of_ok w w' value

theorem spares_operate (i : RuntimeId) (rt : Runtime κ) {op : Operation κ}
    (hop : op.runsCode = false) : w.Spares (w.operate i rt op) := by
  have hwrite (e : Event κ) (change : Except Failure (Registry κ)) :
      w.Spares (w.writeRegistry i e change) := by
    cases change with
    | ok g => exact spares_of_ok w _ _
    | error e => exact spares_of_same w _
  cases op with
  | register | setDestructor | setApply => exact hwrite _ _
  | setMember kind name value =>
    rcases w.setMember_cases i rt.registry kind name value with
      ⟨e, hw⟩ | ⟨r, g, replaced, w', -, -, -, ⟨-, hw⟩ | ⟨w'', -, hw⟩⟩
    · rw [operate, hw]
      exact spares_of_same w _
    · rw [operate, hw]
      exact .inl ⟨.fault, rfl⟩
    · rw [operate, hw]
      exact spares_of_ok w _ _
  | newObject kind payload =>
    simp only [operate]
    split
    · exact spares_objectReply fun w' e => untouched_of_createObject
    · exact spares_of_same w _
  | nil => exact spares_retain _ _
  | retain object =>
    cases object with
    | none => exact spares_of_same w _
    | some r => exact spares_retain r _
  | lookup object name =>
    cases object with
    | none => exact spares_of_same w _
    | some r =>
      rcases w.lookup_cases rt.registry r name with hl | ⟨c, -, ⟨e, -, hl⟩ | ⟨m, w', -, -, hl⟩⟩
      · simp only [operate, hl]
        exact .inl ⟨.fault, rfl⟩
      · simp only [operate, hl]
        exact spares_of_same w _
      · simp only [operate, hl]
        exact spares_of_ok w _ _
  | release | apply | methodCall => cases hop

/-- **A request that is done at once and fails leaves everything `Untouched`.** -/
theorem spares_perform {request : Request κ} (h : request.isDirect = true) :
    w.Spares (w.perform request) := by
  cases request with
  | on i op =>
    cases hrt : w.runtimes[i]? with
    | none =>
      rw [perform_on_none hrt]
      exact .inl ⟨.fault, rfl⟩
    | some rt =>
      rw [perform_on hrt]
      exact spares_operate i rt (by simpa [Request.isDirect] using h)
  | service service =>
    cases service with
    | createObject kind payload =>
      exact spares_objectReply fun w' e => untouched_of_createObject
    | createFunction code => exact spares_objectReply fun w' e => untouched_of_createFunction
    | startRuntime cap =>
      simp only [perform, serve]
      cases hstart : w.startRuntime cap with
      | mk w' started =>
        cases started with
        | error e => exact .inr ⟨w', _, rfl, fun _ _ => untouched_of_startRuntime hstart⟩
        | ok i => exact spares_of_ok w w' _
    | _ => cases h
  | _ => cases h

theorem release_error {i : RuntimeId} {g : Registry κ} {r : Ref}
    (h : w.release i g r = (w', .done (.error e))) :
    w' = { w with heap := w.heap.addCount r (-1) } := by
  unfold release at h
  split at h
  · cases h
  · dsimp only at h
    split at h
    · cases h
    · split at h
      · cases h
        rfl
      · -- The count was 1.
        unfold destroy at h
        split at h
        · cases h
          rfl
        · dsimp only at h
          split at h
          · cases h
          · split at h <;> cases h
          · cases h
          · cases h

end World

namespace Moment

open World

variable {host : Host κ σ φ} {w w' : World κ} {s s' : σ} {request : Request κ} {n : Nat}
  {reply : Reply κ}

theorem Gives.ne_halt (h : (alone w s request).Gives host n w' s' reply) (ending : Ending) :
    (w.perform request).2 ≠ .halt ending := by
  intro hhalt
  refine h.not_ended 1 ending ?_
  rw [run_cons, run_zero, step_alone, hhalt]
  rfl

theorem Gives.of_enter (h : (alone w s request).Gives host n w' s' reply) {run : Invocation κ}
    (henter : (w.perform request).2 = .enter run) : ∃ answer, reply = run.role.reply answer := by
  have hleaves : (alone w s request).LeavesTo host run := leavesTo_of_enter rfl henter
  rcases hleaves.returns n with hworking | ⟨k, hk, -, answer, -, hstack, hcontrol⟩
  · -- Where the reply is there nobody is at work.
    obtain ⟨j, rfl⟩ := Nat.exists_eq_add_of_le' h.pos
    obtain ⟨above, frame, habove⟩ := hworking j (Nat.lt_succ_self j)
    rw [h.back] at habove
    simp at habove
  · have hback : ((alone w s request).run host (k + 1)).IsBack := by
      rw [run_succ]
      exact ⟨hstack, _, hcontrol⟩
    have heq := h.eq_of_isBack hback
    rw [run_succ] at heq
    rw [heq] at hcontrol
    cases hcontrol
    exact ⟨answer, rfl⟩

theorem Gives.entered_mem (h : (alone w s request).Gives host n w' s' reply) {run : Invocation κ}
    (henter : (w.perform request).2 = .enter run) :
    .entered run ∈ (alone w s request).trace host observation n := by
  obtain ⟨j, rfl⟩ := Nat.exists_eq_add_of_le' h.pos
  rw [trace]
  refine List.mem_append_left _ ?_
  simp [observation, alone, henter]

/-! ## Operations that fail -/

variable {e : Failure} {i : RuntimeId}

theorem Gives.untouched_of_spares (h : (alone w s request).Gives host n w' s' (.error e))
    (hspares : w.Spares (w.perform request)) : s' = s ∧ w.Untouched w' := by
  rcases hspares with ⟨ending, hhalt⟩ | ⟨w₁, reply₁, hdone, huntouched⟩
  · exact absurd hhalt (h.ne_halt ending)
  · obtain ⟨rfl, hs, hreply⟩ := h.of_done hdone
    exact ⟨hs, huntouched e hreply.symm⟩

theorem Gives.untouched_of_apply {callee : Pointer} {args : List Pointer}
    (h : (alone w s (.on i (.apply callee args))).Gives host n w' s' (.error e))
    (hquiet : ∀ run,
      .entered run ∉ (alone w s (.on i (.apply callee args))).trace host observation n) :
    s' = s ∧ w.Untouched w' := by
  obtain ⟨⟨journal, hworld⟩, hnext⟩ := w.perform_apply_frame i callee args
  cases hturn : (w.perform (.on i (.apply callee args))).2 with
  | done reply =>
    obtain ⟨rfl, hs, -⟩ := h.of_done (Prod.ext hworld hturn)
    exact ⟨hs, journal, _, rfl⟩
  | enter run => exact absurd (h.entered_mem hturn) (hquiet run)
  | next request p => exact absurd hturn (hnext request p)
  | halt ending => exact absurd hturn (h.ne_halt ending)

theorem Gives.counted_of_release {r : Ref}
    (h : (alone w s (.on i (.release (some r)))).Gives host n w' s' (.error e)) :
    s' = s ∧ w' = { w with heap := w.heap.addCount r (-1) } ∧ ∃ c, w.heap.live? r = some c := by
  cases hrt : w.runtimes[i]? with
  | none => exact absurd (by rw [perform_on_none hrt]) (h.ne_halt .fault)
  | some rt =>
    have hperform := perform_release (o := r) hrt
    cases hc : w.heap.live? r with
    | none => exact absurd (by simp only [hperform, World.release, hc]) (h.ne_halt .fault)
    | some c =>
      rcases w.release_cases i rt.registry r hc with ⟨⟨reply, hdone⟩, -⟩ | ⟨run, hrun, hrole, -⟩
      · obtain ⟨rfl, hs, hreply⟩ := h.of_done (hperform.trans (Prod.ext rfl hdone))
        rw [← hreply] at hdone
        have herror : w.release i rt.registry r =
          ((w.release i rt.registry r).1, .done (.error e)) := Prod.ext rfl hdone
        exact ⟨hs, release_error herror, c, rfl⟩
      · obtain ⟨answer, hanswer⟩ := h.of_enter (by rw [hperform, hrun])
        obtain ⟨code, role, receiver, args⟩ := run
        cases role <;> cases hrole <;> cases hanswer

theorem Applies.untouched {method : Ref} {args : List Pointer} {w₁ : World κ} {j : Journal κ}
    {d : Cell κ} {call : Moment κ σ φ} (hcall : call.Applies host i method args [] w₁ s)
    (hw₁ : w₁ = { w with heap := w.heap.addCount method 1, journal := j })
    (hi : i < w.runtimes.size) (hd : w.heap.live? method = some d) (hcount : 1 ≤ d.count)
    (h : call.Gives host n w' s' (.error e)) (hn : 2 ≤ n)
    (hquiet : ∀ run, .entered run ∉ call.trace host Moment.observation n) :
    s' = s ∧ w.Untouched w' := by
  obtain ⟨halike, htrace⟩ := hcall.applying (n := 1) fun k hk => by
    obtain rfl : k = 0 := by omega
    exact not_isBack_alone
  obtain ⟨⟨j₂, hw₂⟩, hnext⟩ := w₁.perform_apply_frame i (some method) args
  cases hturn : (w₁.perform (.on i (.apply (some method) args))).2 with
  | next request p => exact absurd hturn (hnext request p)
  | halt ending =>
    refine absurd ?_ (h.not_ended 2 ending)
    rw [halike.control, run_cons, run_zero, step_alone, hturn]
    rfl
  | enter run =>
    obtain ⟨j, rfl⟩ := Nat.exists_eq_add_of_le hn
    refine absurd ?_ (hquiet run)
    rw [trace_add, htrace]
    refine List.mem_append_left _ ?_
    simp [trace, Moment.observation, alone, hturn]
  | done ρ =>
    have ha := gives_of_done host s (Prod.ext hw₂ hturn)
    have hlive : ({ w₁ with journal := j₂ } : World κ).heap.live? method =
        some { d with count := d.count + 1 } := by
      rw [hw₁]
      exact Heap.live?_addCount hd 1
    have hrelease := gives_of_release host (i := i) (hw₁ ▸ hi) hlive (by dsimp only; omega) s
    obtain ⟨hend, -⟩ := hcall.released ha hrelease
    have hback := h.eq_of_isBack ⟨hend.stack, _, hend.control⟩
    rw [hback] at hend
    obtain ⟨j₃, hw', -⟩ := hend.world
    refine ⟨hend.state, j₃, w.allocator.traffic, Eq.trans hw' ?_⟩
    subst hw₁
    dsimp only
    rw [Heap.addCount_addCount_neg]

theorem Gives.untouched_of_methodCall {object : Pointer} {name : String} {args : List Pointer}
    (h : (alone w s (.on i (.methodCall object name args))).Gives host n w' s' (.error e))
    (hquiet : ∀ run,
      .entered run ∉ (alone w s (.on i (.methodCall object name args))).trace host observation n)
    (hcount : ∀ method d, (Request.on i (.methodCall object name args)).Reaches w method →
      w.heap.live? method = some d → 1 ≤ d.count) : s' = s ∧ w.Untouched w' := by
  cases hrt : w.runtimes[i]? with
  | none => exact absurd (by rw [perform_on_none hrt]) (h.ne_halt .fault)
  | some rt =>
    have hperform : w.perform (.on i (.methodCall object name args)) =
        w.methodCall i rt.registry object name args := perform_on hrt _
    cases object with
    | none =>
      obtain ⟨rfl, hs, -⟩ := h.of_done hperform
      exact ⟨hs, .refl _⟩
    | some r =>
      cases hc : w.heap.live? r with
      | none => exact absurd (by simp only [hperform, World.methodCall, hc]) (h.ne_halt .fault)
      | some c =>
        rcases lookup_step_cases host hrt hc name args s [] rfl rfl with
          ⟨-, hfault⟩ | ⟨e', -, hfails⟩ | ⟨method, w₁, d, hm, hd, ⟨j₁, hw₁⟩, -, hcall⟩
        · exact absurd hfault (h.not_ended 1 .fault)
        · have hfailed : (alone w s (.on i (.methodCall (some r) name args))).run host 1 =
              ⟨w, s, [], .reply (.error e')⟩ := by rw [run_cons, run_zero, ← hfails]; rfl
          have hback := h.eq_of_isBack (hfailed ▸ ⟨rfl, _, rfl⟩ : Moment.IsBack (run host 1 _))
          cases hback.symm.trans hfailed
          exact ⟨rfl, .refl w⟩
        · obtain ⟨hi, -⟩ := Array.getElem?_eq_some_iff.1 hrt
          refine hcall.untouched hw₁ hi hd
            (hcount method d ⟨rt, r, c, hrt, rfl, hc, hm⟩ hd) h ?_ hquiet
          -- After one step the method is about to be applied.
          refine Nat.lt_of_le_of_ne h.pos fun hn => ?_
          obtain ⟨w₀, -, hstep⟩ := hcall.step
          have hback := h.back
          rw [← hn, run_cons, run_zero] at hback
          cases hstep.symm.trans hback

/-- **An operation that fails changes nothing.**  Whoever waits for the reply, an operation that can
not reach host code, the making of an object or of a runtime, and an application that fails before
it reaches host code leave all registries, objects, storage and allocation counters as they were,
whichever requests for storage are refused.  So does a method call on a member with a reference to
spare.  A release that fails has taken one from the count and changed nothing else. -/
theorem failures_change_nothing (host : Host κ σ φ) (w : World κ) (s : σ) (request : Request κ)
    (n : Nat) (w' : World κ) (s' : σ) (e : Failure)
    (h : (alone w s request).Gives host n w' s' (.error e)) :
    (∀ stack, (⟨w, s, stack, .perform request⟩ : Moment κ σ φ).run host n =
      ⟨w', s', stack, .reply (.error e)⟩) ∧
    (request.isDirect = true → s' = s ∧ w.Untouched w') ∧
    (∀ i callee args, request = .on i (.apply callee args) →
      (∀ run, .entered run ∉ (alone w s request).trace host observation n) →
      s' = s ∧ w.Untouched w') ∧
    (∀ i object name args, request = .on i (.methodCall object name args) →
      (∀ run, .entered run ∉ (alone w s request).trace host observation n) →
      (∀ method d, request.Reaches w method → w.heap.live? method = some d → 1 ≤ d.count) →
      s' = s ∧ w.Untouched w') ∧
    (∀ i r, request = .on i (.release (some r)) →
      s' = s ∧ w' = { w with heap := w.heap.addCount r (-1) } ∧
        ∃ c, w.heap.live? r = some c) := by
  refine ⟨fun stack => ?_, fun hdirect => h.untouched_of_spares (spares_perform hdirect),
    ?_, ?_, ?_⟩
  · obtain ⟨habove, -⟩ := above_run stack h.waits
    rw [h.back] at habove
    exact habove
  · rintro i callee args rfl hquiet
    exact h.untouched_of_apply hquiet
  · rintro i object name args rfl hquiet hcount
    exact h.untouched_of_methodCall hquiet hcount
  · rintro i r rfl
    exact h.counted_of_release

/-- A client that leaves its nil to a table, as a member of itself. -/
def bindNil : Procedure Unit Unit Answer :=
  .ask (.service (.startRuntime (some 1))) fun _ =>
  .ask (.on 0 (.setMember nilKind "self" (some (.nil 0)))) fun _ => .done (.ok none)

/-- A host whose code ends at once. -/
def idle : Host Unit Unit (Procedure.Waiting Unit Unit) :=
  Procedure.toHost fun _ => .done (.ok none)

/-- A nil that is called as a method of itself can not be applied, and the call leaves its two
references, that of the runtime and that of the table. -/
theorem failures_change_nothing_bindNil :
    ∃ w call w', w = ((start {} () (bindNil.toMove ()).2).run idle 4).world ∧
      w.heap.live? (.nil 0) = some { kind := nilKind, body := .nothing, count := 2 } ∧
      call = alone w () (.on 0 (.methodCall (some (.nil 0)) "self" [])) ∧
      call.Gives idle 5 w' () (.error (.uncallable nilKind)) ∧ w.Untouched w' := by
  obtain ⟨w, hw⟩ : ∃ w, w = ((start {} () (bindNil.toMove ()).2).run idle 4).world := ⟨_, rfl⟩
  obtain ⟨call, hcall⟩ :
      ∃ call, call = alone w () (.on 0 (.methodCall (some (.nil 0)) "self" [])) := ⟨_, rfl⟩
  have hcell : w.heap.live? (.nil 0) = some { kind := nilKind, body := .nothing, count := 2 } := by
    rw [hw]
    rfl
  have hmember : w.runtimes[0]?.map (·.registry.member nilKind "self") = some (.ok (.nil 0)) := by
    rw [hw]
    rfl
  have hgives : call.Gives idle 5 (call.run idle 5).world () (.error (.uncallable nilKind)) := by
    have hcontrol : (call.run idle 5).control = .reply (.error (.uncallable nilKind)) := by
      rw [hcall, hw]
      rfl
    have hstack : (call.run idle 5).stack = [] := by
      rw [hcall, hw]
      rfl
    have hwaits : ∀ k < 5, (call.run idle k).isFinal = false := by
      rw [hcall, hw]
      decide
    refine ⟨fun k hk hback => ?_, ?_⟩
    · exact Bool.false_ne_true ((hwaits k hk).symm.trans (isFinal_of_isBack hback))
    · rw [← hcontrol, ← hstack]
  have hquiet : call.trace idle observation 5 = [] := by
    rw [hcall, hw]
    rfl
  subst hcall
  refine ⟨w, _, _, hw, hcell, rfl, hgives, ?_⟩
  obtain ⟨-, -, -, hmethodCall, -⟩ := failures_change_nothing idle w () _ 5 _ () _ hgives
  refine (hmethodCall 0 (some (.nil 0)) "self" [] rfl (fun run => ?_) ?_).2
  · rw [hquiet]
    exact List.not_mem_nil
  · rintro method d ⟨rt, r, c, hrt, hr, hc, hm⟩ hd
    -- The name is bound to the receiver.
    cases hr
    cases hcell.symm.trans hc
    rw [hrt] at hmember
    cases (Option.some.inj hmember).symm.trans hm
    cases hcell.symm.trans hd
    decide

end Moment

end ObjectRuntime
