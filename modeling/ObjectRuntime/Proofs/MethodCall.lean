import ObjectRuntime.Procedure
import ObjectRuntime.Proofs.Alone
import ObjectRuntime.Proofs.Cascade.Destructor
import ObjectRuntime.Proofs.Congruence.Journal
import ObjectRuntime.Proofs.Ledger.Record
/-!
# Method calls

A method call is a look-up, an application and a release in a row: it runs as these would one after
the other, above a frame that remembers what is left to do (`Applies`, `RunsInTurn`).
-/

namespace ObjectRuntime

variable {κ σ φ : Type}

/-- What a method call gives back: the failure of the release, or else the result of the
application. -/
def Reply.ofMethod (applied released : Reply κ) : Reply κ :=
  match released with
  | .error e => .error e
  | .ok _ => applied

theorem World.perform_apply_frame (w : World κ) (i : RuntimeId) (callee : Pointer)
    (args : List Pointer) :
    (∃ journal, (w.perform (.on i (.apply callee args))).1 = { w with journal }) ∧
      ∀ request p, (w.perform (.on i (.apply callee args))).2 ≠ .next request p := by
  cases hrt : w.runtimes[i]? with
  | none => simpa only [perform_on_none hrt] using ⟨⟨w.journal, rfl⟩, by simp⟩
  | some rt =>
    obtain ⟨hframe, hnext, -⟩ := w.apply_frame i rt callee args
    simpa only [perform_on hrt] using ⟨hframe, hnext⟩

namespace Moment

open World

variable {host : Host κ σ φ} {m m' : Moment κ σ φ} {below : List (Frame κ φ)} {n : Nat}

/-! ## Runs that go on above a frame, with another journal -/

theorem Alike.isBack {R : World κ → World κ → Prop} (h : Alike R m m') (hback : m'.IsBack) :
    m.IsBack := by
  obtain ⟨hstack, reply, hcontrol⟩ := hback
  exact ⟨h.stack ▸ hstack, reply, h.control ▸ hcontrol⟩

theorem Alike.above {R : World κ → World κ → Prop} (h : Alike R m m') (below : List (Frame κ φ)) :
    Alike R (m.above below) (m'.above below) :=
  ⟨h.world, h.state, congrArg (· ++ below) h.stack, h.control⟩

theorem Alike.run_above (h : Alike JournalApart m m') (below : List (Frame κ φ))
    (hwaits : ∀ k < n, ¬ (m.run host k).IsBack) :
    Alike JournalApart ((m.run host n).above below) ((m'.above below).run host n) ∧
      (m'.above below).trace host Moment.observation n = m.trace host Moment.observation n := by
  obtain ⟨halike, htrace⟩ := h.run_of_journalApart host n
  obtain ⟨hrun, hobserved⟩ := above_run below fun k hk hback =>
    hwaits k hk ((h.run_of_journalApart host k).1.isBack hback)
  rw [hrun, hobserved, htrace]
  exact ⟨halike.above below, rfl⟩

theorem Alike.eq_mk {R : World κ → World κ → Prop} (h : Alike R m m') :
    m' = ⟨m'.world, m.state, m.stack, m.control⟩ := by
  rw [← h.state, ← h.stack, ← h.control]

theorem Gives.run_above {w : World κ} {s : σ} {reply : Reply κ} (h : m.Gives host n w s reply)
    (halike : Alike JournalApart m m') (below : List (Frame κ φ)) :
    ∃ w', JournalApart w w' ∧ (m'.above below).run host n = ⟨w', s, below, .reply reply⟩ ∧
      (m'.above below).trace host Moment.observation n = m.trace host Moment.observation n := by
  obtain ⟨habove, htrace⟩ := halike.run_above below h.waits
  rw [h.back] at habove
  exact ⟨_, habove.world, habove.eq_mk, htrace⟩

/-! ## The three parts of a call -/

section

variable {w : World κ} {i : RuntimeId} {rt : Runtime κ} {r : Ref} {c : Cell κ} {name : String}
  {args : List Pointer} {s : σ} {stack : List (Frame κ φ)} {method : Ref} {w₁ : World κ}

/-- A call is at its application. -/
structure Applies (host : Host κ σ φ) (i : RuntimeId) (method : Ref) (args : List Pointer)
    (stack : List (Frame κ φ)) (w₁ : World κ) (s : σ) (call : Moment κ σ φ) : Prop where
  quiet : call.observation = []
  step : ∃ w, JournalApart w₁ w ∧ call.step host =
    (alone w s (.on i (.apply (some method) args))).above
      (.pending (.releaseMethod i method) :: stack)

variable {call looked : Moment κ σ φ} {a d : Nat} {w₂ w₃ : World κ} {s₂ s₃ : σ} {ρ δ : Reply κ}

theorem lookup_step_cases (host : Host κ σ φ) (hrt : w.runtimes[i]? = some rt)
    (hc : w.heap.live? r = some c) (name : String) (args : List Pointer) (s : σ)
    (stack : List (Frame κ φ))
    (hcall : call = ⟨w, s, stack, .perform (.on i (.methodCall (some r) name args))⟩)
    (hlooked : looked = (alone w s (.on i (.lookup (some r) name))).step host) :
    (looked.control = .ended .fault ∧ (call.step host).control = .ended .fault) ∨
      (∃ e, looked = ⟨w, s, [], .reply (.error e)⟩ ∧
        call.step host = ⟨w, s, stack, .reply (.error e)⟩) ∨
      ∃ method w₁ d, rt.registry.member c.kind name = .ok method ∧ w.heap.live? method = some d ∧
        (∃ journal, w₁ = { w with heap := w.heap.addCount method 1, journal }) ∧
        looked = ⟨w₁, s, [], .reply (.ok (.object (some method)))⟩ ∧
        call.Applies host i method args stack w₁ s := by
  have hlookup : w.perform (.on i (.lookup (some r) name)) =
      w.orFault ((w.lookup rt.registry r name).map fun p => (p.1, objectReply p.2)) :=
    perform_on hrt _
  have hperform : w.perform (.on i (.methodCall (some r) name args)) =
      w.methodCall i rt.registry (some r) name args := perform_on hrt _
  rw [step_alone] at hlooked
  have hstep := step_perform host (m := call) (by rw [hcall])
  subst hcall
  simp only [alone, hlookup] at hlooked
  simp only [hperform, methodCall, hc] at hstep
  rcases w.lookup_cases rt.registry r name with
    hl | ⟨c', hc', ⟨e, -, hl⟩ | ⟨method, w', hm, hr, hl⟩⟩
  · left
    rw [hl] at hlooked hstep
    exact ⟨hlooked ▸ rfl, hstep ▸ rfl⟩
  · right; left
    rw [hl] at hlooked hstep
    exact ⟨e, hlooked, hstep⟩
  · right; right
    obtain ⟨d, hd, rfl⟩ := retain_eq_some_iff.1 hr
    cases hc.symm.trans hc'
    rw [hl] at hlooked hstep
    refine ⟨method, ({ w with heap := w.heap.addCount method 1 } : World κ).emit
      (.lookup c.kind name), d, hm, hd, ⟨_, rfl⟩, hlooked, ?_, _,
      (JournalApart.refl _).emit_right (.methodCall c.kind name args.length), hstep⟩
    simp only [Moment.observation, hperform, methodCall, hc, hl]

theorem Applies.applying (h : call.Applies host i method args stack w₁ s)
    (hwaits : ∀ k < n, ¬ ((alone w₁ s (.on i (.apply (some method) args))).run host k).IsBack) :
    Alike JournalApart
        (((alone w₁ s (.on i (.apply (some method) args))).run host n).above
          (.pending (.releaseMethod i method) :: stack))
        (call.run host (n + 1)) ∧
      call.trace host Moment.observation (n + 1) =
        (alone w₁ s (.on i (.apply (some method) args))).trace host Moment.observation n := by
  obtain ⟨w, hw, hstep⟩ := h.step
  rw [run_cons, trace, h.quiet, hstep, List.nil_append]
  exact (Alike.of_worlds hw s [] _).run_above _ hwaits

theorem Applies.applied (h : call.Applies host i method args stack w₁ s)
    (ha : (alone w₁ s (.on i (.apply (some method) args))).Gives host a w₂ s₂ ρ) :
    ∃ w, JournalApart w₂ w ∧
      call.run host (a + 2) =
        (alone w s₂ (.on i (.release (some method)))).above (.pending (.keep ρ) :: stack) ∧
      call.trace host Moment.observation (a + 2) =
        (alone w₁ s (.on i (.apply (some method) args))).trace host Moment.observation a := by
  obtain ⟨w, hw, hstep⟩ := h.step
  obtain ⟨w', hw', hrun, htrace⟩ :=
    ha.run_above (Alike.of_worlds hw s [] _) (.pending (.releaseMethod i method) :: stack)
  have hback : call.run host (a + 1) =
      ⟨w', s₂, .pending (.releaseMethod i method) :: stack, .reply ρ⟩ := by
    rw [run_cons, hstep]
    exact hrun
  refine ⟨w', hw', ?_, ?_⟩
  · rw [run_succ, hback, step_pending]
    rfl
  · rw [trace_succ, hback, trace, h.quiet, hstep, List.nil_append]
    exact (List.append_nil _).trans htrace

theorem Applies.releasing (h : call.Applies host i method args stack w₁ s)
    (ha : (alone w₁ s (.on i (.apply (some method) args))).Gives host a w₂ s₂ ρ)
    (hwaits : ∀ k < n, ¬ ((alone w₂ s₂ (.on i (.release (some method)))).run host k).IsBack) :
    Alike JournalApart
        (((alone w₂ s₂ (.on i (.release (some method)))).run host n).above
          (.pending (.keep ρ) :: stack))
        (call.run host (a + 2 + n)) ∧
      call.trace host Moment.observation (a + 2 + n) =
        (alone w₁ s (.on i (.apply (some method) args))).trace host Moment.observation a ++
          (alone w₂ s₂ (.on i (.release (some method)))).trace host Moment.observation n := by
  obtain ⟨w, hw, hrun, htrace⟩ := h.applied ha
  obtain ⟨habove, hobserved⟩ := (Alike.of_worlds hw s₂ [] _).run_above (n := n) _ hwaits
  rw [run_add, trace_add, hrun, htrace]
  exact ⟨habove, congrArg _ hobserved⟩

theorem Applies.released (h : call.Applies host i method args stack w₁ s)
    (ha : (alone w₁ s (.on i (.apply (some method) args))).Gives host a w₂ s₂ ρ)
    (hd : (alone w₂ s₂ (.on i (.release (some method)))).Gives host d w₃ s₃ δ) :
    Alike JournalApart ⟨w₃, s₃, stack, .reply (.ofMethod ρ δ)⟩ (call.run host (a + 2 + d + 1)) ∧
      call.trace host Moment.observation (a + 2 + d + 1) =
        (alone w₁ s (.on i (.apply (some method) args))).trace host Moment.observation a ++
          (alone w₂ s₂ (.on i (.release (some method)))).trace host Moment.observation d := by
  obtain ⟨w, hw, hrun, htrace⟩ := h.applied ha
  obtain ⟨w', hw', hback, hobserved⟩ :=
    hd.run_above (Alike.of_worlds hw s₂ [] _) (.pending (.keep ρ) :: stack)
  have hend : call.run host (a + 2 + d) = ⟨w', s₃, .pending (.keep ρ) :: stack, .reply δ⟩ := by
    rw [run_add, hrun]
    exact hback
  constructor
  · rw [run_succ, hend, step_pending]
    cases δ <;> exact Alike.of_worlds hw' _ _ _
  · rw [trace_succ, hend, trace_add, hrun, htrace]
    exact (List.append_nil _).trans (congrArg _ hobserved)

theorem Applies.entry (h : call.Applies host i method args stack w₁ s) :
    (call.run host 2).world.heap = w₁.heap := by
  obtain ⟨w, hw, hstep⟩ := h.step
  have hnext : call.run host 2 = (call.step host).step host := by
    rw [run_cons, run_cons, run_zero]
  rw [hnext, hstep, world_step_perform host rfl]
  obtain ⟨⟨j', hw'⟩, -⟩ := w.perform_apply_frame i (some method) args
  have hheap : (w.perform (.on i (.apply (some method) args))).1.heap = w.heap := by rw [hw']
  exact hheap.trans (JournalApart.congruence.heap hw)

theorem gives_of_release (host : Host κ σ φ) (hi : i < w₂.runtimes.size)
    (hc : w₂.heap.live? method = some c) (hcount : 2 ≤ c.count) (s : σ) :
    (alone w₂ s (.on i (.release (some method)))).Gives host 1
      { w₂ with heap := w₂.heap.addCount method (-1) } s (.ok .unit) := by
  refine gives_of_done host s ?_
  rw [perform_release (Array.getElem?_eq_getElem hi), release_of_one_lt hc (by omega)]

end

/-! ## The call as a whole -/

/-- A method call in `w` runs as the application of its method and then the release of it would,
each on its own. -/
structure RunsInTurn (host : Host κ σ φ) (i : RuntimeId) (method : Ref) (stack : List (Frame κ φ))
    (w : World κ) (applying call : Moment κ σ φ) : Prop where
  /-- The method is entered, if it is, in the second step, with one reference more than it had. -/
  entry : ∃ c, w.heap.live? method = some c ∧
    (call.run host 2).world.heap = w.heap.addCount method 1 ∧
    (call.run host 2).world.heap.live? method = some { c with count := c.count + 1 }
  applies : ∀ n, (∀ k < n, ¬ (applying.run host k).IsBack) →
    Alike JournalApart ((applying.run host n).above (.pending (.releaseMethod i method) :: stack))
        (call.run host (n + 1)) ∧
      call.trace host Moment.observation (n + 1) = applying.trace host Moment.observation n
  /-- The method is released, once, whatever the application gave. -/
  releases : ∀ a w₂ s₂ ρ, applying.Gives host a w₂ s₂ ρ → ∀ n releasing,
    releasing = alone w₂ s₂ (.on i (.release (some method))) →
    (∀ k < n, ¬ (releasing.run host k).IsBack) →
    Alike JournalApart ((releasing.run host n).above (.pending (.keep ρ) :: stack))
        (call.run host (a + 2 + n)) ∧
      call.trace host Moment.observation (a + 2 + n) =
        applying.trace host Moment.observation a ++ releasing.trace host Moment.observation n
  replies : ∀ a w₂ s₂ ρ, applying.Gives host a w₂ s₂ ρ → ∀ d w₃ s₃ δ releasing,
    releasing = alone w₂ s₂ (.on i (.release (some method))) →
    releasing.Gives host d w₃ s₃ δ →
    Alike JournalApart ⟨w₃, s₃, stack, .reply (.ofMethod ρ δ)⟩ (call.run host (a + 2 + d + 1)) ∧
      call.trace host Moment.observation (a + 2 + d + 1) =
        applying.trace host Moment.observation a ++ releasing.trace host Moment.observation d
  /-- Where two references are left when the method is done, the counts changed by as much as they
  did while it was at work. -/
  counts : ∀ a w₂ s₂ ρ, applying.Gives host a w₂ s₂ ρ → ∀ c, w₂.heap.live? method = some c →
    2 ≤ c.count →
    (call.run host (a + 4)).control = .reply ρ ∧ (call.run host (a + 4)).stack = stack ∧
      ∀ o b₀ b₂, w.heap.cell? o = some b₀ → w₂.heap.cell? o = some b₂ → ∃ b₁ b₃,
        (call.run host 2).world.heap.cell? o = some b₁ ∧
        (call.run host (a + 4)).world.heap.cell? o = some b₃ ∧
        b₃.count - b₀.count = b₂.count - b₁.count

/-- **A method call is a look-up, an application and a release.**  Where the look-up fails the call
gives its failure and changes nothing.  Otherwise the call runs as the application of the object
that was found and then, whatever that gave, one release of this object: the same happens to the
world and to the host, but for what is reported, and the same host code is entered in the same order
with the same replies.  It gives the failure of the release or else the result of the
application. -/
theorem methodCall_runs_in_turn (host : Host κ σ φ) (w : World κ) (i : RuntimeId) (rt : Runtime κ)
    (hrt : w.runtimes[i]? = some rt) (r : Ref) (c : Cell κ) (hc : w.heap.live? r = some c)
    (name : String) (args : List Pointer) (s : σ) (stack : List (Frame κ φ))
    (call looked : Moment κ σ φ)
    (hcall : call = ⟨w, s, stack, .perform (.on i (.methodCall (some r) name args))⟩)
    (hlooked : looked = (alone w s (.on i (.lookup (some r) name))).step host) :
    (looked.control = .ended .fault ∧ (call.step host).control = .ended .fault) ∨
      (∃ e, looked = ⟨w, s, [], .reply (.error e)⟩ ∧
        call.step host = ⟨w, s, stack, .reply (.error e)⟩) ∨
      ∃ method, looked.control = .reply (.ok (.object (some method))) ∧
        RunsInTurn host i method stack w
          (alone looked.world s (.on i (.apply (some method) args))) call := by
  rcases lookup_step_cases host hrt hc name args s stack hcall hlooked with
    hfault | hfails | ⟨method, w₁, d, -, hd, ⟨j₁, hw₁⟩, rfl, h⟩
  · exact .inl hfault
  · exact .inr (.inl hfails)
  · have hentry := h.entry.trans (congrArg World.heap hw₁)
    refine .inr (.inr ⟨method, rfl, ⟨d, hd, hentry, ?_⟩, fun n hwaits => h.applying hwaits,
      fun a w₂ s₂ ρ ha n releasing hreleasing hwaits => ?_,
      fun a w₂ s₂ ρ ha n w₃ s₃ δ releasing hreleasing hn => ?_,
      fun a w₂ s₂ ρ ha c₂ hc₂ hcount => ?_⟩)
    · rw [hentry]
      exact Heap.live?_addCount hd 1
    · subst hreleasing
      exact h.releasing ha hwaits
    · subst hreleasing
      exact h.released ha hn
    · have hi : i < w₂.runtimes.size := by
        have hsize := size_runtimes_le host
          (alone w₁ s (.on i (.apply (some method) args)) : Moment κ σ φ) a
        rw [ha.back] at hsize
        rw [alone, hw₁] at hsize
        obtain ⟨hi, -⟩ := Array.getElem?_eq_some_iff.1 hrt
        exact Nat.lt_of_lt_of_le hi hsize
      obtain ⟨hend, -⟩ := h.released ha (gives_of_release host hi hc₂ hcount s₂)
      refine ⟨hend.control, hend.stack, fun o b₀ b₂ hb₀ hb₂ => ?_⟩
      obtain ⟨j, hworld, -⟩ := hend.world
      obtain ⟨b₁, hb₁, hone⟩ := Heap.count_addCount hb₀ method 1
      obtain ⟨b₃, hb₃, hother⟩ := Heap.count_addCount hb₂ method (-1)
      refine ⟨b₁, b₃, by rw [hentry, hb₁], ?_, ?_⟩
      · show (call.run host (a + 2 + 1 + 1)).world.heap.cell? o = some b₃
        rw [hworld]
        exact hb₃
      · rw [hone, hother]
        split <;> omega

/-- A client that leaves an object to a table, as a method of another. -/
def bindMethod : Procedure Unit Unit Answer :=
  .ask (.service (.startRuntime (some 1))) fun _ =>
  .ask (.on 0 (.register 10)) fun _ =>
  .ask (.on 0 (.setApply 10 (.direct (.native (.host ()))))) fun _ =>
  .ask (.on 0 (.newObject 10 0)) fun _ =>
  .ask (.on 0 (.newObject 10 0)) fun _ =>
  .ask (.on 0 (.setMember 10 "next" (some (.object 1)))) fun _ =>
  .ask (.on 0 (.release (some (.object 1)))) fun _ =>
  .done (.ok none)

/-- The method binds its own name to the receiver. -/
def rebindMethod : Host Unit Unit (Procedure.Waiting Unit Unit) :=
  Procedure.toHost fun _ =>
    .ask (.on 0 (.setMember 10 "next" (some (.object 0)))) fun _ => .done (.ok none)

/-- What is called is what was bound when the call was made: `rebindMethod` comes too late. -/
theorem methodCall_runs_in_turn_rebindMethod :
    ∃ w rt c, w = ((start {} () (bindMethod.toMove ()).2).run rebindMethod 14).world ∧
      w.runtimes[0]? = some rt ∧ w.heap.live? (.object 0) = some c ∧
      RunsInTurn rebindMethod 0 (.object 1) [] w
        (alone ((alone w () (.on 0 (.lookup (some (.object 0)) "next"))).step rebindMethod).world ()
          (.on 0 (.apply (some (.object 1)) [])))
        ⟨w, (), [], .perform (.on 0 (.methodCall (some (.object 0)) "next" []))⟩ := by
  obtain ⟨w, hw⟩ : ∃ w, w = ((start {} () (bindMethod.toMove ()).2).run rebindMethod 14).world :=
    ⟨_, rfl⟩
  obtain ⟨rt, hrt⟩ : ∃ rt, w.runtimes[0]? = some rt :=
    Option.isSome_iff_exists.1 (by rw [hw]; decide)
  obtain ⟨c, hc⟩ : ∃ c, w.heap.live? (.object 0) = some c :=
    Option.isSome_iff_exists.1 (by rw [hw]; decide)
  have hfound :
      ((alone w () (.on 0 (.lookup (some (.object 0)) "next"))).step rebindMethod).control =
        .reply (.ok (.object (some (.object 1)))) := by
    rw [hw]
    rfl
  refine ⟨w, rt, c, hw, hrt, hc, ?_⟩
  rcases methodCall_runs_in_turn rebindMethod w 0 rt hrt (.object 0) c hc "next" [] () [] _ _ rfl
    rfl with ⟨hfault, -⟩ | ⟨e, hfails, -⟩ | ⟨method, hmethod, hruns⟩
  · rw [hfound] at hfault
    cases hfault
  · rw [hfails] at hfound
    cases hfound
  · rw [hfound] at hmethod
    cases hmethod
    exact hruns

end Moment

end ObjectRuntime
