import ObjectRuntime.Proofs.Interfaces.Script
/-!
# Keeping two runs of a script in step

One run of a script asks a runtime of its own, the other the C interface.  `Sim` keeps them in
step: a step of the first is answered by a few steps of the second, with the same code entered and
the same replies, until a call fails; there the second one aborts (`Sim.step`, `Sim.abort`).
-/

namespace ObjectRuntime

variable {κ σ φ : Type}

namespace Moment

/-- The failure with which a call of host code comes back at this moment, if one does. -/
def failure? (m : Moment κ σ φ) : Option Failure :=
  match m.control, m.stack with
  | .reply (.error e), .host _ _ :: _ => some e
  | _, _ => none

end Moment

/-! ## The simulation -/

/-- The frames behind the C interface, where host code waits for calls that abort on an error. -/
def Frame.guarded : List (Frame κ φ) → List (Frame κ φ)
  | [] => []
  | .host i f :: stack => .pending .orFatal :: .host i f :: guarded stack
  | .pending p :: stack => .pending p :: guarded stack

/-- What is left of a method call on the first runtime. -/
def Pending.OfMethodCall (p : Pending κ) : Prop :=
  (∃ reply, p = .keep reply) ∨ ∃ method, p = .releaseMethod 0 method

/-- Worlds, frames and control that fit a script: only method calls wait for anything, and the
worlds are twins once one of them does or an operation is performed. -/
structure Aligned (Fit : φ → Prop) (w v : World κ) (stack : List (Frame κ φ))
    (control : Control κ) : Prop where
  worlds : w.Twin v ∨ (w.Unborn v ∧ ∀ p, .pending p ∉ stack)
  pending : ∀ p, .pending p ∈ stack → p.OfMethodCall
  fit : ∀ i f, .host i f ∈ stack → Fit f
  request : ∀ request, control = .perform request →
    (∃ op, request = .on 0 op ∧ w.Twin v) ∨ ∃ code, request = .service (.createFunction code)

/-- A moment of a run on a runtime of one's own, and the moment behind the C interface. -/
inductive Sim (Fit : φ → Prop) : Moment κ σ φ → Moment κ σ φ → Prop
  | intro {w v s stack control} (h : Aligned Fit w v stack control) :
      Sim Fit ⟨w, s, stack, control⟩ ⟨v, s, Frame.guarded stack, control⟩

namespace Aligned

variable {Fit : φ → Prop} {w v : World κ} {stack : List (Frame κ φ)} {control : Control κ}
  {f : Frame κ φ}

theorem reply (h : Aligned Fit w v stack control) (reply : Reply κ) :
    Aligned Fit w v stack (.reply reply) :=
  ⟨h.worlds, h.pending, h.fit, fun _ hc => by cases hc⟩

theorem ended (h : Aligned Fit w v stack control) (ending : Ending) :
    Aligned Fit w v stack (.ended ending) :=
  ⟨h.worlds, h.pending, h.fit, fun _ hc => by cases hc⟩

theorem tail (h : Aligned Fit w v (f :: stack) control) : Aligned Fit w v stack control :=
  ⟨h.worlds.imp id fun h => ⟨h.1, fun p hp => h.2 p (List.mem_cons_of_mem _ hp)⟩,
    fun p hp => h.pending p (List.mem_cons_of_mem _ hp),
    fun i g hg => h.fit i g (List.mem_cons_of_mem _ hg), h.request⟩

theorem twin_of_pending {p : Pending κ} (h : Aligned Fit w v (.pending p :: stack) control) :
    w.Twin v :=
  h.worlds.resolve_right fun h => h.2 p List.mem_cons_self

theorem of_twin (h : Aligned Fit w v stack control) {w' v' : World κ} (htwin : w'.Twin v') :
    Aligned Fit w' v' stack (.reply (.ok .unit)) :=
  ⟨.inl htwin, h.pending, h.fit, fun _ hc => by cases hc⟩

theorem ask (h : Aligned Fit w v stack control) (i : Option (Invocation κ)) {frame : φ}
    (hfit : Fit frame) {v' : World κ} {request : Request κ}
    (hrequest : (∃ op, request = .on 0 op ∧ w.Twin v') ∨
      (∃ code, request = .service (.createFunction code)) ∧ v' = v) :
    Aligned Fit w v' (.host i frame :: stack) (.perform request) := by
  refine ⟨?_, fun p hp => h.pending p (by simpa using hp), fun i' g hg => ?_, fun _ hc => ?_⟩
  · rcases hrequest with ⟨op, -, htwin⟩ | ⟨-, rfl⟩
    · exact .inl htwin
    · exact h.worlds.imp id fun h => ⟨h.1, fun p hp => h.2 p (by simpa using hp)⟩
  · rcases List.mem_cons.1 hg with hg | hg
    · cases hg
      exact hfit
    · exact h.fit i' g hg
  · cases hc
    exact hrequest.imp id And.left

theorem next (h : Aligned Fit w v stack control) (htwin : w.Twin v) {p : Pending κ}
    (hp : p.OfMethodCall) (op : Operation κ) :
    Aligned Fit w v (.pending p :: stack) (.perform (.on 0 op)) := by
  refine ⟨.inl htwin, fun q hq => ?_, fun i g hg => h.fit i g (by simpa using hg), fun _ hc => ?_⟩
  · rcases List.mem_cons.1 hq with hq | hq
    · cases hq
      exact hp
    · exact h.pending q hq
  · cases hc
    exact .inl ⟨op, rfl, htwin⟩

theorem createFunction (h : Aligned Fit w v stack control) (code : κ) :
    Aligned Fit (w.createFunction code).1 (v.createFunction code).1 stack (.reply (.ok .unit)) ∧
      (v.createFunction code).2 = (w.createFunction code).2 := by
  rcases h.worlds with htwin | ⟨hunborn, hstack⟩
  · obtain ⟨htwin', hreply⟩ := htwin.createFunction code
    exact ⟨h.of_twin htwin', hreply⟩
  · obtain ⟨hunborn', hreply⟩ := hunborn.createFunction code
    exact ⟨⟨.inr ⟨hunborn', hstack⟩, h.pending, h.fit, fun _ hc => by cases hc⟩, hreply⟩

end Aligned

/-- The run behind the C interface gets in step with a moment, with these observations on the
way. -/
def CatchesUp (Fit : φ → Prop) (host : Host κ σ φ) (m m' : Moment κ σ φ)
    (seen : List (Observation κ)) : Prop :=
  ∃ j, Sim Fit m (m'.run host j) ∧ m'.trace host Moment.observation j = seen

/-- The run behind the C interface takes a step, and gets in step with what a step makes of a
moment, with the observations of that. -/
def Answered (Fit : φ → Prop) (host : Host κ σ φ) (m m' : Moment κ σ φ) : Prop :=
  ∃ seen, CatchesUp Fit host (m.step (host.direct 0)) (m'.step host) seen ∧
    m'.observation ++ seen = m.observation

namespace CatchesUp

variable {Fit : φ → Prop} {host : Host κ σ φ} {m m' : Moment κ σ φ} {seen : List (Observation κ)}

theorem now (h : Sim Fit m m') : CatchesUp Fit host m m' [] := ⟨0, h, rfl⟩

theorem after {m₁ : Moment κ σ φ} {o : List (Observation κ)} (hstep : m'.step host = m₁)
    (ho : m'.observation = o) (h : CatchesUp Fit host m m₁ seen) :
    CatchesUp Fit host m m' (o ++ seen) := by
  obtain ⟨j, hsim, hseen⟩ := h
  subst hstep ho
  exact ⟨j + 1, by rwa [Moment.run_cons], by rw [Moment.trace, hseen]⟩

theorem move {w v : World κ} {s : σ} {stack : List (Frame κ φ)} {control : Control κ}
    (h : Aligned Fit w v stack control) (i : Option (Invocation κ)) {mv : Move κ φ}
    (hmv : mv.IsScript Fit) (c c' : Control κ) :
    CatchesUp Fit host ((⟨w, s, stack, c⟩ : Moment κ σ φ).move i (mv.direct 0))
      ((⟨v, s, Frame.guarded stack, c'⟩ : Moment κ σ φ).move i mv) [] := by
  cases mv with
  | finish answer => cases i <;> exact now ⟨h.reply _⟩
  | ask request frame =>
    cases request with
    | foreign call =>
      obtain ⟨hsome, hfit⟩ := hmv
      obtain ⟨request, hcall⟩ := Option.isSome_iff_exists.1 hsome
      obtain ⟨v', hv', hrequest⟩ := World.call_direct (h.worlds.imp id And.left) hcall
      have hperform : v.perform (.foreign call) = (v', .next request .orFatal) := hv'
      have hstep : (⟨v, s, .host i frame :: Frame.guarded stack, .perform (.foreign call)⟩ :
          Moment κ σ φ).step host =
            ⟨v', s, Frame.guarded (.host i frame :: stack), .perform request⟩ := by
        simp only [Moment.step, hperform]
        rfl
      have hseen : (⟨v, s, .host i frame :: Frame.guarded stack, .perform (.foreign call)⟩ :
          Moment κ σ φ).observation = [] := by
        simp only [Moment.observation, hperform]
      have hmove : (⟨w, s, stack, c⟩ : Moment κ σ φ).move i
          ((Move.ask (.foreign call) frame).direct 0) =
            ⟨w, s, .host i frame :: stack, .perform request⟩ := by
        simp only [Move.direct, hcall, Option.getD_some]
        rfl
      -- The call itself is one more step behind the C interface, of which host code sees nothing.
      rw [hmove]
      exact after hstep hseen (now ⟨h.ask i hfit hrequest⟩)
    | _ => cases hmv

theorem turn (hhost : host.IsScript Fit) {w v : World κ} {s : σ} {stack : List (Frame κ φ)}
    {control : Control κ} (h : Aligned Fit w v stack control) {t : Turn κ}
    (hnext : ∀ request p, t = .next request p →
      w.Twin v ∧ (∃ op, request = .on 0 op) ∧ p.OfMethodCall) (c c' : Control κ) :
    CatchesUp Fit host ((⟨w, s, stack, c⟩ : Moment κ σ φ).turn (host.direct 0) t)
      ((⟨v, s, Frame.guarded stack, c'⟩ : Moment κ σ φ).turn host t) [] := by
  cases t with
  | done reply => exact now ⟨h.reply reply⟩
  | halt ending => exact now ⟨h.ended ending⟩
  | enter run => exact move h (some run) (hhost.enter run s) c c'
  | next request p =>
    obtain ⟨htwin, ⟨op, rfl⟩, hp⟩ := hnext request p rfl
    exact now ⟨h.next htwin hp op⟩

end CatchesUp

theorem World.resume_of_methodCall {p : Pending κ} (hp : p.OfMethodCall) (reply : Reply κ) :
    ∃ t : Turn κ, (∀ w : World κ, w.resume reply p = (w, t)) ∧
      ∀ request q, t = .next request q → (∃ op, request = .on 0 op) ∧ q.OfMethodCall := by
  rcases hp with ⟨kept, rfl⟩ | ⟨method, rfl⟩
  · cases reply with
    | ok value => exact ⟨.done kept, fun _ => rfl, fun _ _ h => by cases h⟩
    | error e => exact ⟨.done (.error e), fun _ => rfl, fun _ _ h => by cases h⟩
  · refine ⟨_, fun _ => rfl, fun request q h => ?_⟩
    cases h
    exact ⟨⟨_, rfl⟩, .inl ⟨reply, rfl⟩⟩

namespace Sim

variable {Fit : φ → Prop} {host : Host κ σ φ} {m m' : Moment κ σ φ}

theorem step_perform (hhost : host.IsScript Fit) {w v : World κ} {s : σ}
    {stack : List (Frame κ φ)} {request : Request κ}
    (h : Aligned Fit w v stack (.perform request)) :
    Answered Fit host ⟨w, s, stack, .perform request⟩
      ⟨v, s, Frame.guarded stack, .perform request⟩ := by
  rcases h.request request rfl with ⟨op, rfl, htwin⟩ | ⟨code, rfl⟩
  · obtain ⟨htwin', hturn⟩ := htwin.perform 0 op
    refine ⟨[], ?_, ?_⟩
    · rw [Moment.step_perform host rfl, Moment.step_perform (host.direct 0) rfl]
      simp only [hturn]
      refine .turn hhost (h.of_twin htwin') (fun request p ht => ?_) _ _
      obtain ⟨hop, method, rfl⟩ := World.perform_next ht
      exact ⟨htwin', hop, .inr ⟨method, rfl⟩⟩
    · simp only [Moment.observation, hturn, List.append_nil]
  · obtain ⟨haligned, hreply⟩ := h.createFunction code
    refine ⟨[], ?_, ?_⟩
    · rw [Moment.step_perform host rfl, Moment.step_perform (host.direct 0) rfl]
      simp only [World.perform, World.serve, hreply]
      refine .turn hhost haligned (fun request p ht => ?_) _ _
      rcases hresult : (w.createFunction code).2 with _ | _ <;> rw [hresult] at ht <;> cases ht
    · simp only [Moment.observation, World.perform, World.serve, hreply, List.append_nil]

/-- A method call that waits has the same left to do on both sides; what host code waits for has to
get past the guard first. -/
theorem step_reply (hhost : host.IsScript Fit) {w v : World κ} {s : σ} {f : Frame κ φ}
    {stack : List (Frame κ φ)} {reply : Reply κ}
    (h : Aligned Fit w v (f :: stack) (.reply reply))
    (hok : (⟨w, s, f :: stack, .reply reply⟩ : Moment κ σ φ).failure? = none) :
    Answered Fit host ⟨w, s, f :: stack, .reply reply⟩
      ⟨v, s, Frame.guarded (f :: stack), .reply reply⟩ := by
  cases f with
  | pending p =>
    obtain ⟨t, hresume, hnext⟩ := World.resume_of_methodCall (h.pending p List.mem_cons_self) reply
    refine ⟨[], ?_, rfl⟩
    have hstep := Moment.step_pending host v s p (Frame.guarded stack) reply
    rw [Frame.guarded, hstep, Moment.step_pending, hresume w, hresume v]
    exact .turn hhost h.tail (fun request q ht => ⟨h.twin_of_pending, hnext request q ht⟩) _ _
  | host i frame =>
    cases reply with
    | error e => cases hok
    | ok value =>
      have hframe : (host.resume frame (.ok value) s).2.IsScript Fit :=
        hhost.resume frame (.ok value) s (h.fit i frame List.mem_cons_self)
      -- The guard lets the value through, and host code goes on with it.
      refine ⟨[.replied (.ok value)], ?_, rfl⟩
      have hguard := Moment.step_pending host v s .orFatal
        (.host i frame :: Frame.guarded stack) (.ok value)
      rw [Frame.guarded, hguard, ← List.append_nil [_]]
      refine .after (Moment.step_host host v s i frame _ (.ok value)) rfl ?_
      rw [Moment.step_host]
      exact .move h.tail i hframe _ _

/-- **Each step is `Answered`**, unless it hands host code a failure. -/
theorem step (hhost : host.IsScript Fit) (h : Sim Fit m m') (hok : m.failure? = none) :
    Answered Fit host m m' := by
  cases h with
  | @intro w v s stack control h =>
    cases control with
    | ended ending => exact ⟨[], .now ⟨h⟩, rfl⟩
    | perform request => exact step_perform hhost h
    | reply reply =>
      cases stack with
      | nil => exact ⟨[], .now ⟨h⟩, rfl⟩
      | cons f stack => exact step_reply hhost h hok

/-- Behind the C interface a failure that is handed to host code ends the run at once. -/
theorem abort (h : Sim Fit m m') {e : Failure} (hfail : m.failure? = some e) :
    (m'.step host).control = .ended (.aborted e.message) ∧ m'.observation = [] := by
  cases h with
  | @intro w v s stack control h =>
    cases control with
    | reply reply =>
      cases stack with
      | nil => cases reply <;> cases hfail
      | cons frame stack =>
        cases frame with
        | pending p => cases reply <;> cases hfail
        | host i frame =>
          cases reply with
          | ok value => cases hfail
          | error e' =>
            cases hfail
            exact ⟨rfl, rfl⟩
    | _ => cases hfail

theorem run (hhost : host.IsScript Fit) {n : Nat}
    (h : CatchesUp Fit host m m' [])
    (hok : ∀ k < n, (m.run (host.direct 0) k).failure? = none) :
    ∃ j, n ≤ j ∧ Sim Fit (m.run (host.direct 0) n) (m'.run host j) ∧
      m'.trace host Moment.observation j = m.trace (host.direct 0) Moment.observation n := by
  -- Each step on the left is answered by one or more on the right, hence `n ≤ j`.
  induction n with
  | zero =>
    obtain ⟨j, hsim, hseen⟩ := h
    exact ⟨j, Nat.zero_le j, hsim, hseen⟩
  | succ n ih =>
    obtain ⟨j, hj, hsim, hseen⟩ := ih fun k hk => hok k (by omega)
    obtain ⟨seen, ⟨i, hsim', hseen'⟩, hobs⟩ := hsim.step hhost (hok n (by omega))
    refine ⟨j + (i + 1), by omega, ?_, ?_⟩
    · rwa [Moment.run_succ, Moment.run_add, Moment.run_cons]
    · have hanswer : (m'.run host j).trace host Moment.observation (i + 1) =
          (m.run (host.direct 0) n).observation := by
        rw [Moment.trace, hseen', hobs]
      rw [Moment.trace_add, hseen, hanswer, Moment.trace_succ]

theorem cell? (h : Sim Fit m m') (r : Ref) :
    m'.world.heap.cell? r = m.world.heap.cell? r ∨ (r = .nil 0 ∧ m'.world.shared = none) := by
  cases h with
  | intro h =>
    rcases h.worlds with htwin | ⟨hunborn, -⟩
    · exact .inl (congrArg (·.cell? r) htwin.heap)
    · by_cases hr : r = .nil 0
      · exact .inr ⟨hr, hunborn.shared⟩
      · left
        dsimp only
        rw [hunborn.heap, Heap.cell?_addNil, if_neg]
        rwa [Heap.nextNil, hunborn.nils]

theorem final (h : Sim Fit m m') (hfinal : m.isFinal = true) :
    m'.isFinal = true ∧ m'.control = m.control := by
  cases h with
  | @intro w v s stack control h =>
    refine ⟨?_, rfl⟩
    cases control with
    | ended => rfl
    | perform => cases hfinal
    | reply =>
      cases stack with
      | nil => rfl
      | cons => cases hfinal

theorem state (h : Sim Fit m m') : m'.state = m.state := by
  cases h
  rfl

end Sim

end ObjectRuntime
