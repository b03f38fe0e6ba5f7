import ObjectRuntime.Procedure
import ObjectRuntime.Proofs.ForeignClient
import ObjectRuntime.Proofs.Ledger.Counts
/-!
# Counts below zero are never seen

A release takes one from a count before it looks whether there was a reference to take
(`release_of_le_zero`).  Where all client code goes through the C interface, the failure that
follows ends the process before any client code runs (`Failing.silent`): it reaches a frame where
errors are fatal, with nothing in between but the frame of a method call that passes it on.
-/

namespace ObjectRuntime

variable {κ σ φ : Type}

namespace Heap

/-- No object in use has a count below zero. -/
def NonNegative (h : Heap κ) : Prop := ∀ r c, h.live? r = some c → 0 ≤ c.count

/-- This object is in use with a count below zero, and it is the only one. -/
structure Lacks (h : Heap κ) (r : Ref) (c : Cell κ) : Prop where
  live : h.live? r = some c
  negative : c.count < 0
  only : ∀ r' c', h.live? r' = some c' → c'.count < 0 → r' = r

theorem nonNegative_empty : (∅ : Heap κ).NonNegative := fun r c hc => by simp [live?] at hc

theorem NonNegative.lacks {h : Heap κ} (hpos : h.NonNegative) {r : Ref} {c : Cell κ}
    (hc : h.live? r = some c) (hcount : c.count ≤ 0) :
    (h.addCount r (-1)).Lacks r { c with count := c.count - 1 } where
  live := live?_addCount hc (-1)
  negative := by dsimp only; omega
  only r' c' hc' hneg := by
    obtain ⟨c₀, hc₀, hcount'⟩ := count_of_addCount hc'
    have := hpos r' c₀ hc₀
    split at hcount'
    next hr => exact hr
    · omega

end Heap

namespace Moment

variable {host : Host κ σ φ} {m : Moment κ σ φ}

/-- A release just found no reference, and its failure is on the way to where it is fatal. -/
structure Failing (m : Moment κ σ φ) (r : Ref) (c : Cell κ) : Prop where
  lacks : m.world.heap.Lacks r c
  control : m.control = .reply (.error (.countUnderflow c.kind c.count))
  stack : ∃ rest, m.stack = .pending .orFatal :: rest ∨
    ∃ reply, m.stack = .pending (.keep reply) :: .pending .orFatal :: rest

/-- The process ended because a release found no reference. -/
structure Failed (m : Moment κ σ φ) (r : Ref) (c : Cell κ) : Prop where
  lacks : m.world.heap.Lacks r c
  control : m.control = .ended (.aborted (Failure.countUnderflow c.kind c.count).message)

theorem Failing.observation {r : Ref} {c : Cell κ} (h : m.Failing r c) : m.observation = [] := by
  obtain ⟨rest, hstack | ⟨reply, hstack⟩⟩ := h.stack <;>
    simp only [Moment.observation, h.control, hstack]

theorem Failed.observation {r : Ref} {c : Cell κ} (h : m.Failed r c) : m.observation = [] := by
  simp only [Moment.observation, h.control]

/-- The failure of a release ends the process, or it is passed on and then ends it: it is never
handed to code. -/
theorem Failing.step (host : Host κ σ φ) {r : Ref} {c : Cell κ} (h : m.Failing r c) :
    (m.step host).Failed r c ∨ (m.step host).Failing r c ∧ (m.run host 2).Failed r c := by
  obtain ⟨w, s, stack, control⟩ := m
  obtain ⟨hlacks, rfl, rest, rfl | ⟨reply, rfl⟩⟩ := h
  · exact .inl ⟨hlacks, rfl⟩
  · exact .inr ⟨⟨hlacks, rfl, rest, .inl rfl⟩, ⟨hlacks, rfl⟩⟩

theorem Failing.failed (host : Host κ σ φ) {r : Ref} {c : Cell κ} (h : m.Failing r c) :
    ∃ j ≤ 2, (m.run host j).Failed r c := by
  rcases h.step host with hfailed | ⟨-, hfailed⟩
  · exact ⟨1, by omega, by rw [run_cons]; exact hfailed⟩
  · exact ⟨2, Nat.le_refl 2, hfailed⟩

theorem Failing.silent (host : Host κ σ φ) {r : Ref} {c : Cell κ} (h : m.Failing r c) (l : Nat) :
    m.trace host Moment.observation l = [] := by
  induction l generalizing m with
  | zero => rfl
  | succ l ih =>
    rw [trace, h.observation, List.nil_append]
    rcases h.step host with hfailed | ⟨hfailing, -⟩
    · exact trace_observation_of_ended hfailed.control l
    · exact ih hfailing

theorem Sheltered.ne_setCount (h : m.Sheltered) {request : Request κ}
    (hcontrol : m.control = .perform request) (r : Ref) (n : Int) :
    request ≠ .service (.setCount r n) := by
  rintro rfl
  rcases h.asked _ hcontrol with ⟨_, _, _, -, hforeign⟩ | ⟨p, _, -, hinner⟩
  · cases hforeign
  · cases p <;> simp [Request.IsInner] at hinner

theorem Sheltered.guards_release (h : m.Sheltered) {i : RuntimeId} {r : Ref}
    (hcontrol : m.control = .perform (.on i (.release (some r)))) :
    ∃ rest, m.stack = .pending .orFatal :: rest ∨
      ∃ reply, m.stack = .pending (.keep reply) :: .pending .orFatal :: rest := by
  have hguarded := h.guarded
  rcases h.asked _ hcontrol with ⟨_, _, _, -, hforeign⟩ | ⟨p, rest, hstack, hinner⟩
  · cases hforeign
  · rw [hstack] at hguarded ⊢
    cases hguarded with
    | orFatal => exact ⟨rest, .inl rfl⟩
    | keep => exact ⟨_, .inr ⟨_, rfl⟩⟩
    | releaseMethod => simp [Request.IsInner] at hinner

/-- A release that finds no reference fails, and no client code sees anything of it. -/
theorem Sheltered.failing (host : Host κ σ φ) (h : m.Sheltered) (hheap : m.world.heap.NonNegative)
    {i : RuntimeId} {rt : Runtime κ} {r : Ref} {c : Cell κ}
    (hcontrol : m.control = .perform (.on i (.release (some r))))
    (hrt : m.world.runtimes[i]? = some rt) (hc : m.world.heap.live? r = some c)
    (hcount : c.count ≤ 0) :
    (m.step host).Failing r { c with count := c.count - 1 } ∧ m.observation = [] := by
  have hperform : m.world.perform (.on i (.release (some r))) =
      ({ m.world with heap := m.world.heap.addCount r (-1) },
        .done (.error (.countUnderflow c.kind (c.count - 1)))) :=
    (World.perform_on hrt _).trans (World.release_of_le_zero hc hcount)
  rw [step_of_done hcontrol hperform]
  exact ⟨⟨hheap.lacks hc hcount, rfl, h.guards_release hcontrol⟩,
    by simp only [Moment.observation, hcontrol, hperform]⟩

/-- **A step keeps all counts from going below zero, or it is a release that fails** (`Failing`),
and client code sees nothing of it. -/
theorem Sheltered.nonNegative_or_failing (host : Host κ σ φ) (h : m.Sheltered)
    (hheap : m.world.heap.NonNegative) :
    (m.step host).world.heap.NonNegative ∨
      (∃ r c, (m.step host).Failing r c) ∧ m.observation = [] := by
  by_cases hperform : ∃ request, m.control = .perform request
  case neg =>
    refine .inl ?_
    rw [(step_frame host fun request hc => hperform ⟨request, hc⟩).1]
    exact hheap
  obtain ⟨request, hcontrol⟩ := hperform
  by_cases hfails : ∃ i rt r c, request = .on i (.release (some r)) ∧
      m.world.runtimes[i]? = some rt ∧ m.world.heap.live? r = some c ∧ c.count ≤ 0
  · obtain ⟨i, rt, r, c, rfl, hrt, hc, hcount⟩ := hfails
    obtain ⟨hfailing, hsilent⟩ := h.failing host hheap hcontrol hrt hc hcount
    exact .inr ⟨⟨r, _, hfailing⟩, hsilent⟩
  · refine .inl fun r c' hc' => ?_
    rw [world_step_perform host hcontrol] at hc'
    rcases (m.world.perform_outcome request).origin (h.ne_setCount hcontrol) hc' with
      ⟨-, hone⟩ | ⟨c, hc, hle | ⟨⟨i, rfl⟩, hcount⟩⟩
    · omega
    · have := hheap r c hc
      omega
    · -- The release was of a reference that was there, or no runtime performed it.
      cases hrt : m.world.runtimes[i]? with
      | some rt =>
        have : ¬ c.count ≤ 0 := fun hle => hfails ⟨i, rt, r, c, rfl, hrt, hc, hle⟩
        omega
      | none =>
        rw [World.perform_on_none hrt] at hc'
        exact hheap r c' hc'

/-- How a run of clients of the C interface can stand. -/
inductive Standing (m : Moment κ σ φ) : Prop
  | sound (hheap : m.world.heap.NonNegative) (h : m.Sheltered)
  | failing (r : Ref) (c : Cell κ) (h : m.Failing r c)
  | failed (r : Ref) (c : Cell κ) (h : m.Failed r c)

theorem Standing.step (host : Host κ σ φ) (h : m.Standing)
    (hasks : (m.step host).asksForeign = true) : (m.step host).Standing := by
  cases h with
  | sound hheap h =>
    rcases h.nonNegative_or_failing host hheap with hnext | ⟨⟨r, c, hfailing⟩, -⟩
    · exact .sound hnext (h.step hasks)
    · exact .failing r c hfailing
  | failing r c h =>
    rcases h.step host with hfailed | ⟨hfailing, -⟩
    · exact .failed r c hfailed
    · exact .failing r c hfailing
  | failed r c h =>
    rw [step_of_isFinal host (by rw [isFinal, h.control])]
    exact .failed r c h

theorem standing_run (host : Host κ σ φ) {w : World κ} (hw : w.Fresh) (s : σ) (first : Move κ φ)
    (n : Nat) (hasks : ∀ k ≤ n, ((start w s first).run host k).asksForeign = true) :
    ((start w s first).run host n).Standing := by
  refine run_induction (P := fun m => m.asksForeign = true)
    (fun hfirst => .sound ?_ (.start hfirst)) (fun _ => .step host) hasks
  rw [world_start, hw.heap]
  exact Heap.nonNegative_empty

/-- **No client of the C interface sees a count below zero.**  Wherever client code runs, because it
is entered or because a call comes back, the objects in use have counts of at least zero; and once a
count is below zero the process ends by reporting that count, before any client code runs. -/
theorem no_negative_count_seen (host : Host κ σ φ) {w : World κ} (hw : w.Fresh) (s : σ)
    (first : Move κ φ) (n : Nat)
    (hasks : ∀ k ≤ n, ((start w s first).run host k).asksForeign = true) :
    (((start w s first).run host n).observation ≠ [] →
        ((start w s first).run host (n + 1)).world.heap.NonNegative) ∧
      ∀ r c, ((start w s first).run host n).world.heap.live? r = some c → c.count < 0 →
        (∃ j ≤ n + 2, ((start w s first).run host j).control =
            .ended (.aborted (Failure.countUnderflow c.kind c.count).message)) ∧
          ∀ l, ((start w s first).run host n).trace host observation l = [] := by
  cases standing_run host hw s first n hasks with
  | sound hheap h =>
    refine ⟨fun hseen => ?_, fun r c hc hneg => absurd (hheap r c hc) (by omega)⟩
    rw [run_succ]
    rcases h.nonNegative_or_failing host hheap with hnext | ⟨-, hsilent⟩
    · exact hnext
    · exact absurd hsilent hseen
  | failing r c h =>
    refine ⟨fun hseen => absurd h.observation hseen, fun r' c' hc' hneg => ⟨?_, h.silent host⟩⟩
    obtain rfl := h.lacks.only r' c' hc' hneg
    obtain rfl := Option.some.inj (h.lacks.live.symm.trans hc')
    obtain ⟨j, hj, hfailed⟩ := h.failed host
    exact ⟨n + j, by omega, by rw [run_add]; exact hfailed.control⟩
  | failed r c h =>
    refine ⟨fun hseen => absurd h.observation hseen,
      fun r' c' hc' hneg => ⟨⟨n, by omega, ?_⟩, trace_observation_of_ended h.control⟩⟩
    obtain rfl := h.lacks.only r' c' hc' hneg
    obtain rfl := Option.some.inj (h.lacks.live.symm.trans hc')
    exact h.control

/-- A client that gives the last reference to an object back, whose destructor is its own. -/
def releaseLast : Procedure Unit Unit Answer :=
  .ask (.foreign (.register 10)) fun _ =>
  .ask (.foreign (.setDestructor 10 (some (.host ())))) fun _ =>
  .ask (.foreign (.newObject 10 0)) fun _ =>
  .ask (.foreign (.release (some (.object 0)))) fun _ =>
  .done (.ok none)

/-- The destructor gives the reference back once more. -/
def releaseAgainHost : Host Unit Unit (Procedure.Waiting Unit Unit) :=
  Procedure.toHost fun run =>
    .ask (.foreign (.release (some run.receiver))) fun _ => .done (.ok none)

theorem no_negative_count_seen_releaseLast :
    World.Fresh ({} : World Unit) ∧
      (∀ k ≤ 16, ((start {} () (releaseLast.toMove ()).2).run releaseAgainHost k).asksForeign =
        true) ∧
      ((start {} () (releaseLast.toMove ()).2).run releaseAgainHost 14).world.heap.NonNegative ∧
      ∃ j ≤ 18, ((start {} () (releaseLast.toMove ()).2).run releaseAgainHost j).control =
        .ended (.aborted "Negative reference count! (kind 10, count -1)") := by
  have hw : World.Fresh ({} : World Unit) := ⟨rfl, rfl, rfl, rfl⟩
  have hasks : ∀ k ≤ 16,
      ((start {} () (releaseLast.toMove ()).2).run releaseAgainHost k).asksForeign = true := by
    decide
  have hentered := (no_negative_count_seen releaseAgainHost hw () (releaseLast.toMove ()).2 13
    fun k hk => hasks k (by omega)).1
  obtain ⟨⟨j, hj, hended⟩, -⟩ := (no_negative_count_seen releaseAgainHost hw ()
    (releaseLast.toMove ()).2 16 hasks).2 (.object 0) ⟨10, .payload #[], -1, false⟩ rfl (by decide)
  have hmessage : (Failure.countUnderflow 10 (-1)).message =
    "Negative reference count! (kind 10, count -1)" := by decide
  exact ⟨hw, hasks, hentered (by intro h; cases h), j, hj, hmessage ▸ hended⟩

end Moment

end ObjectRuntime
