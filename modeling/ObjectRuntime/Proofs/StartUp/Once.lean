import Mathlib.Data.List.Nodup
import ObjectRuntime.Proofs.ForeignClient
import ObjectRuntime.Proofs.History
import ObjectRuntime.Proofs.Ledger.Record
import ObjectRuntime.Proofs.Undisturbed
/-!
# The shared runtime starts once

Clients of the C interface have one runtime, which the first call that needs it starts
(`justStarted_or_aborted`).  No other call starts one, and nothing that clients do later changes
which runtimes there are.
-/

namespace ObjectRuntime

variable {κ σ φ : Type}

namespace World

/-- The shared runtime is the only one, with the cap that the settings say, or there is none yet;
and there is one nil for it. -/
structure Lone (w : World κ) : Prop where
  unstarted : w.shared = none → w.runtimes = #[]
  started : ∀ i, w.shared = some i →
    i = 0 ∧ w.runtimes.map (·.cap) = #[w.settings.maxCallDepth]
  nils : w.heap.nils.size = w.runtimes.size

/-- The shared runtime was just started in `v`: it is the only runtime, has the built-in kinds, the
cap that the settings of `w` say, and the only nil. -/
structure JustStarted (w v : World κ) : Prop where
  shared : v.shared = some 0
  runtimes : v.runtimes = #[{ registry := .builtin, cap := w.settings.maxCallDepth }]
  nils : v.heap.nils = #[{ kind := nilKind, body := .nothing }]
  settings : v.settings = w.settings

variable {w v : World κ}

theorem Fresh.lone (hw : w.Fresh) : w.Lone where
  unstarted _ := hw.runtimes
  started i hi := by cases hw.shared.symm.trans hi
  nils := by
    rw [hw.heap, hw.runtimes]
    rfl

theorem Lone.of_undisturbed (h : w.Lone) (hsame : w.Undisturbed v)
    (hnils : v.heap.nils.size = v.runtimes.size) : v.Lone where
  unstarted hs := by
    have hsize := hsame.size_runtimes
    rw [h.unstarted (hsame.shared ▸ hs)] at hsize
    exact Array.eq_empty_of_size_eq_zero hsize
  started i hi := by
    rw [hsame.caps, hsame.settings]
    exact h.started i (hsame.shared ▸ hi)
  nils := hnils

theorem JustStarted.lone (h : w.JustStarted v) : v.Lone where
  unstarted hs := by cases h.shared.symm.trans hs
  started i hi := by
    cases h.shared.symm.trans hi
    rw [h.runtimes, h.settings]
    exact ⟨rfl, by simp⟩
  nils := by
    rw [h.nils, h.runtimes]
    rfl

/-- Where there is no runtime yet, the shared one becomes the only one, or storage for its nil is
refused. -/
theorem Lone.sharedRuntime_cases (h : w.Lone) (hs : w.shared = none) :
    w.JustStarted w.sharedRuntime.1 ∨
      ∃ e, w.sharedRuntime.2 = .error e ∧ w.Undisturbed w.sharedRuntime.1 := by
  have hruntimes := h.unstarted hs
  have hnils : w.heap.nils = #[] := by
    have hsize := h.nils
    rw [hruntimes] at hsize
    exact Array.eq_empty_of_size_eq_zero hsize
  obtain ⟨journal, hw⟩ := sharedRuntime_of_none hs
  rw [hw]
  split
  · refine .inl ⟨?_, ?_, ?_, rfl⟩
    · change some w.runtimes.size = some 0
      rw [hruntimes]
      rfl
    · change w.runtimes.push _ = _
      rw [hruntimes]
      rfl
    · change w.heap.nils.push _ = _
      rw [hnils]
      rfl
  · exact .inr ⟨_, rfl, rfl, rfl, rfl, rfl⟩

end World

namespace Moment

open World

/-- Whether a call is performed that needs the shared runtime. -/
def needsRuntime (m : Moment κ σ φ) : Bool :=
  match m.control with
  | .perform (.foreign call) => call.needsRuntime
  | _ => false

/-- Whether the process was aborted. -/
def isAborted (m : Moment κ σ φ) : Prop := ∃ message, m.control = .ended (.aborted message)

variable {host : Host κ σ φ} {m : Moment κ σ φ}

theorem Sheltered.starts_eq (h : m.Sheltered) {request : Request κ}
    (hcontrol : m.control = .perform request) :
    request.starts m.world = (m.needsRuntime && m.world.shared.isNone) ∧
      ∀ op, request ≠ .handle op := by
  rcases h.request_cases hcontrol with hforeign | ⟨i, op, rfl⟩ | ⟨code, rfl⟩
  · cases request with
    | foreign call =>
      refine ⟨?_, by simp⟩
      rw [needsRuntime, hcontrol]
      rfl
    | service service =>
      refine ⟨?_, by simp⟩
      rw [needsRuntime, hcontrol]
      cases service <;> first | rfl | cases hforeign
    | on | query | handle => cases hforeign
  · exact ⟨by rw [needsRuntime, hcontrol]; rfl, by simp⟩
  · exact ⟨by rw [needsRuntime, hcontrol]; rfl, by simp⟩

theorem Sheltered.journalAside_step (host : Host κ σ φ) (h : m.Sheltered)
    (hperform : ∀ request, m.control ≠ .perform request) :
    m.world.JournalAside (m.step host).world := by
  obtain ⟨w, s, stack, control⟩ := m
  cases control with
  | ended ending => exact .refl w
  | perform request => exact absurd rfl (hperform request)
  | reply reply =>
    have hguarded : Guarded stack := h.guarded
    rw [world_step]
    cases hguarded with
    | nil | host | releaseMethod => exact .refl w
    | orFatal | keep => cases reply <;> exact ⟨_, rfl⟩

theorem Sheltered.undisturbed_step (host : Host κ σ φ) (h : m.Sheltered)
    (hidle : m.needsRuntime = false ∨ m.world.shared ≠ none) :
    m.world.Undisturbed (m.step host).world := by
  by_cases hperform : ∃ request, m.control = .perform request
  · obtain ⟨request, hcontrol⟩ := hperform
    obtain ⟨hstarts, hhandle⟩ := h.starts_eq hcontrol
    have hnone : request.starts m.world = false := by
      rw [hstarts]
      rcases hidle with hneeds | hshared
      · rw [hneeds, Bool.false_and]
      · have hsome : m.world.shared.isNone = false :=
          Option.isNone_eq_false_iff.2 (Option.isSome_iff_ne_none.2 hshared)
        rw [hsome, Bool.and_false]
    rw [world_step_perform host hcontrol]
    exact Undisturbed.perform m.world hhandle hnone
  · exact .of_journalAside (h.journalAside_step host fun request hc => hperform ⟨request, hc⟩)

/-- The first call that needs the shared runtime starts it, or the process is aborted. -/
theorem justStarted_or_aborted (host : Host κ σ φ) (hlone : m.world.Lone)
    (hneeds : m.needsRuntime = true) (hs : m.world.shared = none) :
    m.world.JustStarted (m.step host).world ∨
      m.world.Undisturbed (m.step host).world ∧ (m.step host).isAborted := by
  obtain ⟨call, hcontrol, hcall⟩ : ∃ call, m.control = .perform (.foreign call) ∧
      call.needsRuntime = true := by
    unfold needsRuntime at hneeds
    split at hneeds
    next call hcontrol => exact ⟨call, hcontrol, hneeds⟩
    · cases hneeds
  have hworld := world_step_perform host hcontrol
  have haside := m.world.journalAside_call call
  rw [if_pos hcall] at haside
  rw [hworld]
  rcases hlone.sharedRuntime_cases hs with hstarted | ⟨e, he, hsame⟩
  · left
    obtain ⟨journal, hw⟩ := haside
    change m.world.JustStarted (m.world.call call).1
    rw [hw]
    exact ⟨hstarted.shared, hstarted.runtimes, hstarted.nils, hstarted.settings⟩
  · refine .inr ⟨hsame.trans (.of_journalAside haside), e.message, ?_⟩
    have hturn : (m.world.perform (.foreign call)).2 = .halt (.aborted e.message) :=
      call_refused he hcall
    rw [step_perform host hcontrol, hturn]
    rfl

theorem Sheltered.starts_or_undisturbed (host : Host κ σ φ) (h : m.Sheltered)
    (hlone : m.world.Lone) :
    m.needsRuntime = true ∧ m.world.JustStarted (m.step host).world ∨
      m.world.Undisturbed (m.step host).world ∧
        (m.needsRuntime = true → m.world.shared ≠ none ∨ (m.step host).isAborted) := by
  by_cases hidle : m.needsRuntime = false ∨ m.world.shared ≠ none
  · refine .inr ⟨h.undisturbed_step host hidle, fun hneeds => .inl ?_⟩
    exact hidle.resolve_left (by rw [hneeds]; simp)
  · obtain ⟨hneeds, hs⟩ := not_or.1 hidle
    have hneeds : m.needsRuntime = true := by simpa using hneeds
    rcases justStarted_or_aborted host hlone hneeds (Decidable.not_not.1 hs) with
      hstarted | ⟨hsame, haborted⟩
    · exact .inl ⟨hneeds, hstarted⟩
    · exact .inr ⟨hsame, fun _ => .inr haborted⟩

theorem Sheltered.undisturbed_of_none (host : Host κ σ φ) (h : m.Sheltered) (hlone : m.world.Lone)
    (hs : (m.step host).world.shared = none) : m.world.Undisturbed (m.step host).world := by
  rcases h.starts_or_undisturbed host hlone with ⟨-, hstarted⟩ | ⟨hsame, -⟩
  · cases hs.symm.trans hstarted.shared
  · exact hsame

theorem Sheltered.lone_step (h : m.Sheltered) (hlone : m.world.Lone) :
    (m.step host).world.Lone := by
  have hnils : (m.step host).world.heap.nils.size = (m.step host).world.runtimes.size := by
    by_cases hperform : ∃ request, m.control = .perform request
    · obtain ⟨request, hcontrol⟩ := hperform
      rw [world_step_perform host hcontrol]
      exact (m.world.perform_outcome request).size_nils hlone.nils
    · obtain ⟨hheap, hruntimes⟩ := step_frame host fun request hc => hperform ⟨request, hc⟩
      rw [hheap, hruntimes]
      exact hlone.nils
  rcases h.starts_or_undisturbed host hlone with ⟨-, hstarted⟩ | ⟨hsame, -⟩
  · exact hstarted.lone
  · exact hlone.of_undisturbed hsame hnils

/-- What so many steps of clients have done about the shared runtime. -/
structure StartsOnce (host : Host κ σ φ) (m : Moment κ σ φ) (n : Nat) : Prop where
  /-- There is at most one runtime, one nil and one cap, which is that of the settings. -/
  lone : (m.run host n).world.Lone
  settings : (m.run host n).world.settings = m.world.settings
  /-- Without a call that needs it, it is not started. -/
  needed : (m.run host n).world.shared ≠ none → ∃ k < n, (m.run host k).needsRuntime = true
  /-- The first such call starts it. -/
  first : ∀ k < n, (∀ j < k, (m.run host j).needsRuntime = false) →
    (m.run host k).needsRuntime = true →
      (m.run host k).world.JustStarted (m.run host (k + 1)).world ∨ (m.run host (k + 1)).isAborted
  /-- No other step has to do with which runtimes there are. -/
  idle : ∀ k < n, (m.run host k).needsRuntime = false ∨
      (∃ j < k, (m.run host j).needsRuntime = true) →
    (m.run host k).world.Undisturbed (m.run host (k + 1)).world
  /-- The built-in kinds are registered once. -/
  kinds : (m.run host n).world.shared = some 0 → (m.run host n).control ≠ .ended .fault →
    (m.history host 0 n).kinds.count nilKind = 1 ∧
      (m.history host 0 n).kinds.count functionKind = 1

/-- Where the run stands with the shared runtime after so many steps. -/
structure Stands (host : Host κ σ φ) (m : Moment κ σ φ) (n : Nat) : Prop where
  lone : (m.run host n).world.Lone
  settings : (m.run host n).world.settings = m.world.settings
  needed : (m.run host n).world.shared ≠ none → ∃ k < n, (m.run host k).needsRuntime = true
  there : (∃ k < n, (m.run host k).needsRuntime = true) →
    (m.run host n).world.shared ≠ none ∨ (m.run host n).isAborted

theorem Stands.succ {n : Nat} (h : m.Stands host n) (hsheltered : (m.run host n).Sheltered) :
    m.Stands host (n + 1) := by
  have hlone : (m.run host (n + 1)).world.Lone := by
    rw [run_succ]
    exact hsheltered.lone_step h.lone
  have hstep := hsheltered.starts_or_undisturbed host h.lone
  rw [← run_succ] at hstep
  rcases hstep with ⟨hneeds, hstarted⟩ | ⟨hsame, hidle⟩
  · refine ⟨hlone, hstarted.settings.trans h.settings, fun _ => ⟨n, Nat.lt_succ_self n, hneeds⟩,
      fun _ => .inl ?_⟩
    rw [hstarted.shared]
    simp
  · refine ⟨hlone, hsame.settings.trans h.settings, fun hs => ?_, fun ⟨k, hk, hneeds⟩ => ?_⟩
    · obtain ⟨k, hk, hneeds⟩ := h.needed (hsame.shared ▸ hs)
      exact ⟨k, by omega, hneeds⟩
    · rw [hsame.shared]
      rcases Nat.lt_succ_iff_lt_or_eq.1 hk with hk | rfl
      · refine (h.there ⟨k, hk, hneeds⟩).imp id ?_
        rintro ⟨message, hended⟩
        exact ⟨message, run_of_ended hended (Nat.le_succ n)⟩
      · exact hidle hneeds

variable {w : World κ} {s : σ} {first : Move κ φ} {n : Nat}

theorem stands_run (host : Host κ σ φ) (hw : w.Fresh)
    (hasks : ∀ k ≤ n, ((start w s first).run host k).asksForeign = true) :
    (start w s first).Stands host n := by
  induction n with
  | zero =>
    have hlone : ((start w s first).run host 0).world.Lone := by
      rw [run_zero, world_start]
      exact hw.lone
    refine ⟨hlone, rfl, fun hs => absurd ?_ hs, fun ⟨_, hk, _⟩ => absurd hk (Nat.not_lt_zero _)⟩
    rw [run_zero, world_start]
    exact hw.shared
  | succ n ih =>
    have hbefore := fun k (hk : k ≤ n) => hasks k (Nat.le_succ_of_le hk)
    exact (ih hbefore).succ (.run hbefore)

/-- **The shared runtime starts once**, at the first call that needs it. -/
theorem startsOnce (hw : w.Fresh)
    (hasks : ∀ k ≤ n, ((start w s first).run host k).asksForeign = true) :
    (start w s first).StartsOnce host n := by
  have hstands := fun k (hk : k ≤ n) =>
    stands_run host hw fun j (hj : j ≤ k) => hasks j (Nat.le_trans hj hk)
  have hsheltered := fun k (hk : k ≤ n) =>
    Sheltered.run fun j (hj : j ≤ k) => hasks j (Nat.le_trans hj hk)
  have hnow := hstands n (Nat.le_refl n)
  refine ⟨hnow.lone, hnow.settings, hnow.needed, fun k hk hfirst hneeds => ?_,
    fun k hk hidle => ?_, fun hs hfault => ?_⟩
  · have hs : ((start w s first).run host k).world.shared = none := by
      by_contra hs
      obtain ⟨j, hj, hneeds'⟩ := (hstands k (by omega)).needed hs
      rw [hfirst j hj] at hneeds'
      cases hneeds'
    rw [run_succ]
    exact (justStarted_or_aborted host (hstands k (by omega)).lone hneeds hs).imp id And.right
  · rw [run_succ]
    have hidle' : ((start w s first).run host k).needsRuntime = false ∨
        ((start w s first).run host k).world.shared ≠ none ∨
        ((start w s first).run host k).isAborted :=
      hidle.imp id (hstands k (by omega)).there
    rcases hidle' with hneeds | hs | ⟨message, hended⟩
    · exact (hsheltered k (by omega)).undisturbed_step host (.inl hneeds)
    · exact (hsheltered k (by omega)).undisturbed_step host (.inr hs)
    · rw [step_of_isFinal host (by rw [isFinal, hended])]
      exact .refl _
  · obtain ⟨-, hcaps⟩ := hnow.lone.started 0 hs
    have hsize : ((start w s first).run host n).world.runtimes.size = 1 := by
      simpa using congrArg Array.size hcaps
    have hrecords := records_history hw hfault (Array.getElem?_eq_getElem (by omega : 0 < _))
    have hnil : nilKind ∈ ((start w s first).history host 0 n).kinds := by
      simp [history, History.kinds, History.builtin, Change.registered?]
    have hfunction : functionKind ∈ ((start w s first).history host 0 n).kinds := by
      simp [history, History.kinds, History.builtin, Change.registered?]
    exact ⟨List.count_eq_one_of_mem hrecords.nodup hnil,
      List.count_eq_one_of_mem hrecords.nodup hfunction⟩

end Moment

end ObjectRuntime
