import ObjectRuntime.Procedure
import ObjectRuntime.Proofs.Congruence.Process
import ObjectRuntime.Proofs.Resolution.Chain
/-!
# Larger caps

A cap is seen only where it is exceeded, or where somebody asks for it.  A run in which neither
happens is the same run under larger caps, and without caps: `CapsLe` is a congruence for all
requests but applications, which `World.CapsLe.apply` looks at.
-/

namespace ObjectRuntime

variable {κ σ φ : Type}

/-- A cap that allows no more hops than another. -/
def DepthCap.Le (cap cap' : DepthCap) : Prop := ∀ n', cap' = some n' → ∃ n ≤ n', cap = some n

theorem DepthCap.Le.refl (cap : DepthCap) : cap.Le cap := fun n hn => ⟨n, UInt64.le_refl n, hn⟩

namespace World

/-- Two worlds that differ in their caps, in what was reported and in what storage holds when it is
served only; the caps of the second are at least as large. -/
structure CapsLe (w v : World κ) : Prop where
  heap : v.heap = w.heap
  allocator : v.allocator = w.allocator
  handles : v.handles = w.handles
  shared : v.shared = w.shared
  filter : v.filter = w.filter
  log : v.settings.log = w.settings.log
  setting : w.settings.maxCallDepth.Le v.settings.maxCallDepth
  logging : v.journal.isInitialized = w.journal.isInitialized
  size : v.runtimes.size = w.runtimes.size
  runtimes : ∀ (i : RuntimeId) (rt rt' : Runtime κ), w.runtimes[i]? = some rt →
    v.runtimes[i]? = some rt' → rt'.registry = rt.registry ∧ rt.cap.Le rt'.cap

namespace CapsLe

variable {w v : World κ} (h : w.CapsLe v)
include h

theorem emit (e e' : Event κ) : (w.emit e).CapsLe (v.emit e') := by
  refine { h with logging := ?_ }
  simp only [World.emit, Journal.isInitialized_emit, h.logging]

theorem setRegistry (i : RuntimeId) (g : Registry κ) :
    (w.setRegistry i g).CapsLe (v.setRegistry i g) := by
  refine { h with size := by simp [World.setRegistry, h.size], runtimes := ?_ }
  intro j rt rt' hrt hrt'
  simp only [World.setRegistry, Array.getElem?_modify] at hrt hrt'
  split at hrt
  next hij =>
    rw [if_pos hij] at hrt'
    obtain ⟨old, hold, rfl⟩ := Option.map_eq_some_iff.1 hrt
    obtain ⟨old', hold', rfl⟩ := Option.map_eq_some_iff.1 hrt'
    exact ⟨rfl, (h.runtimes j old old' hold hold').2⟩
  next hij =>
    rw [if_neg hij] at hrt'
    exact h.runtimes j rt rt' hrt hrt'

theorem setAllocator (a : Allocator) :
    ({ w with allocator := a } : World κ).CapsLe { v with allocator := a } :=
  { h with allocator := rfl }

theorem setHeap (g : Heap κ) : ({ w with heap := g } : World κ).CapsLe { v with heap := g } :=
  { h with heap := rfl }

theorem allocate (size : UInt64) (a : Address) :
    Agree CapsLe (w.allocate size a) (v.allocate size a) := by
  unfold World.allocate
  rw [h.allocator]
  split
  · exact ⟨(h.setAllocator _).emit _ _, rfl⟩
  · exact ⟨h.setAllocator _, rfl⟩

theorem push {cap cap' : DepthCap} (hcap : cap.Le cap') (g : Registry κ) :
    ({ w with runtimes := w.runtimes.push { registry := g, cap } } : World κ).CapsLe
      { v with runtimes := v.runtimes.push { registry := g, cap := cap' } } := by
  refine { h with size := by simp [h.size], runtimes := ?_ }
  intro i rt rt' hrt hrt'
  simp only [Array.getElem?_push, h.size] at hrt hrt'
  split at hrt
  next hi =>
    rw [if_pos hi] at hrt'
    cases hrt
    cases hrt'
    exact ⟨rfl, hcap⟩
  next hi =>
    rw [if_neg hi] at hrt'
    exact h.runtimes i rt rt' hrt hrt'

theorem startRuntime {cap cap' : DepthCap} (hcap : cap.Le cap') :
    Agree CapsLe (w.startRuntime cap) (v.startRuntime cap') := by
  have hkinds := (h.emit (.kindRegistered nilKind) (.kindRegistered nilKind)).emit
    (.kindRegistered functionKind) (.kindRegistered functionKind)
  simp only [World.startRuntime, hkinds.heap]
  obtain ⟨w', v', served, hw, hv, h'⟩ :=
    (hkinds.allocate (UInt64.ofNat headerSize) (.object w.heap.nextNil)).cases
  simp only [heap_emit] at hw hv ⊢
  rw [hw, hv]
  cases served with
  | true =>
    simp only [h'.heap]
    exact ⟨(((h'.setHeap _).emit _ _).emit _ _).push hcap .builtin, congrArg Except.ok h'.size⟩
  | false => exact ⟨h', rfl⟩

theorem sharedRuntime : Agree CapsLe w.sharedRuntime v.sharedRuntime := by
  simp only [World.sharedRuntime, h.shared]
  cases w.shared with
  | some i => exact ⟨h, rfl⟩
  | none =>
    obtain ⟨w', v', started, hw, hv, h'⟩ := (h.startRuntime h.setting).cases
    simp only [hw, hv]
    cases started with
    | ok i => exact ⟨{ h' with shared := rfl }, rfl⟩
    | error e => exact ⟨h', rfl⟩

theorem startLogging (settings : LogSettings) :
    (w.startLogging settings).CapsLe (v.startLogging settings) := by
  refine { h with logging := ?_ }
  simp only [World.startLogging, Journal.isInitialized_start]

theorem stopLogging : w.stopLogging.CapsLe v.stopLogging := by
  refine { h with logging := ?_ }
  simp only [World.stopLogging, Journal.isInitialized_closeFile, h.logging]

end CapsLe

theorem CapsLe.congruence : ProcessCongruence (CapsLe (κ := κ)) where
  heap h := h.heap
  emit h e := h.emit e e
  setHeap h g := h.setHeap g
  setRegistry h i g := h.setRegistry i g
  allocate h size a := h.allocate size a
  reclaim h := { h with allocator := congrArg (·.release) h.allocator }
  allocator h := h.allocator
  setAllocator h a := h.setAllocator a
  handles h := h.handles
  setHandles h _ := { h with handles := rfl }
  registry {w v} h i := by
    cases hw : w.runtimes[i]? with
    | none =>
      have hv : v.runtimes[i]? = none := by
        rw [Array.getElem?_eq_none_iff] at hw ⊢
        rwa [h.size]
      rw [hv]
    | some rt =>
      obtain ⟨hi, -⟩ := Array.getElem?_eq_some_iff.1 hw
      have hv := Array.getElem?_eq_getElem (h.size ▸ hi)
      rw [hv]
      exact congrArg some (h.runtimes i _ _ hw hv).1
  startRuntime h cap := h.startRuntime (.refl cap)
  sharedRuntime h := h.sharedRuntime
  startLogging {w v} h := by
    rw [h.log]
    exact h.startLogging _
  startLoggingWith h settings := h.startLogging settings
  stopLogging h := h.stopLogging
  logging h := h.logging

theorem CapsLe.refl (w : World κ) : w.CapsLe w where
  heap := rfl
  allocator := rfl
  handles := rfl
  shared := rfl
  filter := rfl
  log := rfl
  setting := .refl _
  logging := rfl
  size := rfl
  runtimes i rt rt' hrt hrt' := by
    cases hrt.symm.trans hrt'
    exact ⟨rfl, .refl _⟩

end World

/-! ## Applications -/

theorem Runtime.hopBudget_le {rt rt' : Runtime κ} (hg : rt'.registry = rt.registry)
    (hcap : rt.cap.Le rt'.cap) :
    rt.hopBudget ≤ rt'.hopBudget ∨ rt.registry.size ≤ rt'.hopBudget := by
  cases hn' : rt'.cap with
  | none => exact .inr (by simp only [hopBudget, hn', hg, Nat.le_refl])
  | some n' =>
    obtain ⟨n, hle, hn⟩ := hcap n' hn'
    exact .inl (by simpa only [hopBudget, hn, hn'] using UInt64.le_iff_toNat_le.1 hle)

theorem World.CapsLe.apply {w v : World κ} (h : w.CapsLe v) (i : RuntimeId) {rt rt' : Runtime κ}
    (hg : rt'.registry = rt.registry) (hcap : rt.cap.Le rt'.cap) (callee : Pointer)
    (args : List Pointer)
    (hnot : ∀ d, (w.apply i rt callee args).2 ≠ .done (.error (.callDepthExceeded d))) :
    Agree CapsLe (w.apply i rt callee args) (v.apply i rt' callee args) := by
  -- Where the hops run out there was no cap, so there is none now.
  have hsame : ∀ r, callee = some r →
      resolve w.heap rt.registry rt.hopBudget r 0 = .exhausted → rt' = rt := by
    rintro r rfl hex
    have hnone : rt.cap = none := by
      cases hn : rt.cap with
      | none => rfl
      | some n =>
        refine absurd ?_ (hnot n)
        simp only [World.apply, hex, Runtime.exhausted, hn]
    have hnone' : rt'.cap = none := by
      cases hn' : rt'.cap with
      | none => rfl
      | some n' =>
        obtain ⟨n, -, hn⟩ := hcap n' hn'
        rw [hnone] at hn
        cases hn
    obtain ⟨g, cap⟩ := rt
    obtain ⟨g', cap'⟩ := rt'
    cases hg
    cases hnone
    cases hnone'
    rfl
  refine CapsLe.congruence.apply h i callee args (fun r hr => ?_) fun r hr hex => ?_
  · by_cases hex : resolve w.heap rt.registry rt.hopBudget r 0 = .exhausted
    · rw [hsame r hr hex]
    · rw [hg]
      exact resolve_congr hex (Runtime.hopBudget_le hg hcap)
  · rw [hsame r hr hex]

/-! ## Runs -/

namespace Moment

/-- Whether a cap is asked for at this moment. -/
def readsCap (m : Moment κ σ φ) : Bool :=
  match m.control with
  | .perform (.query _ .cap) => true
  | _ => false

/-- Whether an application exceeds the cap at this moment. -/
def exceedsCap (m : Moment κ σ φ) : Bool :=
  match m.control with
  | .perform (.on i (.apply callee args)) =>
    match (m.world.perform (.on i (.apply callee args))).2 with
    | .done (.error (.callDepthExceeded _)) => true
    | _ => false
  | _ => false

theorem ne_of_not_exceedsCap {m : Moment κ σ φ} (h : m.exceedsCap = false) {i : RuntimeId}
    {rt : Runtime κ} {callee : Pointer} {args : List Pointer} (hrt : m.world.runtimes[i]? = some rt)
    (hcontrol : m.control = .perform (.on i (.apply callee args))) (d : UInt64) :
    (m.world.apply i rt callee args).2 ≠ .done (.error (.callDepthExceeded d)) := by
  intro heq
  have hperform : (m.world.perform (.on i (.apply callee args))).2 =
      .done (.error (.callDepthExceeded d)) := by
    simp only [World.perform, hrt]
    exact heq
  simp [exceedsCap, hcontrol, hperform] at h

/-- **A cap that is not exceeded makes no difference.**  As long as a run neither exceeds a cap, in
any application at any depth, nor asks for one, the same run under larger caps, or without caps, is
the same: the same replies, the same host code entered with the same receivers and arguments, and
at every moment the same objects, blocks, counters and handles. -/
theorem run_under_larger_caps (host : Host κ σ φ) (w v : World κ) (h : w.CapsLe v) (s : σ)
    (first : Move κ φ) (n : Nat)
    (hreads : ∀ k < n, ((start w s first).run host k).readsCap = false)
    (hexceeds : ∀ k < n, ((start w s first).run host k).exceedsCap = false) :
    (start v s first).trace host observation n = (start w s first).trace host observation n ∧
      ((start v s first).run host n).control = ((start w s first).run host n).control ∧
      ((start v s first).run host n).state = ((start w s first).run host n).state ∧
      ((start v s first).run host n).stack = ((start w s first).run host n).stack ∧
      ((start v s first).run host n).world.heap = ((start w s first).run host n).world.heap ∧
      ((start v s first).run host n).world.allocator =
        ((start w s first).run host n).world.allocator ∧
      ((start v s first).run host n).world.handles =
        ((start w s first).run host n).world.handles := by
  have hstart : Alike World.CapsLe (start w s first) (start v s first) :=
    (Alike.of_worlds h s [] _).move none first
  obtain ⟨halike, htrace⟩ := Alike.run World.CapsLe.congruence host hstart n fun
    k hk v' request hworld hcontrol => by
      refine World.CapsLe.congruence.perform hworld request ?_ ?_
      · rintro i rt rt' callee args rfl hrt hrt' hg
        exact hworld.apply i hg (hworld.runtimes i rt rt' hrt hrt').2 callee args
          (ne_of_not_exceedsCap (hexceeds k hk) hrt hcontrol)
      · rintro i rt rt' rfl - -
        have hread := hreads k hk
        simp [readsCap, hcontrol] at hread
  exact ⟨htrace, halike.control, halike.state, halike.stack, halike.world.heap,
    halike.world.allocator, halike.world.handles⟩

/-- A client that applies an object whose kind has a call member. -/
def applyOnce : Procedure Unit Unit Answer :=
  .ask (.on 0 (.register 10)) fun _ =>
  .ask (.on 0 (.newObject 10 0)) fun _ =>
  .ask (.service (.createFunction ())) fun _ =>
  .ask (.on 0 (.setMember 10 callMember (some (.object 1)))) fun _ =>
  .ask (.on 0 (.apply (some (.object 0)) [])) fun _ =>
  .done (.ok none)

theorem run_under_larger_caps_once :
    let host : Host Unit Unit _ := Procedure.toHost fun _ => .done (.ok none)
    let m := start (({} : World Unit).startRuntime (some 1)).1 () (applyOnce.toMove ()).2
    (({} : World Unit).startRuntime (some 1)).1.CapsLe (World.startRuntime {} none).1 ∧
      (∀ k < 10, (m.run host k).readsCap = false) ∧
      (∀ k < 10, (m.run host k).exceedsCap = false) ∧
      (start (World.startRuntime {} none).1 () (applyOnce.toMove ()).2).trace host observation 10 =
        m.trace host observation 10 := by
  intro host m
  have hle : DepthCap.Le (some 1) none := fun _ h => by cases h
  have hcaps := ((World.CapsLe.refl ({} : World Unit)).startRuntime hle).1
  have hreads : ∀ k < 10, (m.run host k).readsCap = false := by decide
  have hexceeds : ∀ k < 10, (m.run host k).exceedsCap = false := by decide
  exact ⟨hcaps, hreads, hexceeds,
    (run_under_larger_caps host _ _ hcaps () (applyOnce.toMove ()).2 10 hreads hexceeds).1⟩

end Moment

end ObjectRuntime
