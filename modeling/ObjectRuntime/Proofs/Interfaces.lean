import ObjectRuntime.Procedure
import ObjectRuntime.Proofs.Interfaces.Simulation
/-!
# The C interface against a runtime of one's own

A script can be run through the C interface or on one runtime, and it makes no difference until a
call fails.  That takes a pair that does not remember what it was asked, since the nil is asked for
at another time in each run: `servesOnce` does remember.
-/

namespace ObjectRuntime

variable {κ σ φ : Type}

namespace Procedure

/-- A procedure that makes only calls that a runtime has as operations. -/
def IsScript {α : Type} : Procedure κ σ α → Prop
  | done _ => True
  | ask (.foreign call) next => (call.direct? 0).isSome = true ∧ ∀ reply, (next reply).IsScript
  | ask _ _ => False
  | get next => ∀ s, (next s).IsScript
  | set _ next => next.IsScript

theorem isScript_toMove {p : Procedure κ σ Answer} (hp : p.IsScript) (s : σ) :
    (p.toMove s).2.IsScript fun next => ∀ reply, (next reply).IsScript := by
  induction p generalizing s with
  | done answer => trivial
  | ask request next ih =>
    cases request with
    | foreign call => exact hp
    | _ => exact hp.elim
  | get next ih => exact ih s (hp s) s
  | set s' next ih => exact ih hp s'

theorem isScript_toHost {code : Invocation κ → Procedure κ σ Answer}
    (h : ∀ run, (code run).IsScript) :
    (toHost code).IsScript fun next => ∀ reply, (next reply).IsScript :=
  ⟨fun run s => isScript_toMove (h run) s, fun _ reply s hnext => isScript_toMove (hnext reply) s⟩

end Procedure

namespace Moment

/-- **The C interface refines a runtime of one's own.**  A script that only makes calls that both
have, with names and arguments that can be read, is run through the C interface of a fresh process,
and on a runtime that is started first thing with the same cap, which the allocator has storage
for.  As long as no call fails the two runs go together: the same code is entered with the same
receivers and arguments, calls give back the same, and all counts agree, except that the nil is not
there before a call needs it.  When a call fails on the runtime, then the process aborts with the
failure as its diagnostic, and nothing is run any more.  The nil is asked for at another time in
each run, so that the pair behind the allocator must not remember what it was asked before. -/
theorem c_interface_refines (host : Host κ σ φ) (w : World κ) (hw : w.Fresh)
    (hpair : w.allocator.installed.Memoryless) (s : σ) (first : Move κ φ)
    (Fit : φ → Prop) (hhost : host.IsScript Fit) (hfirst : first.IsScript Fit)
    (hstart : (w.startRuntime w.settings.maxCallDepth).2 = .ok 0) (n : Nat)
    (hok : ∀ k < n, ((start (w.startRuntime w.settings.maxCallDepth).1 s (first.direct 0)).run
      (host.direct 0) k).failure? = none) :
    ∃ m j m', (start (w.startRuntime w.settings.maxCallDepth).1 s (first.direct 0)).run
          (host.direct 0) n = m ∧
      (start w s first).run host j = m' ∧ n ≤ j ∧
      (start w s first).trace host observation j =
        (start (w.startRuntime w.settings.maxCallDepth).1 s (first.direct 0)).trace
          (host.direct 0) observation n ∧
      m'.state = m.state ∧
      (∀ r, m'.world.heap.cell? r = m.world.heap.cell? r ∨
        (r = .nil 0 ∧ m'.world.shared = none)) ∧
      (m.isFinal = true → m'.isFinal = true ∧ m'.control = m.control) ∧
      ∀ e, m.failure? = some e → ∀ l, ∃ ending,
        ((start w s first).run host (j + 1 + l)).control = .ended ending ∧
        ending.diagnostic = some ("Panic: " ++ e.message) ∧
        (start w s first).trace host observation (j + 1 + l) =
          (start w s first).trace host observation j := by
  -- Before the first call the runtime behind the C interface is yet to be started.
  have haligned : Aligned Fit (w.startRuntime w.settings.maxCallDepth).1 w ([] : List (Frame κ φ))
      (.reply (.ok .unit)) :=
    ⟨.inr ⟨hw.unborn hpair hstart, fun _ => List.not_mem_nil⟩, by simp, by simp,
      fun _ hc => by cases hc⟩
  have hcatch : CatchesUp Fit host
      (start (w.startRuntime w.settings.maxCallDepth).1 s (first.direct 0)) (start w s first) [] :=
    .move haligned none hfirst _ _
  obtain ⟨j, hj, hsim, hseen⟩ := Sim.run hhost hcatch hok
  refine ⟨_, j, _, rfl, rfl, hj, hseen, hsim.state, hsim.cell?, hsim.final, fun e he l => ?_⟩
  obtain ⟨hended, hnone⟩ := hsim.abort he
  rw [← run_succ] at hended
  refine ⟨_, run_of_ended hended (Nat.le_add_right _ l), rfl, ?_⟩
  rw [trace_add, trace_succ, hnone, trace_observation_of_ended hended, List.append_nil,
    List.append_nil]

/-- A script that wraps code before it needs a runtime, registers a kind, and runs the code. -/
def registerTwice : Procedure Unit Unit Answer :=
  .ask (.foreign (.createFunction (some ()))) fun _ =>
  .ask (.foreign (.register 10)) fun _ =>
  .ask (.foreign (.apply (some (.object 0)) ⟨0, none⟩)) fun _ =>
  .done (.ok none)

/-- The code registers the kind again. -/
def registerTwiceHost : Host Unit Unit (Procedure.Waiting Unit Unit) :=
  Procedure.toHost fun _ => .ask (.foreign (.register 10)) fun _ => .done (.ok none)

theorem c_interface_refines_registerTwice :
    World.Fresh ({} : World Unit) ∧
      ({} : World Unit).allocator.installed.Memoryless ∧
      (registerTwiceHost.IsScript fun next => ∀ reply, (next reply).IsScript) ∧
      ((registerTwice.toMove ()).2.IsScript fun next => ∀ reply, (next reply).IsScript) ∧
      (({} : World Unit).startRuntime .standard).2 = .ok 0 ∧
      (∀ k < 6, ((start (({} : World Unit).startRuntime .standard).1 ()
        ((registerTwice.toMove ()).2.direct 0)).run (registerTwiceHost.direct 0) k).failure? =
          none) ∧
      ∃ j ending, ((start {} () (registerTwice.toMove ()).2).run registerTwiceHost j).control =
          .ended ending ∧
        ending.diagnostic = some "Panic: Kind 10 is already registered" := by
  have hw : World.Fresh ({} : World Unit) := ⟨rfl, rfl, rfl, rfl⟩
  have hhost : registerTwiceHost.IsScript fun next => ∀ reply, (next reply).IsScript :=
    Procedure.isScript_toHost fun _ => ⟨rfl, fun _ => trivial⟩
  have hscript : registerTwice.IsScript :=
    ⟨rfl, fun _ => ⟨rfl, fun _ => ⟨rfl, fun _ => trivial⟩⟩⟩
  have hfirst : (registerTwice.toMove ()).2.IsScript fun next => ∀ reply, (next reply).IsScript :=
    Procedure.isScript_toMove hscript ()
  have hok : ∀ k < 6, ((start (({} : World Unit).startRuntime .standard).1 ()
      ((registerTwice.toMove ()).2.direct 0)).run (registerTwiceHost.direct 0) k).failure? =
        none := by decide
  obtain ⟨_, j, _, rfl, rfl, -, -, -, -, -, habort⟩ := c_interface_refines registerTwiceHost {} hw
    Pair.system_memoryless () (registerTwice.toMove ()).2 _ hhost hfirst rfl 6 hok
  obtain ⟨ending, hended, hline, -⟩ := habort (.duplicateKind 10) rfl 0
  exact ⟨hw, Pair.system_memoryless, hhost, hfirst, rfl, hok, _, ending, hended,
    hline.trans (by decide)⟩

/-- A pair that serves its first request and no other. -/
def servesOnce : Pair := ⟨"serves once", fun seen _ => seen == 0⟩

def servesOnceWorld : World Unit := { allocator := { installed := servesOnce } }

/-- A script that wraps code and ends.  Behind the C interface that needs no runtime; a runtime of
one's own has a nil that took the one request which `servesOnce` serves. -/
def wrapAndEnd : Procedure Unit Unit Answer :=
  .ask (.foreign (.createFunction (some ()))) fun _ => .done (.ok none)

def wrapAndEndHost : Host Unit Unit (Procedure.Waiting Unit Unit) :=
  Procedure.toHost fun _ => .done (.ok none)

theorem not_refines_servesOnce :
    servesOnceWorld.Fresh ∧ ¬ servesOnceWorld.allocator.installed.Memoryless ∧
      (wrapAndEndHost.IsScript fun next => ∀ reply, (next reply).IsScript) ∧
      ((wrapAndEnd.toMove ()).2.IsScript fun next => ∀ reply, (next reply).IsScript) ∧
      (servesOnceWorld.startRuntime servesOnceWorld.settings.maxCallDepth).2 = .ok 0 ∧
      ((start (servesOnceWorld.startRuntime servesOnceWorld.settings.maxCallDepth).1 ()
        ((wrapAndEnd.toMove ()).2.direct 0)).run (wrapAndEndHost.direct 0) 1).failure? =
          some (.allocationFailed 24) ∧
      (start servesOnceWorld () (wrapAndEnd.toMove ()).2).trace wrapAndEndHost observation 4 =
        [.replied (.ok (.object (some (.object 0))))] ∧
      ((start servesOnceWorld () (wrapAndEnd.toMove ()).2).run wrapAndEndHost 4).isFinal = true ∧
      ∀ j ending,
        ((start servesOnceWorld () (wrapAndEnd.toMove ()).2).run wrapAndEndHost j).control ≠
          .ended ending := by
  have hhost : wrapAndEndHost.IsScript fun next => ∀ reply, (next reply).IsScript :=
    Procedure.isScript_toHost fun _ => trivial
  have hscript : wrapAndEnd.IsScript := ⟨rfl, fun _ => trivial⟩
  have hfinal :
      ((start servesOnceWorld () (wrapAndEnd.toMove ()).2).run wrapAndEndHost 4).isFinal = true :=
    rfl
  refine ⟨⟨rfl, rfl, rfl, rfl⟩, fun h => ?_, hhost, Procedure.isScript_toMove hscript (), rfl, rfl,
    rfl, hfinal, fun j ending hended => ?_⟩
  · exact absurd (h 0 1 24) (by decide)
  · -- The script is done after four steps, and there the run stays.
    have hlater := run_of_ended hended (Nat.le_add_left j 4)
    rw [run_add, run_of_isFinal wrapAndEndHost hfinal] at hlater
    cases hlater

end Moment

end ObjectRuntime
