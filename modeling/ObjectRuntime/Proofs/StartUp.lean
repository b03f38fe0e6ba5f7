import ObjectRuntime.Procedure
import ObjectRuntime.Proofs.StartUp.Ahead
/-!
# Nobody can tell when the shared runtime starts

A client of the C interface may start the shared runtime whenever it likes, as often as it likes,
or leave it to the first call that needs it.  Two runs of a script, one of which has calls of
start-up put in at top level (`StartsUp`), are kept in step: a step of the first is answered by one
or more of the second (`Shadow.step`).
-/

namespace ObjectRuntime

variable {κ σ φ : Type}

namespace Procedure

/-- The second procedure is the first one with calls of start-up put in anywhere; what they give
back is not looked at. -/
inductive StartsUp {α : Type} : Procedure κ σ α → Procedure κ σ α → Prop
  | done (value : α) : StartsUp (.done value) (.done value)
  | ask (request : Request κ) {next next' : Reply κ → Procedure κ σ α}
      (h : ∀ reply, StartsUp (next reply) (next' reply)) :
      StartsUp (.ask request next) (.ask request next')
  | get {next next' : σ → Procedure κ σ α} (h : ∀ s, StartsUp (next s) (next' s)) :
      StartsUp (.get next) (.get next')
  | set (s : σ) {next next' : Procedure κ σ α} (h : StartsUp next next') :
      StartsUp (.set s next) (.set s next')
  | startUp {p q : Procedure κ σ α} (h : StartsUp p q) :
      StartsUp p (.ask (.foreign .startUp) fun _ => q)

/-- The moment at which a script begins. -/
def launch (p : Procedure κ σ Answer) (w : World κ) (s : σ) : Moment κ σ (Waiting κ σ) :=
  Moment.start w (p.toMove s).1 (p.toMove s).2

end Procedure

namespace Observation

/-- The second list has more replies in it, each of which is that of a start-up. -/
inductive Padded : List (Observation κ) → List (Observation κ) → Prop
  | nil : Padded [] []
  | cons (o : Observation κ) {l l'} (h : Padded l l') : Padded (o :: l) (o :: l')
  | startUp {l l'} (h : Padded l l') : Padded l (.replied (.ok .unit) :: l')

variable {l l' k k' : List (Observation κ)}

theorem Padded.refl (l : List (Observation κ)) : Padded l l := by
  induction l with
  | nil => exact .nil
  | cons o l ih => exact .cons o ih

theorem Padded.append (h : Padded l l') (hk : Padded k k') : Padded (l ++ k) (l' ++ k') := by
  induction h with
  | nil => exact hk
  | cons o _ ih => exact .cons o ih
  | startUp _ ih => exact .startUp ih

end Observation

namespace World

/-- A start-up that is put in leaves the worlds `Close`: the second is ahead afterwards, or has the
runtime already. -/
theorem Close.startUp {w v : World κ} (h : w.Close v) (hw : w.shared = none → w.Startable) :
    ∃ v', v.perform (.foreign .startUp) = (v', .done (.ok .unit)) ∧ w.Close v' := by
  have hthere (u : World κ) {i : RuntimeId} (hs : u.shared = some i) :
      ∃ journal, u.perform (.foreign .startUp) = ({ u with journal }, .done (.ok .unit)) := by
    simp only [World.perform, World.call, sharedRuntime_of_some hs]
    exact ⟨_, rfl⟩
  cases h with
  | level h =>
    cases hs : w.shared with
    | some i =>
      obtain ⟨journal, rfl⟩ := h
      obtain ⟨journal', hv⟩ := hthere { w with journal } hs
      exact ⟨_, hv, .level ⟨journal', rfl⟩⟩
    | none =>
      obtain ⟨journal, hv⟩ := ((hw hs).aside h).sharedRuntime_eq
      obtain ⟨_, rfl⟩ := h
      simp only [World.perform, World.call, hv]
      exact ⟨_, rfl, .ahead (hw hs) ⟨_, rfl⟩⟩
  | ahead hw h =>
    obtain ⟨journal, rfl⟩ := h
    obtain ⟨journal', hv⟩ := hthere { w.started with journal } rfl
    exact ⟨_, hv, .ahead hw ⟨journal', rfl⟩⟩

end World

namespace Moment

open Procedure Observation

/-! ## Keeping two runs in step -/

/-- The same frames, but that the script at the bottom has start-ups put in. -/
inductive SameFrames : List (Frame κ (Waiting κ σ)) → List (Frame κ (Waiting κ σ)) → Prop
  | nil : SameFrames [] []
  | script {next next' : Waiting κ σ} (h : ∀ reply, (next reply).StartsUp (next' reply)) :
      SameFrames [.host none next] [.host none next']
  | cons (frame : Frame κ (Waiting κ σ)) {l l'} (h : SameFrames l l') :
      SameFrames (frame :: l) (frame :: l')

/-- A moment of a run of a script, and the moment of the run with start-ups put in. -/
structure Shadow (m m' : Moment κ σ (Waiting κ σ)) : Prop where
  world : m.world.Close m'.world
  state : m'.state = m.state
  stack : SameFrames m.stack m'.stack
  control : m'.control = m.control

/-- Whether the installed pair is replaced or asked what it counted. -/
def concernsPairs (m : Moment κ σ φ) : Bool :=
  match m.control with
  | .perform request => request.concernsPairs
  | _ => false

/-- What the first run has to keep to so that its next step is answered. -/
structure Proper (host : Host κ σ φ) (m : Moment κ σ φ) : Prop where
  sheltered : m.Sheltered
  startable : m.world.shared = none → m.world.Startable
  pairs : m.concernsPairs = false
  fault : (m.step host).control ≠ .ended .fault

theorem not_concernsPairs {m : Moment κ σ φ} (h : m.concernsPairs = false) {request : Request κ}
    (hcontrol : m.control = .perform request) : request.concernsPairs = false := by
  rwa [concernsPairs, hcontrol] at h

theorem Proper.startable_step {host : Host κ σ φ} {m : Moment κ σ φ} (h : m.Proper host)
    (hlone : m.world.Lone) (hs : (m.step host).world.shared = none) :
    (m.step host).world.Startable := by
  have hsame := h.sheltered.undisturbed_of_none host hlone hs
  have hw : m.world.Startable := h.startable (hsame.shared.symm.trans hs)
  by_cases hperform : ∃ request, m.control = .perform request
  · obtain ⟨request, hcontrol⟩ := hperform
    rw [world_step_perform host hcontrol] at hsame ⊢
    refine hw.perform hsame ?_
    rintro pair rfl
    cases not_concernsPairs h.pairs hcontrol
  · exact hw.aside (h.sheltered.journalAside_step host fun request hc => hperform ⟨request, hc⟩)

namespace Shadow

variable {m m' : Moment κ σ (Waiting κ σ)} {w v : World κ} {s : σ}
  {l l' : List (Frame κ (Waiting κ σ))}

theorem move (hworld : w.Close v) (hstack : SameFrames l l') (c c' : Control κ)
    (i : Option (Invocation κ)) (mv : Move κ (Waiting κ σ)) :
    Shadow ((⟨w, s, l, c⟩ : Moment κ σ (Waiting κ σ)).move i mv)
      ((⟨v, s, l', c'⟩ : Moment κ σ (Waiting κ σ)).move i mv) := by
  cases mv with
  | ask request next => exact ⟨hworld, rfl, .cons _ hstack, rfl⟩
  | finish answer => cases i <;> exact ⟨hworld, rfl, hstack, rfl⟩

theorem turn (host : Host κ σ (Waiting κ σ)) (hworld : w.Close v) (hstack : SameFrames l l')
    (c c' : Control κ) (t : Turn κ) :
    Shadow ((⟨w, s, l, c⟩ : Moment κ σ (Waiting κ σ)).turn host t)
      ((⟨v, s, l', c'⟩ : Moment κ σ (Waiting κ σ)).turn host t) := by
  cases t with
  | done reply => exact ⟨hworld, rfl, hstack, rfl⟩
  | next request p => exact ⟨hworld, rfl, .cons _ hstack, rfl⟩
  | halt ending => exact ⟨hworld, rfl, hstack, rfl⟩
  | enter run => exact move hworld hstack c c' _ _

variable (code : Invocation κ → Procedure κ σ Answer)

/-- The script goes on on both sides; each start-up that comes next takes two steps, of which host
code sees the reply. -/
theorem catches_up {p q : Procedure κ σ Answer} (h : p.StartsUp q) (hworld : w.Close v)
    (hw : w.shared = none → w.Startable) (s : σ) (c c' : Control κ) :
    ∃ j, Shadow ((⟨w, (p.toMove s).1, [], c⟩ : Moment κ σ (Waiting κ σ)).move none (p.toMove s).2)
        (((⟨v, (q.toMove s).1, [], c'⟩ : Moment κ σ (Waiting κ σ)).move none
          (q.toMove s).2).run (toHost code) j) ∧
      Padded [] (((⟨v, (q.toMove s).1, [], c'⟩ : Moment κ σ (Waiting κ σ)).move none
        (q.toMove s).2).trace (toHost code) observation j) := by
  induction h generalizing v s c' with
  | done value => exact ⟨0, move hworld .nil _ _ _ _, .nil⟩
  | ask request h => exact ⟨0, ⟨hworld, rfl, .script h, rfl⟩, .nil⟩
  | get h ih => exact ih s hworld s c'
  | set s' h ih => exact ih hworld s' c'
  | @startUp p q h ih =>
    obtain ⟨v', hv, hworld'⟩ := hworld.startUp hw
    obtain ⟨j, hshadow, hpadded⟩ := ih hworld' s (.reply (.ok .unit))
    let asks : Moment κ σ (Waiting κ σ) :=
      ⟨v, s, [.host none fun _ => q], .perform (.foreign .startUp)⟩
    let waits : Moment κ σ (Waiting κ σ) :=
      ⟨v', s, [.host none fun _ => q], .reply (.ok .unit)⟩
    have hasks : asks.step (toHost code) = waits := step_of_done rfl hv
    have hsilent : asks.observation = [] := by
      have hperform : (v.perform (.foreign .startUp)).2 = .done (.ok .unit) := congrArg Prod.snd hv
      simp only [asks, observation, hperform]
    have hwaits : waits.step (toHost code) =
        (⟨v', (q.toMove s).1, [], .reply (.ok .unit)⟩ : Moment κ σ (Waiting κ σ)).move none
          (q.toMove s).2 := rfl
    refine ⟨j + 2, ?_, ?_⟩
    · change Shadow _ (asks.run (toHost code) (j + 2))
      rw [run_cons, hasks, run_cons, hwaits]
      exact hshadow
    · change Padded [] (asks.trace (toHost code) observation (j + 2))
      rw [trace, hasks, hsilent, trace, hwaits]
      exact .startUp hpadded

theorem step_perform {request : Request κ} (h : Shadow m m') (hm : m.Proper (toHost code))
    (hcontrol : m.control = .perform request) :
    Shadow (m.step (toHost code)) (m'.step (toHost code)) ∧ m'.observation = m.observation := by
  have hcontrol' : m'.control = .perform request := h.control.trans hcontrol
  have hfault : (m.world.perform request).2 ≠ .halt .fault := by
    intro hturn
    refine hm.fault ?_
    rw [Moment.step_perform _ hcontrol, hturn]
    rfl
  obtain ⟨hworld, hturn⟩ := h.world.perform (hm.sheltered.request_cases hcontrol)
    (not_concernsPairs hm.pairs hcontrol) hfault
  constructor
  · rw [Moment.step_perform _ hcontrol, Moment.step_perform _ hcontrol', hturn, h.state]
    exact turn _ hworld h.stack _ _ _
  · simp only [observation, hcontrol, hcontrol', hturn]

/-- **Each step is answered**, with the same observations but for start-ups. -/
theorem step (h : Shadow m m') (hm : m.Proper (toHost code)) :
    ∃ j, Shadow (m.step (toHost code)) (m'.run (toHost code) (j + 1)) ∧
      Padded m.observation (m'.trace (toHost code) observation (j + 1)) := by
  -- Only where the script goes on may more than one step be needed.
  have hone (hstep : Shadow (m.step (toHost code)) (m'.step (toHost code)) ∧
      m'.observation = m.observation) :
      ∃ j, Shadow (m.step (toHost code)) (m'.run (toHost code) (j + 1)) ∧
        Padded m.observation (m'.trace (toHost code) observation (j + 1)) := by
    refine ⟨0, by rw [run_cons, run_zero]; exact hstep.1, ?_⟩
    rw [trace, trace_zero, List.append_nil, hstep.2]
    exact .refl _
  cases hcontrol : m.control with
  | perform request => exact hone (step_perform code h hm hcontrol)
  | ended ending =>
    have hfinal : m.isFinal = true := by rw [isFinal, hcontrol]
    have hfinal' : m'.isFinal = true := by rw [isFinal, h.control, hcontrol]
    refine hone ?_
    rw [step_of_isFinal _ hfinal, step_of_isFinal _ hfinal', observation, observation, h.control,
      hcontrol]
    exact ⟨h, rfl⟩
  | reply reply =>
    obtain ⟨w, s, l, control⟩ := m
    obtain ⟨v, s', l', control'⟩ := m'
    obtain ⟨hworld, rfl, hstack, rfl⟩ := h
    cases hcontrol
    cases hstack with
    | nil => exact hone ⟨⟨hworld, rfl, .nil, rfl⟩, rfl⟩
    | @script next next' hscript =>
      obtain ⟨j, hshadow, hpadded⟩ := catches_up code (hscript reply) hworld hm.startable s'
        (.reply reply) (.reply reply)
      refine ⟨j, ?_, .cons _ hpadded⟩
      rw [run_cons]
      exact hshadow
    | @cons frame l l' hstack =>
      cases frame with
      | host i next => exact hone ⟨move hworld hstack _ _ _ _, rfl⟩
      | pending p =>
        have hp : ∀ i name, p ≠ .adopt i name := by
          rintro i name rfl
          have hguarded : Guarded (.pending (.adopt i name) :: l) := hm.sheltered.guarded
          cases hguarded
        obtain ⟨hworld', hturn⟩ := hworld.resume reply hp
        refine hone ⟨?_, rfl⟩
        rw [step_pending, step_pending, hturn]
        exact turn _ hworld' hstack _ _ _

theorem run {n : Nat} (h : ∃ j, Shadow m (m'.run (toHost code) j) ∧
      Padded [] (m'.trace (toHost code) observation j))
    (hm : ∀ k < n, (m.run (toHost code) k).Proper (toHost code)) :
    ∃ j, n ≤ j ∧ Shadow (m.run (toHost code) n) (m'.run (toHost code) j) ∧
      Padded (m.trace (toHost code) observation n) (m'.trace (toHost code) observation j) := by
  induction n with
  | zero =>
    obtain ⟨j, hshadow, hpadded⟩ := h
    exact ⟨j, Nat.zero_le j, hshadow, hpadded⟩
  | succ n ih =>
    obtain ⟨j, hj, hshadow, hpadded⟩ := ih fun k hk => hm k (by omega)
    obtain ⟨i, hshadow', hpadded'⟩ := hshadow.step code (hm n (Nat.lt_succ_self n))
    refine ⟨j + (i + 1), by omega, ?_, ?_⟩
    · rwa [run_succ, run_add]
    · rw [trace_succ, trace_add]
      exact hpadded.append hpadded'

end Shadow

/-! ## What cannot be told apart -/

/-- What is the same of two moments at which the same is about to happen.  Where the shared runtime
was not started in the first, its nil may be there already in the second, as an object and in the
counters. -/
structure Matches (m m' : Moment κ σ φ) : Prop where
  state : m'.state = m.state
  control : m'.control = m.control
  final : m.isFinal = true → m'.isFinal = true
  objects : ∀ r, m'.world.heap.cell? r = m.world.heap.cell? r ∨
    r = .nil 0 ∧ m.world.shared = none
  blocks : m'.world.heap.blocks = m.world.heap.blocks
  counters : m'.world.allocator = m.world.allocator ∨ m.world.shared = none ∧
    m'.world.allocator = (m.world.allocator.allocate (UInt64.ofNat World.headerSize)).1
  runtimes : m.world.shared ≠ none →
    m'.world.runtimes = m.world.runtimes ∧ m'.world.shared = m.world.shared

theorem Shadow.final {m m' : Moment κ σ (Waiting κ σ)} (h : Shadow m m')
    (hfinal : m.isFinal = true) : m'.isFinal = true := by
  obtain ⟨w, s, l, control⟩ := m
  obtain ⟨v, s', l', control'⟩ := m'
  obtain ⟨-, -, hstack, rfl⟩ := h
  cases control' with
  | ended => rfl
  | perform => cases hfinal
  | reply =>
    cases hstack with
    | nil => rfl
    | script | cons => cases hfinal

theorem Shadow.matches {m m' : Moment κ σ (Waiting κ σ)} (h : Shadow m m') : m.Matches m' := by
  cases h.world with
  | level haside =>
    obtain ⟨journal, hw⟩ := haside
    refine ⟨h.state, h.control, h.final, fun r => .inl ?_, ?_, .inl ?_, fun _ => ?_⟩ <;> rw [hw]
    exact ⟨rfl, rfl⟩
  | ahead hw haside =>
    obtain ⟨journal, hv⟩ := haside
    refine ⟨h.state, h.control, h.final, fun r => ?_, ?_, .inr ⟨hw.shared, ?_⟩,
      fun hs => absurd hw.shared hs⟩
    · rw [hv]
      by_cases hr : r = .nil 0
      · exact .inr ⟨hr, hw.shared⟩
      · left
        refine (Heap.cell?_addNil _ _ r).trans (if_neg ?_)
        rwa [Heap.nextNil, hw.nils]
    · rw [hv]
      rfl
    · rw [hv]
      rfl

theorem proper_run {host : Host κ σ φ} {w : World κ} (hw : w.Fresh) {s : σ} {first : Move κ φ}
    {n : Nat} (hasks : ∀ k ≤ n, ((start w s first).run host k).asksForeign = true)
    (hmemoryless : w.allocator.installed.Memoryless)
    (hserved : ∀ k, w.allocator.installed.serves k (UInt64.ofNat World.headerSize) = true)
    (hpairs : ∀ k < n, ((start w s first).run host k).concernsPairs = false)
    (hfault : ((start w s first).run host n).control ≠ .ended .fault) {k : Nat} (hk : k < n) :
    ((start w s first).run host k).Proper host := by
  have hsheltered (k : Nat) (hk : k < n) : ((start w s first).run host k).Sheltered :=
    .run fun j hj => hasks j (by omega)
  have hgoes (k : Nat) (hk : k < n) :
      (((start w s first).run host k).step host).control ≠ .ended .fault := by
    intro hended
    rw [← run_succ] at hended
    exact hfault (run_of_ended hended hk)
  have hstartable : ((start w s first).run host k).world.shared = none →
      ((start w s first).run host k).world.Startable := by
    induction k with
    | zero =>
      intro _
      rw [run_zero, world_start]
      exact hw.startable hmemoryless hserved
    | succ k ih =>
      have hbefore : ((start w s first).run host k).Proper host :=
        ⟨hsheltered k (by omega), ih (by omega), hpairs k (by omega), hgoes k (by omega)⟩
      have hlone := (stands_run host hw fun j (hj : j ≤ k) => hasks j (by omega)).lone
      intro hs
      rw [run_succ] at hs ⊢
      exact hbefore.startable_step hlone hs
  exact ⟨hsheltered k hk, hstartable, hpairs k hk, hgoes k hk⟩

/-- **The shared runtime starts once, and nobody can tell when.**  Whatever a script of the C
interface does, the first call that needs the runtime starts it and nothing else has to do with
which runtimes there are.  And if start-ups are put into the script wherever, then the two runs go
together as long as the script leaves the pairs alone and touches no storage that is not there: host
code is entered with the same receivers and arguments and gets the same replies, but for those of
the start-ups; the objects, their counts and the raw blocks are the same, and so is how the process
ends.  Only the nil, and its storage in the counters of the allocator, may be there earlier.  The
pair that is installed is not to remember what it was asked, and is to have storage for the nil, as
that of the platform does. -/
theorem start_up_transparent (code : Invocation κ → Procedure κ σ Answer) (w : World κ)
    (hw : w.Fresh) (s : σ) (p : Procedure κ σ Answer) (n : Nat)
    (hasks : ∀ k ≤ n, ((p.launch w s).run (toHost code) k).asksForeign = true) :
    (p.launch w s).StartsOnce (toHost code) n ∧
      ∀ q : Procedure κ σ Answer, p.StartsUp q →
        w.allocator.installed.Memoryless →
        (∀ k, w.allocator.installed.serves k (UInt64.ofNat World.headerSize) = true) →
        (∀ k < n, ((p.launch w s).run (toHost code) k).concernsPairs = false) →
        ((p.launch w s).run (toHost code) n).control ≠ .ended .fault →
        ∃ j, n ≤ j ∧
          ((p.launch w s).run (toHost code) n).Matches ((q.launch w s).run (toHost code) j) ∧
          Padded ((p.launch w s).trace (toHost code) observation n)
            ((q.launch w s).trace (toHost code) observation j) := by
  refine ⟨startsOnce hw hasks, fun q hpq hmemoryless hserved hpairs hfault => ?_⟩
  have hbegin := Shadow.catches_up code hpq (.level (.refl w))
    (fun _ => hw.startable hmemoryless hserved) s (.reply (.ok .unit)) (.reply (.ok .unit))
  obtain ⟨j, hj, hshadow, hpadded⟩ := Shadow.run code hbegin fun k hk =>
    proper_run hw hasks hmemoryless hserved hpairs hfault hk
  exact ⟨j, hj, hshadow.matches, hpadded⟩

/-- A script that wraps code and looks at its count before it needs the runtime, and then runs
it. -/
def wrapAndRun : Procedure Unit Unit Answer :=
  .ask (.foreign (.createFunction (some ()))) fun _ =>
  .ask (.foreign (.count (some (.object 0)))) fun _ =>
  .ask (.foreign (.apply (some (.object 0)) ⟨0, none⟩)) fun _ =>
  .done (.ok none)

/-- The same with three start-ups, of which the first makes the runtime. -/
def wrapAndRunStarted : Procedure Unit Unit Answer :=
  .ask (.foreign (.createFunction (some ()))) fun _ =>
  .ask (.foreign .startUp) fun _ =>
  .ask (.foreign (.count (some (.object 0)))) fun _ =>
  .ask (.foreign (.apply (some (.object 0)) ⟨0, none⟩)) fun _ =>
  .ask (.foreign .startUp) fun _ =>
  .ask (.foreign .startUp) fun _ =>
  .done (.ok none)

/-- The code gives back the nil, with a reference to it. -/
def giveNil (_ : Invocation Unit) : Procedure Unit Unit Answer :=
  .ask (.foreign .nil) fun _ => .done (.ok (some (.nil 0)))

theorem start_up_transparent_wrapAndRun :
    World.Fresh ({} : World Unit) ∧
      (∀ k ≤ 16, ((wrapAndRun.launch {} ()).run (toHost giveNil) k).asksForeign = true) ∧
      wrapAndRun.StartsUp wrapAndRunStarted ∧
      ({} : World Unit).allocator.installed.Memoryless ∧
      (∀ k, ({} : World Unit).allocator.installed.serves k (UInt64.ofNat World.headerSize) =
        true) ∧
      (∀ k < 16, ((wrapAndRun.launch {} ()).run (toHost giveNil) k).concernsPairs = false) ∧
      ((wrapAndRun.launch {} ()).run (toHost giveNil) 16).isFinal = true ∧
      (∃ k < 16, ((wrapAndRun.launch {} ()).run (toHost giveNil) k).needsRuntime = true) ∧
      ∃ j, ((wrapAndRunStarted.launch {} ()).run (toHost giveNil) j).isFinal = true ∧
        (((wrapAndRunStarted.launch {} ()).run (toHost giveNil) j).world.heap.cell?
          (.nil 0)).map (·.count) = some 2 := by
  have hw : World.Fresh ({} : World Unit) := ⟨rfl, rfl, rfl, rfl⟩
  have hasks : ∀ k ≤ 16,
      ((wrapAndRun.launch {} ()).run (toHost giveNil) k).asksForeign = true := by decide
  have hstarts : wrapAndRun.StartsUp wrapAndRunStarted :=
    .ask _ fun _ => .startUp (.ask _ fun _ => .ask _ fun _ => .startUp (.startUp (.done _)))
  have hserved (k : Nat) : ({} : World Unit).allocator.installed.serves k
      (UInt64.ofNat World.headerSize) = true := rfl
  have hpairs : ∀ k < 16,
      ((wrapAndRun.launch {} ()).run (toHost giveNil) k).concernsPairs = false := by decide
  have hfinal : ((wrapAndRun.launch {} ()).run (toHost giveNil) 16).isFinal = true := by decide
  have hreply : ((wrapAndRun.launch {} ()).run (toHost giveNil) 16).control =
      .reply (.ok (.object none)) := rfl
  have hshared : ((wrapAndRun.launch {} ()).run (toHost giveNil) 16).world.shared = some 0 := rfl
  have hcount : (((wrapAndRun.launch {} ()).run (toHost giveNil) 16).world.heap.cell?
      (.nil 0)).map (·.count) = some 2 := rfl
  obtain ⟨honce, htransparent⟩ := start_up_transparent giveNil {} hw () wrapAndRun 16 hasks
  obtain ⟨j, -, hmatches, -⟩ := htransparent wrapAndRunStarted hstarts Pair.system_memoryless
    hserved hpairs (by rw [hreply]; simp)
  refine ⟨hw, hasks, hstarts, Pair.system_memoryless, hserved, hpairs, hfinal,
    honce.needed (by rw [hshared]; simp), j, hmatches.final hfinal, ?_⟩
  rcases hmatches.objects (.nil 0) with hsame | ⟨-, hnone⟩
  · rw [hsame, hcount]
  · cases hnone.symm.trans hshared

end Moment

end ObjectRuntime
