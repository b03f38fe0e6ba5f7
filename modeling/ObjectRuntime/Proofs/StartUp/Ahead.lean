import ObjectRuntime.Proofs.StartUp.Once
import ObjectRuntime.Proofs.Storage.Supply
/-!
# Ahead by the shared runtime

Two worlds that are the same but for the journal, or the second has the shared runtime already and
the first is about to start it: they are `Close`.  What clients of the C interface ask for goes the
same way in both, and as soon as it needs the runtime the worlds are the same.
-/

namespace ObjectRuntime

variable {κ : Type}

/-- Whether a request replaces the installed pair or asks what it counted. -/
def Request.concernsPairs : Request κ → Bool
  | .service (.install _) | .service (.traffic _) => true
  | _ => false

namespace World

/-- The shared runtime was not started, and storage for its nil is served whenever it is.  What is
in use was counted. -/
structure Startable (w : World κ) : Prop where
  shared : w.shared = none
  runtimes : w.runtimes = #[]
  nils : w.heap.nils = #[]
  memoryless : w.allocator.installed.Memoryless
  served : ∀ n, w.allocator.installed.serves n (UInt64.ofNat headerSize) = true
  counted : w.heap.inUse ≤ w.allocator.live

/-- The second world is the first one with the shared runtime started, whatever was reported. -/
def Ahead (w v : World κ) : Prop := w.started.JournalAside v

/-- The two worlds are the same, or the second is ahead, whatever was reported. -/
inductive Close (w v : World κ) : Prop
  | level (h : w.JournalAside v)
  | ahead (hw : w.Startable) (h : w.Ahead v)

variable {w v : World κ}

theorem Fresh.startable (hw : w.Fresh) (hmemoryless : w.allocator.installed.Memoryless)
    (hserved : ∀ n, w.allocator.installed.serves n (UInt64.ofNat headerSize) = true) :
    w.Startable where
  shared := hw.shared
  runtimes := hw.runtimes
  nils := by
    rw [hw.heap]
    rfl
  memoryless := hmemoryless
  served := hserved
  counted := by
    rw [hw.heap]
    exact Nat.zero_le _

/-! ## Where the shared runtime can be started -/

namespace Startable

theorem aside (h : w.Startable) (h' : w.JournalAside v) : v.Startable := by
  obtain ⟨journal, rfl⟩ := h'
  exact ⟨h.shared, h.runtimes, h.nils, h.memoryless, h.served, h.counted⟩

theorem object_of_live (h : w.Startable) {r : Ref} {c : Cell κ} (hc : w.heap.live? r = some c) :
    ∃ n, r = .object n := by
  cases r with
  | nil i => simp [Heap.live?, Heap.cell?, h.nils] at hc
  | object n => exact ⟨n, rfl⟩

theorem sharedRuntime_eq (h : w.Startable) :
    ∃ journal, w.sharedRuntime = ({ w.started with journal }, .ok 0) := by
  obtain ⟨journal, hw⟩ := sharedRuntime_of_none h.shared
  have hserved : (w.allocator.allocate (UInt64.ofNat headerSize)).2 = true := by
    rw [Allocator.allocate_snd]
    exact h.served _
  have hsize : w.runtimes.size = 0 := by
    rw [h.runtimes]
    rfl
  rw [if_pos hserved, hsize] at hw
  exact ⟨journal, hw⟩

theorem perform (h : w.Startable) {request : Request κ}
    (hsame : w.Undisturbed (w.perform request).1)
    (hinstall : ∀ pair, request ≠ .service (.install pair)) : (w.perform request).1.Startable := by
  have hinstalled := w.installed_perform hinstall
  have hruntimes : (w.perform request).1.runtimes = #[] := by
    have hsize := hsame.size_runtimes
    rw [h.runtimes] at hsize
    exact Array.eq_empty_of_size_eq_zero hsize
  refine ⟨hsame.shared.trans h.shared, hruntimes, ?_, ?_, ?_, ?_⟩
  · have hsize := (w.perform_outcome request).size_nils (by rw [h.nils, h.runtimes]; rfl)
    rw [hruntimes] at hsize
    exact Array.eq_empty_of_size_eq_zero hsize
  · rw [hinstalled]
    exact h.memoryless
  · rw [hinstalled]
    exact h.served
  · have hcounted := h.counted
    cases w.perform_supply request with
    | kept _ _ _ hstorage =>
      have hused := hstorage.pieces false
      rw [hstorage.allocator]
      unfold Heap.inUse at hcounted ⊢
      omega
    | asked size _ _ hasked =>
      rw [hasked.allocator, hasked.inUse, Allocator.live_allocate]
      omega
    | returned _ _ _ hback =>
      have hused := hback.inUse
      have hlive : w.allocator.release.live = w.allocator.live - 1 := rfl
      rw [hback.allocator, hlive]
      omega
    | installed pair hrequest => exact absurd hrequest (hinstall pair)

end Startable

/-! ## Services in a world that is ahead -/

theorem Ahead.of_eq (hheap : v.heap = w.started.heap)
    (hallocator : v.allocator = w.started.allocator) (hruntimes : v.runtimes = w.started.runtimes)
    (hhandles : v.handles = w.handles) (hshared : v.shared = w.started.shared)
    (hsettings : v.settings = w.settings) (hfilter : v.filter = w.filter)
    (hcontent : v.content = w.content) : w.Ahead v := by
  refine ⟨v.journal, ?_⟩
  cases v
  simp_all [started]

namespace Startable

variable (h : w.Startable)
include h

theorem allocate (size : UInt64) (a : Address) :
    ∃ journal journal', w.allocate size a =
        ({ w with allocator := (w.allocator.allocate size).1, journal },
          (w.allocator.allocate size).2) ∧
      w.started.allocate size a =
        ({ w.started with
            allocator := ((w.allocator.allocate size).1.allocate (UInt64.ofNat headerSize)).1
            journal := journal' },
          (w.allocator.allocate size).2) := by
  obtain ⟨journal, hw⟩ := w.allocate_eq size a
  obtain ⟨journal', hv⟩ := w.started.allocate_eq size a
  have hboth : w.started.allocator.allocate size =
      (((w.allocator.allocate size).1.allocate (UInt64.ofNat headerSize)).1,
        (w.allocator.allocate size).2) :=
    Allocator.allocate_allocate h.memoryless _ _
  rw [hboth] at hv
  exact ⟨journal, journal', hw, hv⟩

theorem release (hused : 0 < w.heap.inUse) : w.started.allocator.release =
    (w.allocator.release.allocate (UInt64.ofNat headerSize)).1 := by
  have hcounted := h.counted
  exact Allocator.release_allocate h.memoryless _ (by omega)

theorem createFunction (code : κ) :
    Agree Ahead (w.createFunction code) (w.started.createFunction code) := by
  obtain ⟨journal, journal', hw, hv⟩ := h.allocate (UInt64.ofNat functionSize)
    (.object w.heap.nextObject)
  have hnext : w.started.heap.nextObject = w.heap.nextObject := rfl
  simp only [World.createFunction, hnext, hw, hv]
  cases (w.allocator.allocate (UInt64.ofNat functionSize)).2 with
  | true => exact ⟨.of_eq rfl rfl rfl rfl rfl rfl rfl rfl, rfl⟩
  | false => exact ⟨.of_eq rfl rfl rfl rfl rfl rfl rfl rfl, rfl⟩

theorem allocateBlock (size : UInt64) :
    Agree Ahead (w.allocateBlock size) (w.started.allocateBlock size) := by
  obtain ⟨journal, journal', hw, hv⟩ := h.allocate size (.block w.heap.nextBlock)
  have hnext : w.started.heap.nextBlock = w.heap.nextBlock := rfl
  simp only [World.allocateBlock, hnext, hw, hv]
  cases (w.allocator.allocate size).2 with
  | true => exact ⟨.of_eq rfl rfl rfl rfl rfl rfl rfl rfl, rfl⟩
  | false => exact ⟨.of_eq rfl rfl rfl rfl rfl rfl rfl rfl, rfl⟩

theorem freeBlock (b : BlockId) : Option.Rel Ahead (w.freeBlock b) (w.started.freeBlock b) := by
  have hlive : w.started.heap.liveBlock b = w.heap.liveBlock b := rfl
  simp only [World.freeBlock, hlive]
  split
  next hb =>
    obtain ⟨hused, -⟩ := Heap.pieces_release_block hb
    have hallocator := h.release (by omega)
    exact .some (.of_eq rfl hallocator rfl rfl rfl rfl rfl rfl)
  · exact .none

theorem live?_started {r : Ref} {c : Cell κ} (hc : w.heap.live? r = some c) :
    w.started.heap.live? r = some c := by
  obtain ⟨n, rfl⟩ := h.object_of_live hc
  exact hc

theorem freeObject {r : Ref} {c : Cell κ} (hc : w.heap.live? r = some c) :
    Option.Rel Ahead (w.freeObject r) (w.started.freeObject r) := by
  have hc' := h.live?_started hc
  obtain ⟨n, rfl⟩ := h.object_of_live hc
  obtain ⟨hused, -⟩ := Heap.pieces_release_object hc
  have hallocator := h.release (by omega)
  simp only [World.freeObject, hc, hc']
  exact .some (.of_eq rfl hallocator rfl rfl rfl rfl rfl rfl)

theorem inspect {r : Ref} {c : Cell κ} (hc : w.heap.live? r = some c) (f : Cell κ → Value κ) :
    Agree Ahead (w.inspect r f) (w.started.inspect r f) := by
  simp only [World.inspect, hc, h.live?_started hc]
  exact ⟨.of_eq rfl rfl rfl rfl rfl rfl rfl rfl, rfl⟩

theorem amend {r : Ref} {c : Cell κ} (hc : w.heap.live? r = some c) (f : Cell κ → Cell κ) :
    Agree Ahead (w.amend r f) (w.started.amend r f) := by
  have hc' := h.live?_started hc
  obtain ⟨n, rfl⟩ := h.object_of_live hc
  simp only [World.amend, hc, hc']
  exact ⟨.of_eq rfl rfl rfl rfl rfl rfl rfl rfl, rfl⟩

theorem isReleased (a : Address) : w.started.isReleased a = w.isReleased a := by
  cases a with
  | block b => rfl
  | object r =>
    cases r with
    | object n => rfl
    | nil i =>
      -- The nil that is there already was not given back.
      have hnone : w.heap.cell? (.nil i) = none := by simp [Heap.cell?, h.nils]
      have hstarted : w.started.heap.cell? (.nil i) =
          if .nil i = w.heap.nextNil then some { kind := nilKind, body := .nothing }
          else w.heap.cell? (.nil i) :=
        Heap.cell?_addNil _ _ _
      simp only [World.isReleased, hstarted, hnone]
      split <;> rfl

end Startable

/-! ## Requests -/

theorem Startable.serve (h : w.Startable) {service : Service κ}
    (hforeign : (Request.service service).isForeign = true)
    (hpairs : (Request.service service).concernsPairs = false)
    (hfault : (w.serve service).2 ≠ .halt .fault) :
    Agree Ahead (w.serve service) (w.started.serve service) := by
  have hsame : w.Ahead w.started := .refl _
  have hlive {r : Ref} {f : Cell κ → Value κ} (hfault : (w.inspect r f).2 ≠ .halt .fault) :
      ∃ c, w.heap.live? r = some c := by
    cases hc : w.heap.live? r with
    | some c => exact ⟨c, rfl⟩
    | none => exact absurd (by simp only [World.inspect, hc]) hfault
  cases service with
  | freeObject object =>
    cases object with
    | none => exact ⟨hsame, rfl⟩
    | some r =>
      cases hc : w.heap.live? r with
      | some c => exact Congruence.orFault_done hsame (h.freeObject hc) _
      | none =>
        refine absurd ?_ hfault
        simp only [World.serve, World.freeObject, hc]
        rfl
  | allocate size =>
    exact (h.allocateBlock size).map fun block => Turn.done (.ok (.block block))
  | freeBlock block =>
    cases block with
    | none => exact ⟨hsame, rfl⟩
    | some b => exact Congruence.orFault_done hsame (h.freeBlock b) _
  | isReleased address =>
    simp only [World.serve, h.isReleased]
    exact ⟨hsame, rfl⟩
  | count r | kind r | payload r =>
    obtain ⟨c, hc⟩ := hlive hfault
    exact h.inspect hc _
  | write r start bytes =>
    cases hc : w.heap.live? r with
    | some c => exact h.amend hc _
    | none => exact absurd (by simp only [World.serve, World.amend, hc]) hfault
  | install | traffic => cases hpairs
  | _ => cases hforeign

namespace Close

theorem congruence : CallCongruence (Close (κ := κ)) where
  emit := by
    rintro w v (h | ⟨hw, journal, rfl⟩) e
    · exact .level (JournalAside.congruence.emit h e)
    · exact .ahead (hw.aside ⟨_, rfl⟩) ⟨_, rfl⟩
  sharedRuntime := by
    rintro w v (h | ⟨hw, h⟩)
    · obtain ⟨h', hreply⟩ := h.sharedRuntime
      exact ⟨.level h', hreply⟩
    · -- Here the first world catches up.
      obtain ⟨journal, hstart⟩ := hw.sharedRuntime_eq
      have hshared : v.shared = some 0 := by
        obtain ⟨journal', rfl⟩ := h
        exact congrArg (fun a : Array (Runtime κ) => some a.size) hw.runtimes
      rw [hstart, sharedRuntime_of_some hshared]
      exact ⟨.level (.trans ⟨_, rfl⟩ h), rfl⟩
  startLogging := by
    rintro w v (⟨journal, rfl⟩ | ⟨hw, journal, rfl⟩)
    · exact .level ⟨_, rfl⟩
    · exact .ahead (hw.aside ⟨_, rfl⟩) ⟨_, rfl⟩
  stopLogging := by
    rintro w v (⟨journal, rfl⟩ | ⟨hw, journal, rfl⟩)
    · exact .level ⟨_, rfl⟩
    · exact .ahead (hw.aside ⟨_, rfl⟩) ⟨_, rfl⟩

theorem of_ahead {α : Type} {p q q' : World κ × α} (hp : p.1.Startable) (h : Agree Ahead p q)
    (h' : Agree JournalAside q q') : Agree Close p q' :=
  ⟨.ahead hp (h.1.trans h'.1), h'.2.trans h.2⟩

theorem ne_loggingStarted {request : Request κ}
    (hasked : request.isForeign = true ∨ (∃ i op, request = .on i op) ∨
      ∃ code, request = .service (.createFunction code)) :
    request ≠ .service .loggingStarted := by
  rintro rfl
  rcases hasked with hforeign | ⟨_, _, hrequest⟩ | ⟨_, hrequest⟩
  · cases hforeign
  · cases hrequest
  · cases hrequest

/-- **What clients ask for goes the same way in close worlds**, unless they touch storage that is
not there or have to do with the pairs. -/
theorem perform (h : w.Close v) {request : Request κ}
    (hasked : request.isForeign = true ∨ (∃ i op, request = .on i op) ∨
      ∃ code, request = .service (.createFunction code))
    (hpairs : request.concernsPairs = false) (hfault : (w.perform request).2 ≠ .halt .fault) :
    Agree Close (w.perform request) (v.perform request) := by
  have hquiet := ne_loggingStarted hasked
  cases h with
  | level h =>
    obtain ⟨h', hturn⟩ := h.perform hquiet
    exact ⟨.level h', hturn⟩
  | ahead hw h =>
    have hinspect {r : Ref} {c : Cell κ} (hc : w.heap.live? r = some c) (f : Cell κ → Value κ) :
        Agree Close (w.inspect r f) (v.inspect r f) := by
      refine of_ahead ?_ (hw.inspect hc f) (JournalAside.congruence.inspect h r f)
      simp only [World.inspect, hc]
      exact hw
    cases request with
    | on i op =>
      have hnone : w.runtimes[i]? = none := by simp [hw.runtimes]
      exact absurd (by rw [perform_on_none hnone]) hfault
    | query | handle => simp [Request.isForeign] at hasked
    | foreign call =>
      refine congruence.call (.ahead hw h) call fun r hcall f => ?_
      cases hc : w.heap.live? r with
      | some c => exact hinspect hc f
      | none =>
        refine absurd ?_ hfault
        rcases hcall with rfl | rfl <;> simp only [World.perform, World.call, World.inspect, hc]
    | service service =>
      have hstartable : (w.perform (.service service)).1.Startable := by
        refine hw.perform (Undisturbed.perform w (by simp) ?_) ?_
        · rcases hasked with hforeign | ⟨_, _, hrequest⟩ | ⟨code, hrequest⟩
          · cases service <;> first | rfl | cases hforeign
          · cases hrequest
          · cases hrequest
            rfl
        · rintro pair ⟨⟩
          cases hpairs
      refine of_ahead hstartable ?_ (h.perform hquiet)
      rcases hasked with hforeign | ⟨_, _, hrequest⟩ | ⟨code, hrequest⟩
      · exact hw.serve hforeign hpairs hfault
      · cases hrequest
      · cases hrequest
        exact (hw.createFunction code).map objectReply

theorem resume (h : w.Close v) (reply : Reply κ) {p : Pending κ}
    (hp : ∀ i name, p ≠ .adopt i name) : Agree Close (w.resume reply p) (v.resume reply p) := by
  cases p with
  | releaseMethod => exact ⟨h, rfl⟩
  | keep => cases reply <;> exact ⟨h, rfl⟩
  | adopt i name => exact absurd rfl (hp i name)
  | orFatal =>
    cases reply with
    | ok => exact ⟨h, rfl⟩
    | error e => exact congruence.fatal h _

end Close

end World

end ObjectRuntime
