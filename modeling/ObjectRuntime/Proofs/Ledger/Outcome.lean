import ObjectRuntime.Proofs.Ledger
/-!
# What a request can do

`Outcome` lists all that performing a request can do to the objects on record and to the runtimes,
with how the operation goes on and what is entered in the ledger.  `perform_outcome` says that the
list is complete, so that what holds of every request is shown by going through it.
-/

namespace ObjectRuntime

variable {κ : Type}

/-- Whether an operation that goes on like this neither starts a destructor nor leaves a method to
be released. -/
def Turn.isPlain : Turn κ → Bool
  | .done _ | .halt _ | .next _ (.adopt _ _) | .next _ .orFatal => true
  | .enter run => !run.role.isDestructor
  | .next _ (.releaseMethod _ _) | .next _ (.keep _) => false

/-- Whether an object is what a request names, or what it finds for the name that it gives. -/
def Request.Reaches (w : World κ) (request : Request κ) (r : Ref) : Prop :=
  match request with
  | .on _ (.retain p) | .on _ (.setMember _ _ p) | .handle (.borrow _ p) => p = some r
  | .on i (.lookup p name) | .on i (.methodCall p name _) =>
    ∃ rt o c, w.runtimes[i]? = some rt ∧ p = some o ∧ w.heap.live? o = some c ∧
      rt.registry.member c.kind name = .ok r
  | .on i .nil => i < w.runtimes.size ∧ r = .nil i
  | .handle (.nil i) => r = .nil i
  | .handle (.clone h) => ∃ handle, w.handle? h = some handle ∧ handle.object = r
  | _ => False

/-- Whether a request makes an object that looks like this. -/
def Request.Makes (c : Cell κ) : Request κ → Prop
  | .on _ (.newObject kind payload) | .service (.createObject kind payload) =>
    c = { kind, body := .payload (Array.replicate payload.toNat 0) }
  | .service (.createFunction code) => c = { kind := functionKind, body := .code code }
  | _ => False

/-- What performing a request in `w` can lead to. -/
inductive Outcome (w : World κ) : Request κ → World κ → Turn κ → Prop
  /-- The objects and the runtimes stay as they are. -/
  | plain {request w' turn} (hnils : w'.heap.nils = w.heap.nils)
      (hobjects : w'.heap.objects = w.heap.objects) (hruntimes : w'.runtimes = w.runtimes)
      (hentries : ∀ back, request.entries w back turn = []) (hturn : turn.isPlain = true) :
      Outcome w request w' turn
  /-- A registry is written, and binds no new member. -/
  | configured {i op w'} (rt : Runtime κ) (g : Registry κ) (hrt : w.runtimes[i]? = some rt)
      (hmembers : ∀ kind name r, g.member kind name = .ok r →
        rt.registry.member kind name = .ok r)
      (hheap : w'.heap = w.heap) (hruntimes : w'.runtimes = (w.setRegistry i g).runtimes)
      (hentries : ∀ back, (Request.on i op).entries w back (.done (.ok .unit)) = []) :
      Outcome w (.on i op) w' (.done (.ok .unit))
  | bound {i kind name r w'} (rt : Runtime κ) (g : Registry κ) (replaced : Option Ref)
      (c : Cell κ) (hrt : w.runtimes[i]? = some rt)
      (hg : rt.registry.setMember kind name r = .ok (g, replaced))
      (hc : w.heap.live? r = some c) (hheap : w'.heap = w.heap.addCount r 1)
      (hruntimes : w'.runtimes = (w.setRegistry i g).runtimes) :
      Outcome w (.on i (.setMember kind name (some r))) w' (.done (.ok .unit))
  /-- A member was to be bound that was given back. -/
  | unbound {i kind name r w'} (rt : Runtime κ) (g : Registry κ) (replaced : Option Ref)
      (hrt : w.runtimes[i]? = some rt)
      (hg : rt.registry.setMember kind name r = .ok (g, replaced))
      (hdead : w.heap.live? r = none) (hheap : w'.heap = w.heap)
      (hruntimes : w'.runtimes = (w.setRegistry i g).runtimes) :
      Outcome w (.on i (.setMember kind name (some r))) w' (.halt .fault)
  /-- A reference is taken for a client. -/
  | taken {request w' reply} (cause : Cause) (r : Ref) (c : Cell κ)
      (hcause : cause.handsOut = true) (hreach : request.Reaches w r)
      (hc : w.heap.live? r = some c) (hheap : w'.heap = w.heap.addCount r 1)
      (hruntimes : w'.runtimes = w.runtimes)
      (hentries : ∀ back, request.entries w back (.done reply) = [⟨cause, r⟩]) :
      Outcome w request w' (.done reply)
  /-- A method is looked up and about to be applied. -/
  | method {i object name args w'} (r : Ref) (c : Cell κ)
      (hreach : (Request.on i (.methodCall object name args)).Reaches w r)
      (hc : w.heap.live? r = some c) (hheap : w'.heap = w.heap.addCount r 1)
      (hruntimes : w'.runtimes = w.runtimes) :
      Outcome w (.on i (.methodCall object name args)) w'
        (.next (.on i (.apply (some r) args)) (.releaseMethod i r))
  | released {i r w' reply} (c : Cell κ) (hc : w.heap.live? r = some c)
      (hheap : w'.heap = w.heap.addCount r (-1)) (hruntimes : w'.runtimes = w.runtimes) :
      Outcome w (.on i (.release (some r))) w' (.done reply)
  /-- The last reference is given back, and the storage with it. -/
  | reclaimed {i r w' reply} (c : Cell κ) (hc : w.heap.live? r = some c) (hone : c.count = 1)
      (hheap : w'.heap = (w.heap.addCount r (-1)).release (.object r))
      (hruntimes : w'.runtimes = w.runtimes) :
      Outcome w (.on i (.release (some r))) w' (.done reply)
  /-- The last reference is given back, and a destructor started. -/
  | destroying {i r w' run} (c : Cell κ) (hc : w.heap.live? r = some c) (hone : c.count = 1)
      (hrole : run.role.isDestructor = true) (hreceiver : run.receiver = r)
      (hheap : w'.heap = w.heap.addCount r (-1)) (hruntimes : w'.runtimes = w.runtimes) :
      Outcome w (.on i (.release (some r))) w' (.enter run)
  | made {request w' reply} (c : Cell κ) (hone : c.count = 1) (hlive : c.released = false)
      (hheap : w'.heap = w.heap.addObject c) (hruntimes : w'.runtimes = w.runtimes)
      (hentries : ∀ back, request.entries w back (.done reply) = [])
      (hmakes : request.Makes c) : Outcome w request w' (.done reply)
  | started {request w' turn} (cap : DepthCap)
      (hheap : w'.heap = w.heap.addNil { kind := nilKind, body := .nothing })
      (hruntimes : w'.runtimes = w.runtimes.push { registry := .builtin, cap })
      (hentries : ∀ back, request.entries w back turn = []) (hturn : turn.isPlain = true) :
      Outcome w request w' turn
  | freed {r w'} (c : Cell κ) (hc : w.heap.live? r = some c)
      (hheap : w'.heap = w.heap.release (.object r)) (hruntimes : w'.runtimes = w.runtimes) :
      Outcome w (.service (.freeObject (some r))) w' (.done (.ok .unit))
  | recounted {r n w'} (c : Cell κ) (hc : w.heap.live? r = some c)
      (hheap : w'.heap = w.heap.update r ({ · with count := n }))
      (hruntimes : w'.runtimes = w.runtimes) :
      Outcome w (.service (.setCount r n)) w' (.done (.ok .unit))
  | written {r start bytes w'} (c : Cell κ) (hc : w.heap.live? r = some c)
      (hheap : w'.heap = w.heap.update r fun c =>
        { c with body := World.writeBody start bytes c.body })
      (hruntimes : w'.runtimes = w.runtimes) :
      Outcome w (.service (.write r start bytes)) w' (.done (.ok .unit))

namespace Outcome

variable {w : World κ} {request : Request κ}

theorem same {turn : Turn κ} (hentries : ∀ back, request.entries w back turn = [])
    (hturn : turn.isPlain = true) : Outcome w request w turn :=
  .plain rfl rfl rfl hentries hturn

end Outcome

namespace World

theorem writeRegistry_outcome {w : World κ} {i : RuntimeId} {rt : Runtime κ} {op : Operation κ}
    {e : Event κ} {change : Except Failure (Registry κ)} (hrt : w.runtimes[i]? = some rt)
    (hentries : ∀ back turn, (Request.on i op).entries w back turn = [])
    (hmembers : ∀ g, change = .ok g → ∀ kind name r, g.member kind name = .ok r →
      rt.registry.member kind name = .ok r) :
    Outcome w (.on i op) (w.writeRegistry i e change).1 (w.writeRegistry i e change).2 := by
  cases change with
  | error e => exact .same (fun back => hentries back _) rfl
  | ok g => exact .configured rt g hrt (hmembers g rfl) rfl rfl fun back => hentries back _

theorem setMember_outcome {w : World κ} {i : RuntimeId} {rt : Runtime κ}
    (hrt : w.runtimes[i]? = some rt) (kind : KindId) (name : String) (value : Pointer) :
    Outcome w (.on i (.setMember kind name value))
      (w.setMember i rt.registry kind name value).1
      (w.setMember i rt.registry kind name value).2 := by
  rcases w.setMember_cases i rt.registry kind name value with ⟨e, he⟩ |
    ⟨r, g, replaced, w', rfl, hg, hw', ⟨hdead, h⟩ | ⟨w'', hretain, h⟩⟩
  · rw [he]
    exact .same (fun _ => by cases value <;> rfl) rfl
  · rw [h]
    have hnone : w.heap.live? r = none := by
      subst hw'
      simpa [retain] using hdead
    exact .unbound rt g replaced hrt hg hnone (by simp [hw']) (by simp [hw'])
  · rw [h]
    obtain ⟨c, hc, rfl⟩ := retain_eq_some_iff.1 hretain
    subst hw'
    rw [heap_reportOverwrite, heap_setRegistry] at hc
    exact .bound rt g replaced c hrt hg hc (by simp) (by simp)

theorem release_outcome {w : World κ} {i : RuntimeId} {g : Registry κ} {r : Ref} {c : Cell κ}
    (hc : w.heap.live? r = some c) :
    Outcome w (.on i (.release (some r))) (w.release i g r).1 (w.release i g r).2 := by
  have hruntimes := w.runtimes_release i g r
  rcases w.release_cases i g r hc with ⟨⟨reply, h⟩, hheap | ⟨hone, hheap⟩⟩ |
    ⟨run, h, hrole, hr, hone, hheap⟩
  · exact h ▸ .released c hc hheap hruntimes
  · exact h ▸ .reclaimed c hc hone hheap hruntimes
  · exact h ▸ .destroying c hc hone hrole hr hheap hruntimes

theorem apply_outcome (w : World κ) (i : RuntimeId) (rt : Runtime κ) (callee : Pointer)
    (args : List Pointer) :
    Outcome w (.on i (.apply callee args)) (w.apply i rt callee args).1
      (w.apply i rt callee args).2 := by
  obtain ⟨⟨journal, h⟩, hnext, henter⟩ := w.apply_frame i rt callee args
  refine .plain (by rw [h]) (by rw [h]) (by rw [h]) (fun _ => rfl) ?_
  generalize (w.apply i rt callee args).2 = turn at hnext henter
  cases turn with
  | done reply => rfl
  | halt ending => rfl
  | next request p => exact absurd rfl (hnext request p)
  | enter run => simp [Turn.isPlain, henter run rfl]

theorem newObject_outcome {w : World κ} {request : Request κ} {c : Cell κ}
    {made : World κ × Except Failure Ref}
    (h : made.1.runtimes = w.runtimes ∧ ((∃ e, made.2 = .error e ∧ made.1.heap = w.heap) ∨
      made.2 = .ok w.heap.nextObject ∧ made.1.heap = w.heap.addObject c))
    (hone : c.count = 1) (hlive : c.released = false)
    (hentries : ∀ back turn, request.entries w back turn = []) (hmakes : request.Makes c) :
    Outcome w request made.1 (objectReply made.2) := by
  obtain ⟨hruntimes, ⟨e, he, hheap⟩ | ⟨hr, hheap⟩⟩ := h
  · rw [he]
    exact .plain (by rw [hheap]) (by rw [hheap]) hruntimes (fun back => hentries back _) rfl
  · rw [hr]
    exact .made c hone hlive hheap hruntimes (fun back => hentries back _) hmakes

theorem operate_outcome {w : World κ} {i : RuntimeId} {rt : Runtime κ}
    (hrt : w.runtimes[i]? = some rt) (op : Operation κ) :
    Outcome w (.on i op) (w.operate i rt op).1 (w.operate i rt op).2 := by
  cases op with
  | register kind =>
    exact writeRegistry_outcome hrt (fun _ _ => rfl) fun g hg _ _ _ =>
      Registry.member_of_register hg
  | setDestructor kind slot =>
    exact writeRegistry_outcome hrt (fun _ _ => rfl) fun g hg _ _ _ =>
      Registry.member_of_setDestructor hg
  | setApply kind slot =>
    exact writeRegistry_outcome hrt (fun _ _ => rfl) fun g hg _ _ _ =>
      Registry.member_of_setApply hg
  | setMember kind name value => exact setMember_outcome hrt kind name value
  | newObject kind payload =>
    simp only [operate]
    split
    · exact newObject_outcome (w.createObject_cases kind payload) rfl rfl (fun _ _ => rfl) rfl
    · exact .same (fun _ => rfl) rfl
  | nil =>
    cases h : w.retain (.nil i) with
    | none => simpa [operate, orFault, h] using .same (fun _ => rfl) rfl
    | some w' =>
      obtain ⟨c, hc, rfl⟩ := retain_eq_some_iff.1 h
      simp only [operate, orFault, h, Option.map_some, Option.getD_some]
      exact .taken .nil (.nil i) c rfl ⟨by grind, rfl⟩ hc rfl rfl fun _ => rfl
  | retain object =>
    cases object with
    | none => exact .same (fun _ => rfl) rfl
    | some r =>
      cases h : w.retain r with
      | none => simpa [operate, orFault, h] using .same (fun _ => rfl) rfl
      | some w' =>
        obtain ⟨c, hc, rfl⟩ := retain_eq_some_iff.1 h
        simp only [operate, orFault, h, Option.map_some, Option.getD_some]
        exact .taken .retain r c rfl rfl hc rfl rfl fun _ => rfl
  | release object =>
    cases object with
    | none => exact .same (fun _ => rfl) rfl
    | some r =>
      cases hc : w.heap.live? r with
      | none => simpa [operate, release, hc] using .same (fun _ => rfl) rfl
      | some c => exact release_outcome hc
  | lookup object name =>
    cases object with
    | none => exact .same (fun _ => rfl) rfl
    | some o =>
      rcases w.lookup_cases rt.registry o name with h | ⟨c, hc, ⟨e, -, h⟩ | ⟨r, w', hm, hr, h⟩⟩
      · simpa [operate, orFault, h] using .same (fun _ => rfl) rfl
      · simpa [operate, orFault, h] using .same (fun _ => rfl) rfl
      · obtain ⟨c', hc', rfl⟩ := retain_eq_some_iff.1 hr
        simp only [operate, orFault, h, Option.map_some, Option.getD_some]
        exact .taken .lookup r c' rfl ⟨rt, o, c, hrt, rfl, hc, hm⟩ hc' rfl rfl fun _ => rfl
  | apply callee args => exact w.apply_outcome i rt callee args
  | methodCall object name args =>
    rcases w.methodCall_cases i rt.registry object name args with h | ⟨e, h⟩ |
      ⟨o, c, r, w', ho, hc, hm, hr, h⟩
    · simpa [operate, h] using .same (fun _ => rfl) rfl
    · simpa [operate, h] using .same (fun _ => rfl) rfl
    · obtain ⟨c', hc', rfl⟩ := retain_eq_some_iff.1 hr
      simp only [operate, h]
      exact .method r c' ⟨rt, o, c, hrt, ho, hc, hm⟩ hc' rfl rfl

theorem borrow_outcome {w : World κ} {request : Request κ} {r : Ref} (cause : Cause)
    (i : RuntimeId) (hcause : cause.handsOut = true) (hreach : request.Reaches w r)
    (hentries : ∀ back reply, request.entries w back (.done reply) = [⟨cause, r⟩])
    (hfault : ∀ back, request.entries w back (.halt .fault) = []) :
    Outcome w request (w.borrow i r).1 (w.borrow i r).2 := by
  unfold borrow
  cases h : w.retain r with
  | none => exact .same hfault rfl
  | some w' =>
    obtain ⟨c, hc, rfl⟩ := retain_eq_some_iff.1 h
    exact .taken cause r c hcause hreach hc rfl rfl fun back => hentries back _

theorem operateHandle_outcome (w : World κ) (op : HandleOperation) :
    Outcome w (.handle op) (w.operateHandle op).1 (w.operateHandle op).2 := by
  cases op with
  | adopt i object =>
    cases object with
    | none => exact .same (fun _ => rfl) rfl
    | some r => exact .plain rfl rfl rfl (fun _ => rfl) rfl
  | borrow i object =>
    cases object with
    | none => exact .same (fun _ => rfl) rfl
    | some r =>
      exact borrow_outcome .borrow i rfl rfl (fun _ _ => rfl) fun _ => rfl
  | nil i => exact borrow_outcome .nil i rfl rfl (fun _ _ => rfl) fun _ => rfl
  | clone h =>
    cases hh : w.handle? h with
    | none => simpa [operateHandle, hh] using .same (fun _ => rfl) rfl
    | some handle =>
      simp only [operateHandle, hh]
      exact borrow_outcome .clone _ rfl ⟨handle, hh, rfl⟩
        (fun _ _ => by simp [Request.entries, hh]) fun _ => rfl
  | object h | runtime h | drop h | intoPointer h | lookup h name =>
    cases hh : w.handle? h <;> simp only [operateHandle, hh] <;>
      exact .plain rfl rfl rfl (fun _ => rfl) rfl
  | call h args | methodCall h name args =>
    cases hh : w.handle? h <;> cases ha : w.handleArgs args <;>
      simp only [operateHandle, hh, ha] <;> exact .plain rfl rfl rfl (fun _ => rfl) rfl

theorem sharedRuntime_outcome {w w' : World κ} (w₀ : World κ) {request : Request κ} {turn : Turn κ}
    (h₀ : w₀.heap = w.heap ∧ w₀.runtimes = w.runtimes)
    (h' : w'.heap = w₀.sharedRuntime.1.heap ∧ w'.runtimes = w₀.sharedRuntime.1.runtimes)
    (hentries : ∀ back turn, request.entries w back turn = []) (hturn : turn.isPlain = true) :
    Outcome w request w' turn := by
  rcases w₀.sharedRuntime_cases with ⟨i, -, h⟩ |
    ⟨-, ⟨e, -, hheap, hruntimes⟩ | ⟨-, hheap, hruntimes⟩⟩
  · rw [h] at h'
    exact .plain (by rw [h'.1, h₀.1]) (by rw [h'.1, h₀.1]) (by rw [h'.2, h₀.2])
      (fun back => hentries back _) hturn
  · exact .plain (by rw [h'.1, hheap, h₀.1]) (by rw [h'.1, hheap, h₀.1])
      (by rw [h'.2, hruntimes, h₀.2]) (fun back => hentries back _) hturn
  · exact .started _ (by rw [h'.1, hheap, h₀.1]) (by rw [h'.2, hruntimes, h₀.2])
      (fun back => hentries back _) hturn

theorem onShared_outcome {w : World κ} (w₀ : World κ) {request : Request κ}
    (h₀ : w₀.heap = w.heap ∧ w₀.runtimes = w.runtimes)
    (hentries : ∀ back turn, request.entries w back turn = []) (op : Operation κ) :
    Outcome w request (w₀.onShared op).1 (w₀.onShared op).2 := by
  rcases w₀.onShared_cases op with ⟨i, -, h⟩ | ⟨e, -, h⟩
  · rw [h]
    exact sharedRuntime_outcome w₀ h₀ ⟨rfl, rfl⟩ hentries rfl
  · rw [h]
    exact sharedRuntime_outcome w₀ h₀ ⟨rfl, rfl⟩ hentries rfl

theorem inspect_outcome {w : World κ} {request : Request κ} (r : Ref) (f : Cell κ → Value κ)
    (hentries : ∀ back turn, request.entries w back turn = []) :
    Outcome w request (w.inspect r f).1 (w.inspect r f).2 := by
  unfold inspect
  split <;> exact .same (fun back => hentries back _) rfl

theorem call_outcome (w : World κ) (call : ForeignCall κ) :
    Outcome w (.foreign call) (w.call call).1 (w.call call).2 := by
  have hentries : ∀ back turn, (Request.foreign call).entries w back turn = [] := fun _ _ => rfl
  have hfatal (e : Failure) : Outcome w (.foreign call) (w.fatal e.message).1
      (w.fatal e.message).2 := .plain rfl rfl rfl (fun _ => rfl) rfl
  have hshared (w₀ : World κ) (h₀ : w₀.heap = w.heap ∧ w₀.runtimes = w.runtimes)
      (op : Operation κ) : Outcome w (.foreign call) (w₀.onShared op).1 (w₀.onShared op).2 :=
    onShared_outcome w₀ h₀ hentries op
  cases call with
  | register | setDestructor | setApply | newObject | nil | retain | release =>
    exact hshared w ⟨rfl, rfl⟩ _
  | setMember kind name value | lookup object name =>
    simp only [World.call, onSharedWith]
    split
    · exact hshared w ⟨rfl, rfl⟩ _
    · exact hfatal _
  | apply callee args =>
    simp only [World.call]
    split
    · exact hfatal _
    · exact hshared (w.emit _) ⟨rfl, rfl⟩ _
  | methodCall object name args =>
    simp only [World.call]
    split
    · exact hfatal _
    · split
      · exact hfatal _
      · exact hshared (w.emit _) ⟨rfl, rfl⟩ _
  | createFunction entry =>
    cases entry with
    | none => exact hfatal _
    | some code => exact .same (fun _ => rfl) rfl
  | count object | kind object =>
    cases object with
    | none => exact .same (fun _ => rfl) rfl
    | some r => exact inspect_outcome r _ hentries
  | panic message => cases message <;> exact .plain rfl rfl rfl (fun _ => rfl) rfl
  | startUp =>
    simp only [World.call]
    split
    next w' i h =>
      exact sharedRuntime_outcome w ⟨rfl, rfl⟩ ⟨by rw [h]; rfl, by rw [h]; rfl⟩ hentries rfl
    next w' e h =>
      exact sharedRuntime_outcome w ⟨rfl, rfl⟩ ⟨by rw [h]; rfl, by rw [h]; rfl⟩ hentries rfl
  | cleanup => exact .plain rfl rfl rfl (fun _ => rfl) rfl

theorem serve_outcome (w : World κ) (s : Service κ) :
    Outcome w (.service s) (w.serve s).1 (w.serve s).2 := by
  have hentries : ∀ back turn, (Request.service s).entries w back turn = [] := fun _ _ => rfl
  cases s with
  | startRuntime cap =>
    rcases w.startRuntime_cases cap with ⟨e, he, hheap, hruntimes⟩ | ⟨hi, hheap, hruntimes⟩
    · exact .plain (congrArg Heap.nils hheap) (congrArg Heap.objects hheap) hruntimes
        (fun _ => rfl) (by simp [serve, he, runtimeReply, Turn.isPlain])
    · exact .started cap hheap hruntimes (fun _ => rfl)
        (by simp [serve, hi, runtimeReply, Turn.isPlain])
  | sharedRuntime =>
    simp only [serve]
    split
    next w' i h =>
      exact sharedRuntime_outcome w ⟨rfl, rfl⟩ ⟨by rw [h], by rw [h]⟩ hentries rfl
    next w' e h =>
      exact sharedRuntime_outcome w ⟨rfl, rfl⟩ ⟨by rw [h]; rfl, by rw [h]; rfl⟩ hentries rfl
  | createObject kind payload =>
    exact newObject_outcome (w.createObject_cases kind payload) rfl rfl hentries rfl
  | createFunction code =>
    exact newObject_outcome (w.createFunction_cases code) rfl rfl hentries rfl
  | freeObject object =>
    cases object with
    | none => exact .same (fun _ => rfl) rfl
    | some r =>
      cases h : w.freeObject r with
      | none => simpa [serve, orFault, h] using .same (fun _ => rfl) rfl
      | some w' =>
        obtain ⟨c, hc, rfl⟩ := freeObject_eq_some_iff.1 h
        simp only [serve, orFault, h, Option.map_some, Option.getD_some]
        exact .freed c hc rfl rfl
  | allocate size =>
    obtain ⟨_, _, hw⟩ := w.allocate_frame size (.block w.heap.nextBlock)
    simp only [serve, allocateBlock]
    rcases ha : w.allocate size (.block w.heap.nextBlock) with ⟨w', _ | _⟩
    · rw [ha] at hw
      subst hw
      exact .plain rfl rfl rfl (fun _ => rfl) rfl
    · rw [ha] at hw
      subst hw
      exact .plain rfl rfl rfl (fun _ => rfl) rfl
  | freeBlock block =>
    cases block with
    | none => exact .same (fun _ => rfl) rfl
    | some b =>
      simp only [serve, freeBlock]
      split
      · exact .plain rfl rfl rfl (fun _ => rfl) rfl
      · exact .same (fun _ => rfl) rfl
  | count r | kind r | payload r => exact inspect_outcome r _ hentries
  | setCount r n =>
    simp only [serve, amend]
    split
    next c hc => exact .recounted c hc rfl rfl
    · exact .same (fun _ => rfl) rfl
  | write r start bytes =>
    simp only [serve, amend]
    split
    next c hc => exact .written c hc rfl rfl
    · exact .same (fun _ => rfl) rfl
  | requireRuntime | installed | traffic | loggingStarted | isReleased =>
    exact .same (fun _ => rfl) rfl
  | install | startLogging | startLoggingWith | stopLogging | fatal =>
    exact .plain rfl rfl rfl (fun _ => rfl) rfl

/-- **The list of outcomes is complete.**  Every request has an `Outcome`, with the turn that it
takes. -/
theorem perform_outcome (w : World κ) (request : Request κ) :
    Outcome w request (w.perform request).1 (w.perform request).2 := by
  cases request with
  | on i op =>
    cases h : w.runtimes[i]? with
    | none =>
      have hw : w.perform (.on i op) = (w, .halt .fault) := by simp [perform, h]
      rw [hw]
      refine .same (fun back => ?_) rfl
      cases op with
      | retain object | release object => cases object <;> rfl
      | setMember kind name value => cases value <;> rfl
      | _ => rfl
    | some rt =>
      have hw : w.perform (.on i op) = w.operate i rt op := by simp [perform, h]
      rw [hw]
      exact operate_outcome h op
  | query i query =>
    simp only [perform]
    split <;> exact .same (fun _ => rfl) rfl
  | handle op => exact w.operateHandle_outcome op
  | foreign call => exact w.call_outcome call
  | service s => exact w.serve_outcome s

end World

end ObjectRuntime
