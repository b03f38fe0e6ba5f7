import ObjectRuntime.Request
/-!
# Dispatch

Members are found by the kind of the receiver (`lookup`).  An application (`apply`) goes to the
direct slot of the callee's kind; where there is none the kind's call member takes the callee's
place, hop by hop (`resolve`), until a direct slot is found, something is missing, or the cap is
reached.
-/

namespace ObjectRuntime

variable {κ : Type}

/-- What the kind of a callee makes of an application. -/
inductive Hop (κ : Type) where
  | land (target : Callable κ)
  | via (next : Ref)
  | fail (e : Failure)
  deriving Repr

def Registry.hop (g : Registry κ) (kind : KindId) : Hop κ :=
  match g.find kind with
  | .error e => .fail e
  | .ok d =>
    match d.apply with
    | .direct target => .land target
    | .viaCallMember =>
      match d.members.get? callMember with
      | some next => .via next
      | none => .fail (.uncallable kind)

inductive Resolution (κ : Type) where
  /-- A direct slot takes it, with this receiver of this kind, after so many hops. -/
  | land (receiver : Ref) (kind : KindId) (target : Callable κ) (hops : Nat)
  | fail (e : Failure)
  /-- There are more hops than were allowed. -/
  | exhausted
  /-- A receiver on the way was given back. -/
  | fault
  deriving Repr

/-- Follows call members from `r`, which is `hops` hops from the callee, for at most `budget`
hops. -/
def resolve (heap : Heap κ) (g : Registry κ) (budget : Nat) (r : Ref) (hops : Nat) :
    Resolution κ :=
  match heap.live? r with
  | none => .fault
  | some cell =>
    match g.hop cell.kind with
    | .land target => .land r cell.kind target hops
    | .fail e => .fail e
    | .via next =>
      match budget with
      | 0 => .exhausted
      | budget + 1 => resolve heap g budget next (hops + 1)

/-- How many hops can be taken before it is clear how an application ends: as many as the cap
allows, or, without a cap, one for each registered kind, after which some kind occurs a second
time. -/
def Runtime.hopBudget (rt : Runtime κ) : Nat :=
  match rt.cap with
  | some n => n.toNat
  | none => rt.registry.size

/-- How an application ends that takes more hops than its budget. -/
def Runtime.exhausted (rt : Runtime κ) : Turn κ :=
  match rt.cap with
  | some n => .done (.error (.callDepthExceeded n))
  | none => .halt .endless

/-- The largest argument count that the C convention can pass. -/
def maxNativeArgs : Nat := 0x7FFFFFFF

namespace World

/-- Starts native code, which can be passed only so many arguments. -/
def enterNative (code : κ) (receiver : Ref) (args : List Pointer) : Turn κ :=
  if args.length ≤ maxNativeArgs then .enter { code, role := .nativeApply, receiver, args }
  else .done (.error (.invalidArgCount args.length))

def start (w : World κ) (i : RuntimeId) (target : Callable κ) (receiver : Ref)
    (args : List Pointer) : Turn κ :=
  match target with
  | .closure code => .enter { code, role := .closureApply i, receiver, args }
  | .native (.host code) => enterNative code receiver args
  | .native .stock =>
    match w.heap.live? receiver with
    | some { body := .code code, .. } => enterNative code receiver args
    | _ => .halt .fault

def apply (w : World κ) (i : RuntimeId) (rt : Runtime κ) (callee : Pointer)
    (args : List Pointer) : World κ × Turn κ :=
  match callee with
  | none => (w, .done (.error (.nullObject "apply")))
  | some r =>
    match resolve w.heap rt.registry rt.hopBudget r 0 with
    | .land receiver kind target hops =>
      let w := w.emit (.apply kind args.length hops)
      (w, w.start i target receiver args)
    | .fail e => (w, .done (.error e))
    | .exhausted => (w, rt.exhausted)
    | .fault => (w, .halt .fault)

/-- Looks a member up and takes a reference to it; nothing if an object in use was given back. -/
def lookup (w : World κ) (registry : Registry κ) (r : Ref) (name : String) :
    Option (World κ × Except Failure Ref) :=
  (w.heap.live? r).bind fun cell =>
    match registry.member cell.kind name with
    | .error e => some (w, .error e)
    | .ok member =>
      (w.retain member).map fun w => (w.emit (.lookup cell.kind name), .ok member)

/-- Calls a method: the member is looked up, applied to the arguments alone, and released. -/
def methodCall (w : World κ) (i : RuntimeId) (registry : Registry κ) (object : Pointer)
    (name : String) (args : List Pointer) : World κ × Turn κ :=
  match object with
  | none => (w, .done (.error (.nullObject "method_call")))
  | some r =>
    match w.heap.live? r, w.lookup registry r name with
    | some cell, some (w, .ok method) =>
      (w.emit (.methodCall cell.kind name args.length),
        .next (.on i (.apply (some method) args)) (.releaseMethod i method))
    | some _, some (w, .error e) => (w, .done (.error e))
    | _, _ => (w, .halt .fault)

/-! ## How dispatch goes on -/

theorem lookup_cases (w : World κ) (g : Registry κ) (r : Ref) (name : String) :
    w.lookup g r name = none ∨ ∃ c, w.heap.live? r = some c ∧
      ((∃ e, g.member c.kind name = .error e ∧ w.lookup g r name = some (w, .error e)) ∨
        ∃ member w', g.member c.kind name = .ok member ∧ w.retain member = some w' ∧
          w.lookup g r name = some (w'.emit (.lookup c.kind name), .ok member)) := by
  unfold lookup
  cases hc : w.heap.live? r with
  | none => exact .inl rfl
  | some c =>
    cases hm : g.member c.kind name with
    | error e => exact .inr ⟨c, rfl, .inl ⟨e, hm, by simp [hm]⟩⟩
    | ok member =>
      cases hr : w.retain member with
      | none => exact .inl (by simp [hm, hr])
      | some w' => exact .inr ⟨c, rfl, .inr ⟨member, w', hm, hr, by simp [hm, hr]⟩⟩

/-- A method call touches storage that was given back, or fails and changes nothing, or takes a
reference to the method and goes on with its application. -/
theorem methodCall_cases (w : World κ) (i : RuntimeId) (g : Registry κ) (object : Pointer)
    (name : String) (args : List Pointer) :
    w.methodCall i g object name args = (w, .halt .fault) ∨
      (∃ e, w.methodCall i g object name args = (w, .done (.error e))) ∨
      ∃ r c method w', object = some r ∧ w.heap.live? r = some c ∧
        g.member c.kind name = .ok method ∧ w.retain method = some w' ∧
        w.methodCall i g object name args =
          ((w'.emit (.lookup c.kind name)).emit (.methodCall c.kind name args.length),
            .next (.on i (.apply (some method) args)) (.releaseMethod i method)) := by
  unfold methodCall
  cases object with
  | none => exact .inr (.inl ⟨_, rfl⟩)
  | some r =>
    rcases w.lookup_cases g r name with h | ⟨c, hc, ⟨e, he, h⟩ | ⟨method, w', hm, hr, h⟩⟩
    · left
      simp only [h]
      split <;> simp_all
    · exact .inr (.inl ⟨e, by simp [hc, h]⟩)
    · exact .inr (.inr ⟨r, c, method, w', rfl, hc, hm, hr, by simp [hc, h]⟩)

theorem enterNative_role {code : κ} {receiver : Ref} {args : List Pointer} {run : Invocation κ}
    (h : enterNative code receiver args = .enter run) : run.role = .nativeApply := by
  unfold enterNative at h
  split at h
  · cases h
    rfl
  · cases h

theorem apply_frame (w : World κ) (i : RuntimeId) (rt : Runtime κ) (callee : Pointer)
    (args : List Pointer) :
    (∃ journal, (w.apply i rt callee args).1 = { w with journal }) ∧
      (∀ request p, (w.apply i rt callee args).2 ≠ .next request p) ∧
      ∀ run, (w.apply i rt callee args).2 = .enter run → run.role.isDestructor = false := by
  have hnative : ∀ (code : κ) receiver,
      (∀ request p, enterNative code receiver args ≠ .next request p) ∧
      ∀ run, enterNative code receiver args = .enter run → run.role.isDestructor = false := by
    intro code receiver
    refine ⟨fun request p h => ?_, fun run h => by rw [enterNative_role h]; rfl⟩
    unfold enterNative at h
    split at h <;> cases h
  unfold apply
  split
  · exact ⟨⟨_, rfl⟩, by simp, by simp⟩
  · split
    · refine ⟨⟨_, rfl⟩, ?_⟩
      dsimp only
      unfold start
      split
      · exact ⟨by simp, by simp [Role.isDestructor]⟩
      · exact hnative _ _
      · split
        · exact hnative _ _
        · exact ⟨by simp, by simp⟩
    · exact ⟨⟨_, rfl⟩, by simp, by simp⟩
    · refine ⟨⟨_, rfl⟩, ?_⟩
      unfold Runtime.exhausted
      split <;> exact ⟨by simp, by simp⟩
    · exact ⟨⟨_, rfl⟩, by simp, by simp⟩

end World

end ObjectRuntime
