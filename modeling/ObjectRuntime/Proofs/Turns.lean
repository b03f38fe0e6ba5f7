import ObjectRuntime.Foreign
import ObjectRuntime.Handles
import ObjectRuntime.Machine
/-!
# How requests go on

Only operations of a runtime start host code, and they do not abort the process (`perform_cases`).
Everything else is done at once, ends the run, or is handed on to something that a runtime does or
that makes a function object or a runtime (`perform_next_isDelegate`); and where the process
aborts, it says a failure, or what the host gave as the text.
-/

namespace ObjectRuntime

variable {κ : Type}

/-! ## How operations of a runtime go on -/

/-- Whether an operation of a runtime can go on like this: only a release starts a destructor, only
an application starts other host code, and none aborts the process. -/
def Turn.Fits (op : Operation κ) : Turn κ → Prop
  | .done _ | .next _ _ => True
  | .enter run => if run.role.isDestructor then ∃ r, op = .release (some r)
    else ∃ r args, op = .apply (some r) args
  | .halt ending => ∀ message, ending ≠ .aborted message

namespace World

theorem start_fits (w : World κ) (i : RuntimeId) (target : Callable κ) (r receiver : Ref)
    (args : List Pointer) : (w.start i target receiver args).Fits (.apply (some r) args) := by
  have hnative (code : κ) : (enterNative code receiver args).Fits (.apply (some r) args) := by
    unfold enterNative
    split
    · exact ⟨r, args, rfl⟩
    · trivial
  unfold start
  split
  · exact ⟨r, args, rfl⟩
  · exact hnative _
  · split
    · exact hnative _
    · intro message h
      cases h

theorem apply_fits (w : World κ) (i : RuntimeId) (rt : Runtime κ) (r : Ref) (args : List Pointer) :
    (w.apply i rt (some r) args).2.Fits (.apply (some r) args) := by
  unfold apply
  dsimp only
  split
  · exact start_fits _ i _ r _ args
  · trivial
  · unfold Runtime.exhausted
    split
    · trivial
    · intro message h
      cases h
  · intro message h
    cases h

theorem release_fits (w : World κ) (i : RuntimeId) (g : Registry κ) (r : Ref) :
    (w.release i g r).2.Fits (.release (some r)) := by
  cases hc : w.heap.live? r with
  | none =>
    rw [release, hc]
    intro message h
    cases h
  | some c =>
    rcases w.release_cases i g r hc with ⟨⟨reply, h⟩, -⟩ | ⟨run, h, hrole, -⟩
    · rw [h]
      trivial
    · rw [h, Turn.Fits, if_pos hrole]
      exact ⟨r, rfl⟩

theorem orFault_fits (w : World κ) (p : Option (World κ × Turn κ)) (op : Operation κ)
    (h : ∀ v turn, p = some (v, turn) → turn.Fits op) : (w.orFault p).2.Fits op := by
  cases p with
  | none =>
    intro message h
    cases h
  | some result => exact h result.1 result.2 rfl

theorem operate_fits (w : World κ) (i : RuntimeId) (rt : Runtime κ) (op : Operation κ) :
    (w.operate i rt op).2.Fits op := by
  have hwrite (e : Event κ) (change : Except Failure (Registry κ)) :
      (w.writeRegistry i e change).2.Fits op := by
    cases change <;> trivial
  have hreply (result : Except Failure Ref) : (objectReply result).Fits op := by
    cases result <;> trivial
  have hretain (r : Ref) (reply : Reply κ) :
      (w.orFault ((w.retain r).map (·, .done reply))).2.Fits op := by
    refine w.orFault_fits _ op fun v turn h => ?_
    obtain ⟨u, -, h⟩ := Option.map_eq_some_iff.1 h
    cases h
    trivial
  cases op with
  | register | setDestructor | setApply => exact hwrite _ _
  | setMember kind name value =>
    rcases w.setMember_cases i rt.registry kind name value with
      ⟨e, h⟩ | ⟨_, _, _, _, -, -, -, ⟨-, h⟩ | ⟨_, -, h⟩⟩
    · rw [operate, h]
      trivial
    · rw [operate, h]
      intro message h
      cases h
    · rw [operate, h]
      trivial
  | newObject kind payload =>
    simp only [operate]
    split
    · exact hreply _
    · trivial
  | nil => exact hretain _ _
  | retain object =>
    cases object with
    | none => trivial
    | some r => exact hretain r _
  | release object =>
    cases object with
    | none => trivial
    | some r => exact w.release_fits i _ r
  | lookup object name =>
    cases object with
    | none => trivial
    | some r =>
      refine w.orFault_fits _ _ fun v turn h => ?_
      obtain ⟨found, -, h⟩ := Option.map_eq_some_iff.1 h
      cases h
      exact hreply _
  | apply callee args =>
    cases callee with
    | none => trivial
    | some r => exact w.apply_fits i rt r args
  | methodCall object name args =>
    rcases w.methodCall_cases i rt.registry object name args with
      h | ⟨e, h⟩ | ⟨_, _, method, _, -, -, -, -, h⟩
    · rw [operate, h]
      intro message h
      cases h
    · rw [operate, h]
      trivial
    · rw [operate, h]
      trivial

end World

/-! ## How everything else goes on -/

/-- Whether a request can be what another one is handed on to. -/
def Request.IsDelegate : Request κ → Prop
  | .on _ _ | .service (.createFunction _) | .service (.startRuntime _) => True
  | _ => False

/-- Whether a request is to abort the process with a text that the host gives. -/
def Request.givesText : Request κ → Bool
  | .service (.fatal _) | .foreign (.panic _) => true
  | _ => false

/-- Whether a request that starts no host code itself can go on like this: it is handed on to a
delegate only, and it aborts the process because of a failure, unless the host gives the text. -/
def Turn.Delegates (givesText : Bool) : Turn κ → Prop
  | .done _ => True
  | .next request _ => request.IsDelegate
  | .enter _ => False
  | .halt (.aborted text) => givesText = true ∨ ∃ e : Failure, text = e.message
  | .halt _ => True

namespace World

variable (w : World κ) (givesText : Bool)

theorem fatal_delegates (e : Failure) : (w.fatal e.message).2.Delegates givesText := .inr ⟨e, rfl⟩

theorem orFault_delegates (p : Option (World κ)) (reply : Reply κ) :
    (w.orFault (p.map (·, .done reply))).2.Delegates givesText := by
  cases p <;> trivial

theorem inspect_delegates (r : Ref) (f : Cell κ → Value κ) :
    (w.inspect r f).2.Delegates givesText := by
  unfold inspect
  split <;> trivial

theorem amend_delegates (r : Ref) (f : Cell κ → Cell κ) : (w.amend r f).2.Delegates givesText := by
  unfold amend
  split <;> trivial

theorem operateHandle_delegates (op : HandleOperation) :
    (w.operateHandle op).2.Delegates givesText := by
  have hborrow (i : RuntimeId) (r : Ref) : (w.borrow i r).2.Delegates givesText := by
    unfold borrow
    split <;> trivial
  cases op with
  | adopt i object => cases object <;> trivial
  | borrow i object =>
    cases object with
    | none => trivial
    | some r => exact hborrow i r
  | nil i => exact hborrow i _
  | clone handle =>
    simp only [operateHandle]
    split
    · exact hborrow _ _
    · trivial
  | object | runtime | drop | intoPointer | lookup | call | methodCall =>
    simp only [operateHandle]
    split <;> trivial

theorem onShared_delegates (op : Operation κ) : (w.onShared op).2.Delegates givesText := by
  rcases w.onShared_cases op with ⟨i, -, h⟩ | ⟨e, -, h⟩
  · rw [h]
    trivial
  · rw [h]
    exact fatal_delegates _ _ e

theorem onSharedWith_delegates {α : Type} (decoded : Except Failure α) (op : α → Operation κ) :
    (w.onSharedWith decoded op).2.Delegates givesText := by
  cases decoded with
  | ok a => exact w.onShared_delegates _ (op a)
  | error e => exact w.fatal_delegates _ e

theorem call_delegates (call : ForeignCall κ) :
    (w.call call).2.Delegates (Request.foreign call).givesText := by
  cases call with
  | register | setDestructor | setApply | newObject | nil | retain | release =>
    exact w.onShared_delegates _ _
  | setMember | lookup => exact w.onSharedWith_delegates _ _ _
  | apply callee args =>
    simp only [World.call]
    split
    · exact w.fatal_delegates _ _
    · exact onShared_delegates _ _ _
  | methodCall object name args =>
    simp only [World.call]
    split
    · exact w.fatal_delegates _ _
    · split
      · exact w.fatal_delegates _ _
      · exact onShared_delegates _ _ _
  | createFunction entry =>
    cases entry with
    | none => exact w.fatal_delegates _ _
    | some code => trivial
  | count object | kind object =>
    cases object with
    | none => trivial
    | some r => exact w.inspect_delegates _ r _
  | panic message => cases message <;> exact .inl rfl
  | startUp =>
    simp only [World.call]
    split
    · trivial
    · exact fatal_delegates _ _ _
  | cleanup => trivial

theorem serve_delegates (service : Service κ) :
    (w.serve service).2.Delegates (Request.service service).givesText := by
  cases service with
  | startRuntime cap =>
    simp only [serve, runtimeReply]
    split <;> trivial
  | sharedRuntime =>
    simp only [serve]
    split
    · trivial
    · exact fatal_delegates _ _ _
  | createObject | createFunction =>
    simp only [serve, objectReply]
    split <;> trivial
  | freeObject object =>
    cases object with
    | none => trivial
    | some r => exact w.orFault_delegates _ _ _
  | freeBlock block =>
    cases block with
    | none => trivial
    | some b => exact w.orFault_delegates _ _ _
  | fatal message => exact .inl rfl
  | count r | kind r | payload r => exact w.inspect_delegates _ r _
  | setCount r n => exact w.amend_delegates _ r _
  | write r start bytes => exact w.amend_delegates _ r _
  | _ => trivial

variable {w}

/-- **A request is an operation of a runtime that there is, or starts no host code itself.** -/
theorem perform_cases (w : World κ) (request : Request κ) :
    (∃ i rt op, request = .on i op ∧ w.runtimes[i]? = some rt ∧
        (w.perform request).2 = (w.operate i rt op).2) ∨
      (w.perform request).2.Delegates request.givesText := by
  cases request with
  | on i op =>
    simp only [perform]
    cases hrt : w.runtimes[i]? with
    | some rt => exact .inl ⟨i, rt, op, rfl, hrt, rfl⟩
    | none => exact .inr trivial
  | query i query =>
    simp only [perform]
    cases w.runtimes[i]? <;> exact .inr trivial
  | handle op => exact .inr (w.operateHandle_delegates _ op)
  | foreign call => exact .inr (w.call_delegates call)
  | service service => exact .inr (w.serve_delegates service)

theorem resume_delegates (w : World κ) (reply : Reply κ) (p : Pending κ) :
    (w.resume reply p).2.Delegates false := by
  cases p with
  | releaseMethod i method => trivial
  | keep kept => cases reply <;> trivial
  | adopt i operation =>
    simp only [resume]
    split <;> trivial
  | orFatal =>
    cases reply with
    | ok value => trivial
    | error e => exact w.fatal_delegates _ e

theorem perform_enter {request : Request κ} {run : Invocation κ}
    (h : (w.perform request).2 = .enter run) :
    ∃ i rt op, request = .on i op ∧ w.runtimes[i]? = some rt ∧
      (w.operate i rt op).2 = .enter run := by
  rcases w.perform_cases request with ⟨i, rt, op, hrequest, hrt, hop⟩ | hdelegates
  · exact ⟨i, rt, op, hrequest, hrt, hop.symm.trans h⟩
  · rw [h] at hdelegates
    exact hdelegates.elim

/-- **Requests are handed on to delegates only** (`Request.IsDelegate`). -/
theorem perform_next_isDelegate {request next : Request κ} {p : Pending κ}
    (h : (w.perform request).2 = .next next p) : next.IsDelegate := by
  rcases w.perform_cases request with ⟨i, rt, op, -, -, hop⟩ | hdelegates
  -- The only operation that is handed on is a method call, which is an application then.
  · obtain ⟨object, name, args, method, -, rfl, -⟩ := operate_next (hop.symm.trans h)
    trivial
  · rw [h] at hdelegates
    exact hdelegates

theorem resume_next_isDelegate {reply : Reply κ} {p p' : Pending κ} {next : Request κ}
    (h : (w.resume reply p).2 = .next next p') : next.IsDelegate := by
  have hdelegates := w.resume_delegates reply p
  rw [h] at hdelegates
  exact hdelegates

end World

end ObjectRuntime
