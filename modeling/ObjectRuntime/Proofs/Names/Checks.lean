import ObjectRuntime.Proofs.History.Change
import ObjectRuntime.Proofs.Names.Call
import ObjectRuntime.Proofs.Names.Raw
/-!
# Checks

A call that passes a name looks at the name first.  A method call looks at its argument list next,
and only then at the receiver (`ChecksInOrder`).
-/

namespace ObjectRuntime

variable {κ σ φ : Type}

/-- The name that a call passes, if it passes one. -/
def ForeignCall.name? : ForeignCall κ → Option RawName
  | .setMember _ name _ | .lookup _ name | .methodCall _ name _ => some name
  | _ => none

namespace Registry

variable {g : Registry κ} {kind : KindId} {name : String}

theorem member_of_not_contains (h : g.contains kind = false) (name : String) :
    g.member kind name = .error (.unregisteredKind kind) := by
  rw [member, find_eq, h]
  rfl

theorem member_of_unbound (h : g.contains kind = true)
    (hunbound : ∀ r, g.member kind name ≠ .ok r) :
    g.member kind name = .error (.unregisteredMember kind name) := by
  simp only [member, find_eq, h, if_true] at hunbound ⊢
  cases hname : (g.entry kind).members.get? name with
  | none => rfl
  | some r => simp [hname] at hunbound

end Registry

namespace World

variable {w : World κ} {i : RuntimeId} {g : Registry κ} {r : Ref} {c : Cell κ} {name : String}
  {args : List Pointer}

theorem methodCall_of_error {e : Failure} (hc : w.heap.live? r = some c)
    (he : g.member c.kind name = .error e) :
    w.methodCall i g (some r) name args = (w, .done (.error e)) := by
  simp [methodCall, lookup, hc, he]

theorem methodCall_of_ok {method : Ref} (i : RuntimeId) (args : List Pointer)
    (hc : w.heap.live? r = some c) (hmethod : g.member c.kind name = .ok method)
    (hlive : (w.heap.live? method).isSome) :
    ∃ w', w.methodCall i g (some r) name args =
      (w', .next (.on i (.apply (some method) args)) (.releaseMethod i method)) := by
  obtain ⟨cm, hcm⟩ := Option.isSome_iff_exists.1 hlive
  simp [methodCall, lookup, retain, hc, hmethod, hcm]

end World

namespace Moment

variable {host : Host κ σ φ} {w w₁ w₂ : World κ} {s : σ} {call : ForeignCall κ} {i : RuntimeId}
  {op : Operation κ}

/-! ## Refused names -/

theorem call_of_not_wellFormed {name : RawName} (call : ForeignCall κ)
    (hname : call.name? = some name) (hill : ¬ name.WellFormed) :
    w.call call = w.fatal Failure.invalidName.message := by
  have hdecode := RawName.decode_of_not_wellFormed hill
  cases call with
  | setMember | lookup | methodCall =>
    cases hname
    simp only [World.call, World.onSharedWith, hdecode]
  | _ => cases hname

theorem refuses_of_name {name : RawName} (hname : call.name? = some name)
    (hill : ¬ name.WellFormed) : Refuses host w s call w .invalidName :=
  refuses_of_fatal (call_of_not_wellFormed call hname hill) (.refl w)

/-- What a method call checks once the shared runtime is there: that there is a receiver, that its
kind is registered, and that the kind has the member.  Then the member is applied. -/
structure ReceiverChecks (host : Host κ σ φ) (w : World κ) (s : σ) (call : ForeignCall κ)
    (base : World κ) (i : RuntimeId) (g : Registry κ) (object : Pointer) (text : String)
    (list : List Pointer) : Prop where
  null : object = none → Refuses host w s call base (.nullObject "method_call")
  kind : ∀ r c, object = some r → base.heap.live? r = some c → g.contains c.kind = false →
    Refuses host w s call base (.unregisteredKind c.kind)
  member : ∀ r c, object = some r → base.heap.live? r = some c → g.contains c.kind = true →
    (∀ method, g.member c.kind text ≠ .ok method) →
    Refuses host w s call base (.unregisteredMember c.kind text)
  passed : ∀ r c method, object = some r → base.heap.live? r = some c →
    g.member c.kind text = .ok method → (base.heap.live? method).isSome →
    ∃ w', (alone w s (.foreign call)).run host 2 =
      ⟨w', s, [.pending (.releaseMethod i method), .pending .orFatal],
        .perform (.on i (.apply (some method) list))⟩

/-- The checks of a method call take effect in this order: the name, the count, the array, and those
of the receiver.  Before the latter the shared runtime is started if need be. -/
structure ChecksInOrder (host : Host κ σ φ) (w : World κ) (s : σ) (object : Pointer)
    (name : RawName) (args : RawArgs) : Prop where
  illFormed : ¬ name.WellFormed → Refuses host w s (.methodCall object name args) w .invalidName
  negative : name.WellFormed → args.count < 0 →
    Refuses host w s (.methodCall object name args) w (.invalidArgCount args.count)
  array : name.WellFormed → 0 < args.count → args.array = none →
    Refuses host w s (.methodCall object name args) w (.nullObject "argument array")
  unstarted : name.WellFormed → ∀ list, args.Holds list → ∀ e, w.sharedRuntime.2 = .error e →
    Refuses host w s (.methodCall object name args) w.sharedRuntime.1 e
  receiver : ∀ text list i rt, name.encoded? = some (utf8Bytes text) → args.Holds list →
    w.sharedRuntime.2 = .ok i → w.sharedRuntime.1.runtimes[i]? = some rt →
    ReceiverChecks host w s (.methodCall object name args) w.sharedRuntime.1 i rt.registry object
      text list

section MethodCall

variable {object : Pointer} {name : RawName} {args : RawArgs} {text : String} {list : List Pointer}

theorem call_methodCall (object : Pointer) (hname : name.decode = .ok text)
    (hargs : args.decode = .ok list) :
    w.call (.methodCall object name args) =
      (w.emit (.foreignCall "obj_method_call" list.length)).onShared
        (.methodCall object text list) := by
  simp only [World.call, hname, hargs]

theorem refuses_of_args {e : Failure} (hname : name.WellFormed) (hargs : args.decode = .error e) :
    Refuses host w s (.methodCall object name args) w e := by
  obtain ⟨text, htext⟩ := RawName.wellFormed_iff.1 hname
  exact refuses_of_fatal (by simp only [World.call, htext, hargs]) (.refl w)

theorem receiverChecks (host : Host κ σ φ) (s : σ) {rt : Runtime κ} (object : Pointer)
    (hname : name.decode = .ok text) (hargs : args.decode = .ok list)
    (hi : w.sharedRuntime.2 = .ok i) (hrt : w.sharedRuntime.1.runtimes[i]? = some rt) :
    ReceiverChecks host w s (.methodCall object name args) w.sharedRuntime.1 i rt.registry object
      text list := by
  generalize hbase : w.sharedRuntime.1 = base
  rw [hbase] at hrt
  have hemit : w.JournalAside (w.emit (.foreignCall "obj_method_call" list.length)) := ⟨_, rfl⟩
  obtain ⟨haside, hsame⟩ := hemit.sharedRuntime
  have hcall := (call_methodCall object hname hargs).trans
    (onShared_of_ok (hsame.trans hi))
  rw [hbase] at haside
  obtain ⟨journal, hw⟩ := haside
  rw [hw] at hcall
  have hperform : ({ base with journal } : World κ).perform (.on i (.methodCall object text list)) =
      ({ base with journal } : World κ).methodCall i rt.registry object text list :=
    World.perform_on (w := { base with journal }) hrt _
  have herror {e : Failure} (h : ({ base with journal } : World κ).methodCall i rt.registry object
      text list = ({ base with journal }, .done (.error e))) :
      Refuses host w s (.methodCall object name args) base e :=
    refuses_of_error hcall (hperform.trans h) ⟨journal, rfl⟩
  refine ⟨?_, ?_, ?_, ?_⟩
  · rintro rfl
    exact herror rfl
  · rintro r c rfl hc hkind
    exact herror (World.methodCall_of_error hc (Registry.member_of_not_contains hkind text))
  · rintro r c rfl hc hkind hmember
    exact herror (World.methodCall_of_error hc (Registry.member_of_unbound hkind hmember))
  · rintro r c method rfl hc hmethod hlive
    obtain ⟨w', hnext⟩ := World.methodCall_of_ok (w := { base with journal }) i list
      hc hmethod hlive
    refine ⟨w', ?_⟩
    rw [run_succ, run_call host s hcall, step_perform host rfl, hperform.trans hnext]
    rfl

theorem checksInOrder (host : Host κ σ φ) (w : World κ) (s : σ) (object : Pointer)
    (name : RawName) (args : RawArgs) : ChecksInOrder host w s object name args where
  illFormed := refuses_of_name rfl
  negative hname hcount := refuses_of_args hname (RawArgs.decode_of_neg hcount)
  array hname hcount harray := refuses_of_args hname (RawArgs.decode_of_null hcount harray)
  unstarted hname list hargs e he := by
    obtain ⟨text, htext⟩ := RawName.wellFormed_iff.1 hname
    have hemit : w.JournalAside (w.emit (.foreignCall "obj_method_call" list.length)) := ⟨_, rfl⟩
    obtain ⟨haside, hsame⟩ := hemit.sharedRuntime
    exact refuses_of_fatal ((call_methodCall object htext (RawArgs.decode_of_holds hargs)).trans
      (onShared_of_error (hsame.trans he))) haside
  receiver text list i rt htext hargs hi hrt :=
    receiverChecks host s object (RawName.decode_eq_ok_iff.2 htext) (RawArgs.decode_of_holds hargs)
      hi hrt

end MethodCall

end Moment

end ObjectRuntime
