import ObjectRuntime.Proofs.Names.Binding
import ObjectRuntime.Proofs.Names.Checks
import ObjectRuntime.Proofs.Storage
/-!
# Names are their bytes

Members are bound and looked up through the C interface under bytes.  Bytes that are not UTF-8 end
the process before anything else of the call is looked at (`Refuses`).  Bytes that are UTF-8 are a
name of their own: what is bound under them is found under them, and under no others
(`BoundUnder`).
-/

namespace ObjectRuntime

namespace Moment

variable {κ σ φ : Type} {host : Host κ σ φ} {w w₁ w₂ : World κ} {s : σ} {call : ForeignCall κ}
  {i : RuntimeId} {op : Operation κ}

/-! ## Bound names -/

section Bound

variable {kind : KindId} {name : RawName} {text : String} {value : Pointer} {member : Ref}

theorem call_setMember (kind : KindId) (value : Pointer) (hname : name.decode = .ok text) :
    w.call (.setMember kind name value) = w.onShared (.setMember kind text value) := by
  simp only [World.call, World.onSharedWith, hname]

theorem call_lookup {object : Pointer} (hname : name.decode = .ok text) :
    w.call (.lookup object name) = w.onShared (.lookup object text) := by
  simp only [World.call, World.onSharedWith, hname]

theorem rebound_of_gives {n : Nat} {w' : World κ} {s' : σ} {reply : Reply κ}
    (h : (alone w s (.foreign (.setMember kind name value))).Gives host n w' s' reply) :
    s' = s ∧ reply = .ok .unit ∧ ∃ text member i, name.decode = .ok text ∧ value = some member ∧
      w.sharedRuntime.2 = .ok i ∧ w.sharedRuntime.1.Rebound w' i kind text member := by
  by_cases hwell : name.WellFormed
  · obtain ⟨text, hname⟩ := RawName.wellFormed_iff.1 hwell
    cases hi : w.sharedRuntime.2 with
    | error e =>
      have hcall := (call_setMember (w := w) kind value hname).trans (onShared_of_error hi)
      exact absurd h (refuses_of_fatal hcall (.refl _)).not_gives
    | ok i =>
      have hcall := (call_setMember (w := w) kind value hname).trans (onShared_of_ok hi)
      cases hrt : w.sharedRuntime.1.runtimes[i]? with
      | none =>
        have hfault := run_call_halt host s hcall (World.perform_on_none hrt _)
        exact absurd (by rw [hfault]) (h.not_ended 2 .fault)
      | some rt =>
        have hperform := World.perform_on hrt (.setMember kind text value)
        rcases w.sharedRuntime.1.setMember_cases i rt.registry kind text value with
          ⟨e, he⟩ | ⟨member, g, replaced, u, rfl, hg, rfl, ⟨-, hu⟩ | ⟨v, hv, hdone⟩⟩
        · exact absurd h (refuses_of_error hcall (hperform.trans he) (.refl _)).not_gives
        · have hfault := run_call_halt host s hcall (hperform.trans hu)
          exact absurd (by rw [hfault]) (h.not_ended 2 .fault)
        · have hthree := gives_of_call host s hcall (hperform.trans hdone)
          cases (h.eq_of_isBack (hthree.back ▸ ⟨rfl, _, rfl⟩)).symm.trans hthree.back
          exact ⟨rfl, rfl, text, member, i, hname, rfl, rfl,
            World.rebound_of_setMember (World.shared_sharedRuntime hi) hrt hg hv⟩
  · exact absurd h (refuses_of_name rfl hwell).not_gives

theorem lookup_gives {r : Ref} {c : Cell κ} (host : Host κ σ φ) (s : σ)
    (h : w.Binds i kind text member) (hname : name.decode = .ok text)
    (hr : w.heap.live? r = some c) (hkind : c.kind = kind)
    (hmember : (w.heap.live? member).isSome) :
    ∃ w', (alone w s (.foreign (.lookup (some r) name))).Gives host 3 w' s
      (.ok (.object (some member))) := by
  obtain ⟨hshared, rt, hrt, hbound⟩ := h
  have hruntime := World.sharedRuntime_of_some hshared
  have hcall : w.call (.lookup (some r) name) =
      (w, .next (.on i (.lookup (some r) text)) .orFatal) := by
    rw [call_lookup hname, onShared_of_ok (i := i) (by rw [hruntime]), hruntime]
  have hturn : (w.perform (.on i (.lookup (some r) text))).2 =
      .done (.ok (.object (some member))) := by
    rw [World.perform_on hrt, World.turn_lookup]
    simp [hr, hkind, hbound, hmember]
  exact ⟨_, gives_of_call host s hcall (Prod.ext rfl hturn)⟩

theorem control_run_lookup {w' : World κ} {object : Pointer} (hi : w.sharedRuntime.2 = .ok i)
    (h : w.sharedRuntime.1.Rebound w' i kind text member)
    (hname : name.encoded? ≠ some (utf8Bytes text)) (n : Nat) :
    ((alone w' s (.foreign (.lookup object name))).run host n).control =
        ((alone w s (.foreign (.lookup object name))).run host n).control ∧
      ((alone w s (.foreign (.lookup object name))).run host 3).isFinal = true := by
  by_cases hwell : name.WellFormed
  · obtain ⟨text', htext'⟩ := RawName.wellFormed_iff.1 hwell
    have hother : text' ≠ text := by
      rintro rfl
      exact hname (RawName.decode_eq_ok_iff.1 htext')
    have hshared := World.sharedRuntime_of_some h.shared.2
    have hcall' : w'.call (.lookup object name) =
        (w', .next (.on i (.lookup object text')) .orFatal) := by
      rw [call_lookup htext', onShared_of_ok (i := i) (by rw [hshared]), hshared]
    exact control_run_call_congr ((call_lookup htext').trans (onShared_of_ok hi)) hcall'
      (h.turn_lookup hother object) (World.lookup_ends _ _ _ _) n
  · have hended (w : World κ) (n : Nat) :
        ((alone w s (.foreign (.lookup object name))).run host (n + 1)).control =
          .ended (.aborted Failure.invalidName.message) := by
      have hfatal : w.perform (.foreign (.lookup object name)) =
          w.fatal Failure.invalidName.message :=
        call_of_not_wellFormed (.lookup object name) rfl hwell
      rw [run_cons]
      exact run_of_ended (k := 0) (by rw [run_zero, step_of_halt rfl hfatal]) (Nat.zero_le n)
    refine ⟨?_, by rw [isFinal, hended w 2]⟩
    cases n with
    | zero => rfl
    | succ n => rw [hended, hended]

theorem setMember_gives (host : Host κ σ φ) (s : σ) {rt : Runtime κ} (hwell : name.WellFormed)
    (hi : w.sharedRuntime.2 = .ok i) (hrt : w.sharedRuntime.1.runtimes[i]? = some rt)
    (hkind : rt.registry.contains kind = true)
    (hmember : (w.sharedRuntime.1.heap.live? member).isSome) :
    ∃ w', (alone w s (.foreign (.setMember kind name (some member)))).Gives host 3 w' s
      (.ok .unit) := by
  obtain ⟨text, hname⟩ := RawName.wellFormed_iff.1 hwell
  obtain ⟨c, hc⟩ := Option.isSome_iff_exists.1 hmember
  have hset : ∃ result, rt.registry.setMember kind text member = .ok result := by
    rw [Registry.setMember, Registry.find_eq, if_pos hkind]
    exact ⟨_, rfl⟩
  obtain ⟨result, hset⟩ := hset
  have hdone : ∃ w', w.sharedRuntime.1.perform (.on i (.setMember kind text (some member))) =
      (w', .done (.ok .unit)) := by
    rw [World.perform_on hrt]
    simp [World.operate, World.setMember, World.orFault, World.retain, hset, hc]
  obtain ⟨w', hdone⟩ := hdone
  exact ⟨w', gives_of_call host s ((call_setMember kind _ hname).trans (onShared_of_ok hi)) hdone⟩

/-- What binding a member under these bytes makes of the world. -/
structure BoundUnder (host : Host κ σ φ) (w w' : World κ) (i : RuntimeId) (kind : KindId)
    (b : List UInt8) (member : Ref) : Prop where
  live : (w'.heap.live? member).isSome
  /-- From then on, and until the kind binds the bytes again, every object of the kind has the
  member under them. -/
  found : ∀ (m : Moment κ σ φ) n, m.world = w' →
    (∀ k < n, ∀ text value,
      (m.run host k).control = .perform (.on i (.setMember kind text value)) →
      utf8Bytes text ≠ b) →
    ((m.run host n).world.heap.live? member).isSome →
    ∀ s r c, (m.run host n).world.heap.live? r = some c → c.kind = kind →
      ∀ name : RawName, name.encoded? = some b →
        ∃ u, (alone (m.run host n).world s (.foreign (.lookup (some r) name))).Gives host 3 u s
          (.ok (.object (some member)))
  /-- Under all other bytes a look-up comes to what it came to before. -/
  others : ∀ s object (name : RawName), name.encoded? ≠ some b → ∀ n,
    ((alone w' s (.foreign (.lookup object name))).run host n).control =
        ((alone w s (.foreign (.lookup object name))).run host n).control ∧
      ((alone w s (.foreign (.lookup object name))).run host 3).isFinal = true
  /-- The bytes are those of exactly one of the names that the kind binds. -/
  told : ∃ names, w'.perform (.query i (.memberNames kind)) = (w', .done (.ok (.names names))) ∧
    names.countP (fun name => decide (utf8Bytes name = b)) = 1

theorem boundUnder {w' : World κ} (host : Host κ σ φ) (hi : w.sharedRuntime.2 = .ok i)
    (h : w.sharedRuntime.1.Rebound w' i kind text member) :
    BoundUnder host w w' i kind (utf8Bytes text) member where
  live := by
    have hkind := congrArg Option.isSome (h.kind_live? member)
    rw [Option.isSome_map, Option.isSome_map] at hkind
    rw [hkind, h.live]
  found m n hw hkept hmember s r c hr hkind name hname := by
    have hbinds : m.world.Binds i kind text member := hw ▸ h.binds
    have hkept' : ∀ k < n, ∀ value,
        (m.run host k).control ≠ .perform (.on i (.setMember kind text value)) :=
      fun k hk value hcontrol => hkept k hk text value hcontrol rfl
    exact lookup_gives host s (binds_run hbinds hkept') (RawName.decode_eq_ok_iff.2 hname) hr hkind
      hmember
  others s object name hname := control_run_lookup hi h hname
  told := by
    obtain ⟨-, rt, hrt, hbound⟩ := h.binds
    obtain ⟨names, hnames, hone⟩ := Registry.countP_memberNames hbound
    refine ⟨names, ?_, hone⟩
    simp only [World.perform, hrt, Runtime.answer, hnames]
    rfl

end Bound

/-- **Names at the C interface are their bytes.**  Bytes that are not UTF-8, or that are not there,
are refused in every call that passes a name, before all other checks.  A member is bound under
bytes that are a name, and then it is what these bytes, and no others, are looked up as. -/
theorem names_are_bytes (host : Host κ σ φ) (w : World κ) (s : σ) :
    (∀ call name, ForeignCall.name? call = some name → ¬ name.WellFormed →
        Refuses host w s call w .invalidName) ∧
      (∀ name : RawName, name.length = 0 → name.encoded? = some [] ∧ name.decode = .ok "") ∧
      (∀ kind name value n w' s' reply,
        (alone w s (.foreign (.setMember kind name value))).Gives host n w' s' reply →
        s' = s ∧ reply = .ok .unit ∧ ∃ b member i, name.encoded? = some b ∧ Text.WellFormed b ∧
          value = some member ∧ w'.shared = some i ∧ BoundUnder host w w' i kind b member) ∧
      (∀ kind (name : RawName) member i rt, name.WellFormed → w.sharedRuntime.2 = .ok i →
        w.sharedRuntime.1.runtimes[i]? = some rt → rt.registry.contains kind = true →
        (w.sharedRuntime.1.heap.live? member).isSome →
        ∃ w', (alone w s (.foreign (.setMember kind name (some member)))).Gives host 3 w' s
          (.ok .unit)) ∧
      ∀ object name args, ChecksInOrder host w s object name args := by
  refine ⟨fun call name => refuses_of_name, fun name hlength => ?_,
    fun kind name value n w' s' reply h => ?_,
    fun kind name member i rt => setMember_gives host s, checksInOrder host w s⟩
  · have hempty := RawName.decode_of_length_eq_zero hlength
    exact ⟨RawName.decode_eq_ok_iff.1 hempty, hempty⟩
  · obtain ⟨hs, hreply, text, member, i, hname, hvalue, hi, hrebound⟩ := rebound_of_gives h
    exact ⟨hs, hreply, utf8Bytes text, member, i, RawName.decode_eq_ok_iff.1 hname,
      Text.wellFormed_iff_exists_utf8Bytes.2 ⟨text, rfl⟩, hvalue, hrebound.shared.2,
      boundUnder host hi hrebound⟩

/-- A process whose shared runtime has a kind of its own and one object of it. -/
def oneObject : World Unit :=
  (((({} : World Unit).sharedRuntime.1.perform (.on 0 (.register 10))).1).perform
    (.on 0 (.newObject 10 0))).1

/-- A character of two bytes is a name to bind a member under; the first byte alone is none. -/
theorem names_are_bytes_eAcute :
    let cut : RawName := .bytes ⟨#[0xC3]⟩
    let whole : RawName := .bytes ⟨#[0xC3, 0xA9]⟩
    Refuses idleHost oneObject () (.setMember 10 cut (some (.object 0))) oneObject .invalidName ∧
      ∃ i w', (alone oneObject () (.foreign (.setMember 10 whole (some (.object 0))))).Gives
          idleHost 3 w' () (.ok .unit) ∧
        BoundUnder idleHost oneObject w' i 10 [0xC3, 0xA9] (.object 0) := by
  intro cut whole
  obtain ⟨hrefused, -, hbound, hgives, -⟩ := names_are_bytes idleHost oneObject ()
  have hcut : ¬ cut.WellFormed := by
    intro h
    obtain ⟨text, htext⟩ := RawName.wellFormed_iff.1 h
    have hnone : cut.decode = .error .invalidName := rfl
    cases hnone.symm.trans htext
  have hwhole : whole.WellFormed :=
    ⟨_, rfl, .cons (.two (a := 0xC3) (b := 0xA9) (by decide) (by decide)) .nil⟩
  refine ⟨hrefused _ cut rfl hcut, ?_⟩
  obtain ⟨w', hw'⟩ := hgives 10 whole (.object 0) 0 _ hwhole rfl rfl rfl rfl
  obtain ⟨-, -, b, member, i, hb, -, hmember, -, h⟩ := hbound _ _ _ _ _ _ _ hw'
  cases hb
  cases hmember
  exact ⟨i, w', hw', h⟩

end Moment

end ObjectRuntime
