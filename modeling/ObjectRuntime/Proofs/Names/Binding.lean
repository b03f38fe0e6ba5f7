import Mathlib.Data.List.Nodup
import ObjectRuntime.Proofs.History
import ObjectRuntime.Proofs.Ledger.Counts
import ObjectRuntime.Proofs.Undisturbed
import ObjectRuntime.Proofs.Utf8
/-!
# Binding a name

A member that the shared runtime binds to a name of a kind is found under that name, and under
other names what was found before (`Rebound`).  It stays bound until that name of that kind is
bound again, whatever happens in between (`binds_run`).
-/

namespace ObjectRuntime

variable {κ σ φ : Type}

namespace Registry

variable {g g' : Registry κ} {c : Change κ} {kind : KindId} {name : String} {r : Ref}

theorem member_eq_ok_iff_entry :
    g.member kind name = .ok r ↔ (g.entry kind).members.get? name = some r := by
  rw [member_eq_ok_iff]
  simp only [find_eq]
  split
  · simp
  next h => simp [entry_of_not_contains (Bool.eq_false_iff.2 h)]

theorem get?_members_make (h : g.make c = .ok g') (kind : KindId) (name : String) :
    (g'.entry kind).members.get? name =
      (c.member? kind name).or ((g.entry kind).members.get? name) := by
  obtain ⟨-, rfl⟩ := make_eq_ok_iff.1 h
  rw [entry_insert]
  by_cases hkind : kind = c.kind
  · rw [if_pos hkind, hkind, c.member_write]
  · rw [if_neg hkind, (Change.eq_none_of_ne hkind).2.2]
    rfl

theorem countP_memberNames (h : g.member kind name = .ok r) :
    ∃ names, g.memberNames kind = .ok names ∧
      names.countP (fun n => decide (utf8Bytes n = utf8Bytes name)) = 1 := by
  obtain ⟨d, hd, hr⟩ := member_eq_ok_iff.1 h
  refine ⟨d.members.keys.mergeSort fun a b => decide (a ≤ b), by rw [memberNames, hd]; rfl, ?_⟩
  have hmem : name ∈ d.members.keys := by
    rw [Table.mem_keys_iff, Table.contains, hr]
    rfl
  rw [(List.mergeSort_perm _ _).countP_eq]
  simp only [Text.utf8Bytes_inj]
  exact List.count_eq_one_of_mem d.members.nodup_keys hmem

end Registry

theorem Operation.member?_of_change? {op : Operation κ} {c : Change κ} {kind : KindId}
    {name : String} (hop : op.change? = some c)
    (h : ∀ value, op ≠ .setMember kind name value) : c.member? kind name = none := by
  cases op with
  | register | setDestructor | setApply => cases hop; rfl
  | setMember kind' name' value =>
    cases value with
    | none => cases hop
    | some r =>
      cases hop
      refine if_neg ?_
      rintro ⟨rfl, rfl⟩
      exact h _ rfl
  | _ => cases hop

namespace World

variable {w : World κ} {i : RuntimeId} {kind : KindId} {name : String} {r : Ref}

/-- The shared runtime is there, and it binds a name of a kind to an object. -/
structure Binds (w : World κ) (i : RuntimeId) (kind : KindId) (name : String) (r : Ref) :
    Prop where
  shared : w.shared = some i
  bound : ∃ rt, w.runtimes[i]? = some rt ∧ rt.registry.member kind name = .ok r

theorem registry_perform {rt : Runtime κ} (hrt : w.runtimes[i]? = some rt) (request : Request κ) :
    ∃ rt', (w.perform request).1.runtimes[i]? = some rt' ∧
      (rt'.registry = rt.registry ∨ ∃ op c, request = .on i op ∧ op.change? = some c ∧
        rt.registry.make c = .ok rt'.registry) := by
  by_cases hon : ∃ j op, request = .on j op
  · obtain ⟨j, op, rfl⟩ := hon
    cases hj : w.runtimes[j]? with
    | none => exact ⟨rt, by rw [perform_on_none hj]; exact hrt, .inl rfl⟩
    | some rtj =>
      rw [perform_on hj]
      cases hop : op.change? with
      | none => exact ⟨rt, by rw [w.runtimes_operate j rtj hop]; exact hrt, .inl rfl⟩
      | some c =>
        rcases w.operate_of_change j rtj hop with ⟨e, -, hw⟩ | ⟨g, hg, hruntimes, -⟩
        · exact ⟨rt, by rw [hw]; exact hrt, .inl rfl⟩
        · rw [hruntimes, setRegistry, Array.getElem?_modify, hrt]
          by_cases hij : j = i
          · subst hij
            cases hj.symm.trans hrt
            exact ⟨_, if_pos rfl, .inr ⟨op, c, rfl, hop, hg⟩⟩
          · exact ⟨rt, if_neg hij, .inl rfl⟩
  · refine ⟨rt, ?_, .inl rfl⟩
    rcases w.runtimes_perform fun j op h => hon ⟨j, op, h⟩ with h | ⟨cap, h⟩
    · rw [h, hrt]
    · rw [h, Array.getElem?_push, if_neg, hrt]
      obtain ⟨hi, -⟩ := Array.getElem?_eq_some_iff.1 hrt
      omega

theorem shared_perform (h : w.shared = some i) (request : Request κ) :
    (w.perform request).1.shared = some i := by
  cases request with
  | on | query | foreign =>
    refine (Undisturbed.perform w (by simp) ?_).shared.trans h
    simp [Request.starts, h]
  | service service =>
    by_cases hstart : ∃ cap, service = .startRuntime cap
    · obtain ⟨cap, rfl⟩ := hstart
      obtain ⟨journal, hw⟩ := w.startRuntime_eq cap
      simp only [World.perform, serve, hw]
      split <;> exact h
    · refine (Undisturbed.perform w (by simp) ?_).shared.trans h
      cases service <;> first | exact absurd ⟨_, rfl⟩ hstart | simp [Request.starts, h]
  | handle op =>
    have hborrow (j : RuntimeId) (r : Ref) : (w.borrow j r).1.shared = some i := by
      unfold borrow retain
      cases w.heap.live? r <;> exact h
    cases op with
    | adopt j object => cases object <;> exact h
    | borrow j object =>
      cases object with
      | none => exact h
      | some r => exact hborrow j r
    | nil j => exact hborrow j (.nil j)
    | clone handle =>
      simp only [World.perform, operateHandle]
      split
      · exact hborrow _ _
      · exact h
    | object | runtime | drop | intoPointer | lookup | call | methodCall =>
      simp only [World.perform, operateHandle]
      split <;> exact h

theorem shared_resume (w : World κ) (reply : Reply κ) (p : Pending κ) :
    (w.resume reply p).1.shared = w.shared := by
  cases p with
  | releaseMethod => rfl
  | keep | orFatal => cases reply <;> rfl
  | adopt j operation =>
    simp only [resume]
    split <;> rfl

end World

/-! ## What binding a name does -/

namespace Registry

variable {g g' : Registry κ} {kind kind' : KindId} {name name' : String} {r : Ref}
  {replaced : Option Ref}

theorem member_setMember (h : g.setMember kind name r = .ok (g', replaced)) :
    g'.member kind name = .ok r ∧
      ∀ kind' name', name' ≠ name → g'.member kind' name' = g.member kind' name' := by
  unfold setMember at h
  cases hd : g.find kind with
  | error e => rw [hd] at h; cases h
  | ok d =>
    rw [hd] at h
    cases h
    refine ⟨?_, fun kind' name' hname => ?_⟩
    · simp [member, find_insert, Table.get?_insert]
    · unfold member
      rw [find_insert]
      by_cases hkind : kind' = kind
      · simp [hkind, hd, Table.get?_insert, hname]
      · simp [hkind]

end Registry

namespace World

variable {w w' : World κ} {i : RuntimeId} {rt rt' : Runtime κ}

theorem shared_sharedRuntime (h : w.sharedRuntime.2 = .ok i) :
    w.sharedRuntime.1.shared = some i := by
  cases hs : w.shared with
  | some j =>
    rw [sharedRuntime_of_some hs] at h ⊢
    cases h
    exact hs
  | none =>
    obtain ⟨journal, hw⟩ := sharedRuntime_of_none hs
    rw [hw] at h ⊢
    split at h
    next hserved =>
      cases h
      rw [if_pos hserved]
      rfl
    · cases h

theorem turn_lookup (w : World κ) (i : RuntimeId) (rt : Runtime κ) (object : Pointer)
    (name : String) :
    (w.operate i rt (.lookup object name)).2 =
      match object with
      | none => .done (.error (.nullObject "lookup"))
      | some r =>
        match (w.heap.live? r).map Cell.kind with
        | none => .halt .fault
        | some kind =>
          match rt.registry.member kind name with
          | .error e => .done (.error e)
          | .ok member =>
            if ((w.heap.live? member).map Cell.kind).isSome then .done (.ok (.object (some member)))
            else .halt .fault := by
  cases object with
  | none => rfl
  | some r =>
    simp only [operate, lookup]
    cases hr : w.heap.live? r with
    | none => rfl
    | some c =>
      cases hm : rt.registry.member c.kind name with
      | error e => simp [hm, orFault, objectReply]
      | ok member =>
        unfold retain
        cases hl : w.heap.live? member <;> simp [hm, hl, orFault, objectReply]

theorem lookup_ends (w : World κ) (i : RuntimeId) (object : Pointer) (name : String) :
    (∃ reply, (w.perform (.on i (.lookup object name))).2 = .done reply) ∨
      ∃ ending, (w.perform (.on i (.lookup object name))).2 = .halt ending := by
  cases hrt : w.runtimes[i]? with
  | none => exact .inr ⟨_, by rw [perform_on_none hrt]⟩
  | some rt =>
    rw [perform_on hrt, turn_lookup]
    cases object with
    | none => exact .inl ⟨_, rfl⟩
    | some r =>
      dsimp only
      split
      · exact .inr ⟨_, rfl⟩
      · split
        · exact .inl ⟨_, rfl⟩
        · split
          · exact .inl ⟨_, rfl⟩
          · exact .inr ⟨_, rfl⟩

/-- What binding a member makes of a world in which the shared runtime is there. -/
structure Rebound (w w' : World κ) (i : RuntimeId) (kind : KindId) (name : String) (r : Ref) :
    Prop where
  shared : w.shared = some i ∧ w'.shared = some i
  heap : w'.heap = w.heap.addCount r 1
  live : (w.heap.live? r).isSome
  registry : ∃ rt rt' replaced, w.runtimes[i]? = some rt ∧ w'.runtimes[i]? = some rt' ∧
    rt.registry.setMember kind name r = .ok (rt'.registry, replaced)

theorem rebound_of_setMember {kind : KindId} {name : String} {r : Ref} {g : Registry κ}
    {replaced : Option Ref} (hshared : w.shared = some i) (hrt : w.runtimes[i]? = some rt)
    (hset : rt.registry.setMember kind name r = .ok (g, replaced))
    (hretain : ((w.setRegistry i g).reportOverwrite kind name replaced).retain r = some w') :
    w.Rebound w' i kind name r := by
  obtain ⟨c, hc, rfl⟩ := retain_eq_some_iff.1 hretain
  rw [heap_reportOverwrite, heap_setRegistry] at hc
  have hsame : ((w.setRegistry i g).reportOverwrite kind name replaced).shared = w.shared := by
    cases replaced <;> rfl
  refine ⟨⟨hshared, hsame.trans hshared⟩, ?_, by rw [hc]; rfl,
    rt, { rt with registry := g }, replaced, hrt, ?_, hset⟩
  · simp only [heap_reportOverwrite, heap_setRegistry]
  · simp only [runtimes_reportOverwrite, setRegistry, Array.getElem?_modify, hrt]
    rfl

namespace Rebound

variable {kind : KindId} {name : String} {r : Ref} (h : w.Rebound w' i kind name r)
include h

theorem kind_live? (o : Ref) :
    (w'.heap.live? o).map Cell.kind = (w.heap.live? o).map Cell.kind := by
  rw [h.heap, Heap.live?_addCount_eq]
  split
  · cases w.heap.live? o <;> rfl
  · rfl

theorem binds : w'.Binds i kind name r := by
  obtain ⟨rt, rt', replaced, -, hrt', hset⟩ := h.registry
  exact ⟨h.shared.2, rt', hrt', (Registry.member_setMember hset).1⟩

theorem turn_lookup {name' : String} (hname : name' ≠ name) (object : Pointer) :
    (w'.perform (.on i (.lookup object name'))).2 =
      (w.perform (.on i (.lookup object name'))).2 := by
  obtain ⟨rt, rt', replaced, hrt, hrt', hset⟩ := h.registry
  rw [perform_on hrt, perform_on hrt', World.turn_lookup, World.turn_lookup]
  simp only [h.kind_live?, (Registry.member_setMember hset).2 _ name' hname]

end Rebound

end World

/-! ## How long a binding lasts -/

namespace Moment

variable {host : Host κ σ φ} {m : Moment κ σ φ} {i : RuntimeId} {kind : KindId} {name : String}
  {r : Ref}

theorem binds_step (h : m.world.Binds i kind name r)
    (hkept : ∀ value, m.control ≠ .perform (.on i (.setMember kind name value))) :
    (m.step host).world.Binds i kind name r := by
  obtain ⟨hshared, rt, hrt, hbound⟩ := h
  by_cases hperform : ∃ request, m.control = .perform request
  · obtain ⟨request, hcontrol⟩ := hperform
    rw [world_step_perform host hcontrol]
    obtain ⟨rt', hrt', hregistry⟩ := World.registry_perform hrt request
    refine ⟨World.shared_perform hshared request, rt', hrt', ?_⟩
    rcases hregistry with hsame | ⟨op, c, rfl, hop, hmake⟩
    · rw [hsame, hbound]
    · rw [Registry.member_eq_ok_iff_entry] at hbound ⊢
      rw [Registry.get?_members_make hmake, hbound]
      have hother := Operation.member?_of_change? hop
        fun value hset => hkept value (hset ▸ hcontrol)
      rw [hother]
      rfl
  · have hidle : ∀ request, m.control ≠ .perform request :=
      fun request hc => hperform ⟨request, hc⟩
    refine ⟨?_, rt, by rw [(step_frame host hidle).2, hrt], hbound⟩
    rw [world_step]
    split
    next hc => exact absurd hc (hidle _)
    · rw [World.shared_resume, hshared]
    · exact hshared

/-- **A binding lasts until the name is bound again**: no other step has to do with `Binds`. -/
theorem binds_run (h : m.world.Binds i kind name r) {n : Nat}
    (hkept : ∀ k < n, ∀ value,
      (m.run host k).control ≠ .perform (.on i (.setMember kind name value))) :
    (m.run host n).world.Binds i kind name r := by
  induction n with
  | zero => exact h
  | succ n ih =>
    rw [run_succ]
    exact binds_step (ih fun k hk => hkept k (Nat.lt_succ_of_lt hk)) (hkept n (Nat.lt_succ_self n))

end Moment

end ObjectRuntime
