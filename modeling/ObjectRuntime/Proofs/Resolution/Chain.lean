import Mathlib.Combinatorics.Pigeonhole
import ObjectRuntime.Dispatch
/-!
# Chains of call members

The objects that an application comes to, one call member after the other, without any cap.  What
comes next depends on the kind of an object alone, and nothing changes on the way: a chain along
which some kind occurs twice goes round for ever (`endless_of_repeat`), and any other is over after
as many hops as there are kinds (`ends_iff_simple`).  `resolve` follows the chain as far as its
budget goes (`resolve_of_ends`, `resolve_of_isSome`).
-/

namespace ObjectRuntime

variable {κ : Type}

/-- The call member that takes the place of an object of this kind: the kind is registered, has no
direct slot, and binds one. -/
def Registry.standIn? (g : Registry κ) (kind : KindId) : Option Ref :=
  (g.kinds.get? kind).bind fun d =>
    if d.apply.isDirect then none else d.members.get? callMember

theorem Registry.hop_eq_via_iff {g : Registry κ} {kind : KindId} {next : Ref} :
    g.hop kind = .via next ↔ g.standIn? kind = some next := by
  unfold hop find standIn?
  cases g.kinds.get? kind with
  | none => simp
  | some d =>
    cases ha : d.apply with
    | direct target => simp [ha, Apply.isDirect]
    | viaCallMember => cases hm : d.members.get? callMember <;> simp [ha, hm, Apply.isDirect]

theorem Registry.contains_of_standIn? {g : Registry κ} {kind : KindId} {next : Ref}
    (h : g.standIn? kind = some next) : g.kinds.contains kind = true := by
  obtain ⟨d, hd, -⟩ := Option.bind_eq_some_iff.1 h
  simp [Table.contains, hd]

namespace Chain

variable (heap : Heap κ) (g : Registry κ)

/-- The object that is so many hops from `r`. -/
def object? (r : Ref) : Nat → Option Ref
  | 0 => some r
  | n + 1 => (object? r n).bind fun o => (heap.live? o).bind fun c => g.standIn? c.kind

/-- The kind of the object that is so many hops from `r`, if that object is in use. -/
def kind? (r : Ref) (n : Nat) : Option KindId :=
  (object? heap g r n).bind fun o => (heap.live? o).map (·.kind)

/-- The chain from `r` ends with the object `o`, which is `n` hops away. -/
structure Ends (r : Ref) (n : Nat) (o : Ref) : Prop where
  reached : object? heap g r n = some o
  stops : object? heap g r (n + 1) = none

/-- The chain from `r` never comes to an end. -/
def Endless (r : Ref) : Prop := ∀ n, (object? heap g r n).isSome

/-- No kind occurs twice along the chain from `r`. -/
def Simple (r : Ref) : Prop :=
  ∀ a b kind, kind? heap g r a = some kind → kind? heap g r b = some kind → a = b

variable {heap g} {r o : Ref} {a b n : Nat}

/-! ## Going on along a chain -/

theorem object?_succ (r : Ref) (n : Nat) :
    object? heap g r (n + 1) = (kind? heap g r n).bind g.standIn? := by
  rw [object?, kind?]
  cases object? heap g r n with
  | none => rfl
  | some o => cases h : heap.live? o <;> simp [h]

theorem isSome_of_le (h : (object? heap g r b).isSome) (hab : a ≤ b) :
    (object? heap g r a).isSome := by
  induction b with
  | zero => exact Nat.le_zero.1 hab ▸ h
  | succ b ih =>
    rcases Nat.le_succ_iff.1 hab with hab | rfl
    · refine ih ?_ hab
      rw [object?] at h
      cases hb : object? heap g r b with
      | none => rw [hb] at h; cases h
      | some o => rfl
    · exact h

theorem kind?_eq_some_of_isSome_succ (h : (object? heap g r (n + 1)).isSome) :
    ∃ kind, kind? heap g r n = some kind ∧ (g.standIn? kind).isSome := by
  rw [object?_succ] at h
  obtain ⟨next, hnext⟩ := Option.isSome_iff_exists.1 h
  obtain ⟨kind, hkind, hstand⟩ := Option.bind_eq_some_iff.1 hnext
  exact ⟨kind, hkind, by rw [hstand]; rfl⟩

theorem object?_of_standIn? {c : Cell κ} {next : Ref} (hc : heap.live? r = some c)
    (hnext : g.standIn? c.kind = some next) (n : Nat) :
    object? heap g r (n + 1) = object? heap g next n := by
  induction n with
  | zero => simp [object?, hc, hnext]
  | succ n ih => rw [object?, ih, object?]

theorem standIn?_of_isSome_one (h : (object? heap g r 1).isSome) :
    ∃ c next, heap.live? r = some c ∧ g.standIn? c.kind = some next := by
  obtain ⟨next, hnext⟩ := Option.isSome_iff_exists.1 h
  obtain ⟨c, hc, hstand⟩ := Option.bind_eq_some_iff.1 (show (heap.live? r).bind _ = _ from hnext)
  exact ⟨c, next, hc, hstand⟩

namespace Ends

theorem isSome (h : Ends heap g r n o) : (object? heap g r n).isSome := by
  rw [h.reached]
  rfl

theorem of_next {c : Cell κ} {next : Ref} (hc : heap.live? r = some c)
    (hnext : g.standIn? c.kind = some next) (h : Ends heap g r (n + 1) o) :
    Ends heap g next n o :=
  ⟨by rw [← object?_of_standIn? hc hnext]; exact h.reached,
    by rw [← object?_of_standIn? hc hnext]; exact h.stops⟩

theorem not_endless (h : Ends heap g r n o) : ¬ Endless heap g r := fun hall => by
  have := hall (n + 1)
  rw [h.stops] at this
  cases this

theorem last (h : Ends heap g r n o) : object? heap g o 1 = none := by
  have hover := h.stops
  rwa [object?, h.reached] at hover

theorem standIn?_eq_none {c : Cell κ} (h : Ends heap g r n o) (hc : heap.live? o = some c) :
    g.standIn? c.kind = none := by
  have hlast := h.last
  rwa [object?, object?, Option.bind_some, hc, Option.bind_some] at hlast

end Ends

theorem ends_or_endless (heap : Heap κ) (g : Registry κ) (r : Ref) :
    (∃ n o, Ends heap g r n o) ∨ Endless heap g r := by
  by_cases hall : Endless heap g r
  · exact .inr hall
  · left
    -- The least place where nothing is found is the one after the end.
    obtain ⟨n, hn⟩ := not_forall.1 hall
    induction n with
    | zero => exact absurd rfl hn
    | succ n ih =>
      cases ho : object? heap g r n with
      | none => exact ih (by rw [ho]; simp)
      | some o => exact ⟨n, o, ho, Option.not_isSome_iff_eq_none.1 hn⟩

/-! ## Kinds that occur twice -/

theorem object?_add_of_kind?_eq (h : kind? heap g r a = kind? heap g r b) (n : Nat) :
    object? heap g r (a + 1 + n) = object? heap g r (b + 1 + n) := by
  induction n with
  | zero => rw [Nat.add_zero, Nat.add_zero, object?_succ, object?_succ, h]
  | succ n ih => rw [← Nat.add_assoc, ← Nat.add_assoc, object?, ih, object?]

/-- **A kind that occurs twice occurs again and again.** -/
theorem endless_of_repeat {kind : KindId} (hab : a < b) (ha : kind? heap g r a = some kind)
    (hb : kind? heap g r b = some kind) : Endless heap g r := by
  have hsome : (object? heap g r b).isSome := by
    cases ho : object? heap g r b with
    | none => simp [kind?, ho] at hb
    | some o => rfl
  have hnext : (object? heap g r (b + 1)).isSome := by
    have := isSome_of_le hsome (show a + 1 ≤ b from hab)
    rwa [object?_succ, ha, ← hb, ← object?_succ] at this
  intro n
  -- From the second occurrence on, the chain is where it was one round before.
  induction n using Nat.strong_induction_on with
  | _ n ih =>
    by_cases hn : n ≤ b + 1
    · exact isSome_of_le hnext hn
    · obtain ⟨t, rfl⟩ := Nat.exists_eq_add_of_le (show b + 1 ≤ n by omega)
      rw [← object?_add_of_kind?_eq (ha.trans hb.symm)]
      exact ih _ (by omega)

theorem exists_repeat (h : (object? heap g r (g.size + 1)).isSome) :
    ∃ a b kind, a < b ∧ kind? heap g r a = some kind ∧ kind? heap g r b = some kind := by
  have hmaps : ∀ a ∈ Finset.range (g.size + 1),
      kind? heap g r a ∈ (g.kinds.keys.map some).toFinset := by
    intro a ha
    obtain ⟨kind, hkind, hstand⟩ := kind?_eq_some_of_isSome_succ
      (isSome_of_le h (show a + 1 ≤ g.size + 1 by rw [Finset.mem_range] at ha; omega))
    obtain ⟨next, hnext⟩ := Option.isSome_iff_exists.1 hstand
    rw [hkind, List.mem_toFinset]
    exact List.mem_map_of_mem
      ((g.kinds.mem_keys_iff kind).2 (Registry.contains_of_standIn? hnext))
  have hcard : (g.kinds.keys.map some).toFinset.card < (Finset.range (g.size + 1)).card := by
    have hle := List.toFinset_card_le (g.kinds.keys.map some)
    have hkeys : (g.kinds.keys.map some).length = g.size := by
      simp [Table.keys, Registry.size, Table.size]
    rw [Finset.card_range]
    omega
  obtain ⟨a, ha, b, hb, hne, heq⟩ :=
    Finset.exists_ne_map_eq_of_card_lt_of_maps_to hcard hmaps
  have hkind : ∀ c ∈ Finset.range (g.size + 1), ∃ kind, kind? heap g r c = some kind := by
    intro c hc
    obtain ⟨kind, -, hkind⟩ := List.mem_map.1 (List.mem_toFinset.1 (hmaps c hc))
    exact ⟨kind, hkind.symm⟩
  rcases Nat.lt_or_gt_of_ne hne with hlt | hlt
  · obtain ⟨kind, hk⟩ := hkind a ha
    exact ⟨a, b, kind, hlt, hk, heq ▸ hk⟩
  · obtain ⟨kind, hk⟩ := hkind b hb
    exact ⟨b, a, kind, hlt, hk, heq ▸ hk⟩

theorem endless_iff_isSome (hn : g.size ≤ n) :
    Endless heap g r ↔ (object? heap g r (n + 1)).isSome := by
  refine ⟨fun h => h _, fun h => ?_⟩
  obtain ⟨a, b, kind, hab, ha, hb⟩ :=
    exists_repeat (isSome_of_le h (show g.size + 1 ≤ n + 1 by omega))
  exact endless_of_repeat hab ha hb

theorem Ends.le_size (h : Ends heap g r n o) : n ≤ g.size := by
  by_contra hlt
  refine h.not_endless ((endless_iff_isSome (Nat.le_refl _)).2 ?_)
  exact isSome_of_le h.isSome (by omega)

/-- **A chain `Ends` if and only if no kind occurs twice**, which is to say if it is `Simple`. -/
theorem ends_iff_simple : (∃ n o, Ends heap g r n o) ↔ Simple heap g r := by
  constructor
  · rintro ⟨n, o, h⟩ a b kind ha hb
    by_contra hne
    rcases Nat.lt_or_gt_of_ne hne with hlt | hlt
    · exact h.not_endless (endless_of_repeat hlt ha hb)
    · exact h.not_endless (endless_of_repeat hlt hb ha)
  · intro hsimple
    refine (ends_or_endless heap g r).resolve_right fun hall => ?_
    obtain ⟨a, b, kind, hab, ha, hb⟩ := exists_repeat (hall _)
    exact absurd (hsimple a b kind ha hb) (Nat.ne_of_lt hab)

end Chain

/-! ## Resolution -/

section Resolution

variable {heap : Heap κ} {g : Registry κ} {r o : Ref} {n budget : Nat}

theorem resolve_of_standIn? {c : Cell κ} {next : Ref} (hc : heap.live? r = some c)
    (hnext : g.standIn? c.kind = some next) (budget hops : Nat) :
    resolve heap g 0 r hops = .exhausted ∧
      resolve heap g (budget + 1) r hops = resolve heap g budget next (hops + 1) := by
  have hvia := Registry.hop_eq_via_iff.2 hnext
  constructor
  · rw [resolve, hc]
    dsimp only
    rw [hvia]
  · rw [resolve, hc]
    dsimp only
    rw [hvia]

theorem resolve_of_over (h : Chain.object? heap g r 1 = none) (budget hops : Nat) :
    resolve heap g budget r hops = resolve heap g 0 r hops := by
  rw [resolve, resolve]
  cases hc : heap.live? r with
  | none => rfl
  | some c =>
    dsimp only
    cases hhop : g.hop c.kind with
    | land target => rfl
    | fail e => rfl
    | via next =>
      rw [Chain.object?_of_standIn? hc (Registry.hop_eq_via_iff.1 hhop)] at h
      cases h

/-- **With enough of a budget, resolution comes to the end of the chain and stops there.** -/
theorem resolve_of_ends (h : Chain.Ends heap g r n o) (hn : n ≤ budget) (hops : Nat) :
    resolve heap g budget r hops = resolve heap g 0 o (hops + n) := by
  induction n generalizing r budget hops with
  | zero =>
    obtain rfl : r = o := Option.some.inj h.reached
    exact resolve_of_over h.stops budget hops
  | succ n ih =>
    obtain ⟨c, next, hc, hnext⟩ := Chain.standIn?_of_isSome_one
      (Chain.isSome_of_le h.isSome (show 1 ≤ n + 1 by omega))
    obtain ⟨budget, rfl⟩ := Nat.exists_eq_add_of_le' (show 1 ≤ budget by omega)
    rw [(resolve_of_standIn? hc hnext budget hops).2, ih (h.of_next hc hnext) (by omega),
      Nat.add_right_comm, Nat.add_assoc]

/-- **With less than it takes, resolution is exhausted.** -/
theorem resolve_of_isSome (h : (Chain.object? heap g r (budget + 1)).isSome) (hops : Nat) :
    resolve heap g budget r hops = .exhausted := by
  obtain ⟨c, next, hc, hnext⟩ := Chain.standIn?_of_isSome_one
    (Chain.isSome_of_le h (show 1 ≤ budget + 1 by omega))
  induction budget generalizing r c next hops with
  | zero => exact (resolve_of_standIn? hc hnext 0 hops).1
  | succ budget ih =>
    rw [(resolve_of_standIn? hc hnext budget hops).2]
    rw [Chain.object?_of_standIn? hc hnext] at h
    obtain ⟨c', next', hc', hnext'⟩ := Chain.standIn?_of_isSome_one
      (Chain.isSome_of_le h (show 1 ≤ budget + 1 by omega))
    exact ih h _ c' next' hc' hnext'

theorem resolve_ne_exhausted_of_over (h : Chain.object? heap g r 1 = none) (budget hops : Nat) :
    resolve heap g budget r hops ≠ .exhausted := by
  rw [resolve_of_over h, resolve]
  cases hc : heap.live? r with
  | none => simp
  | some c =>
    dsimp only
    cases hhop : g.hop c.kind with
    | land target => simp
    | fail e => simp
    | via next =>
      rw [Chain.object?_of_standIn? hc (Registry.hop_eq_via_iff.1 hhop)] at h
      cases h

theorem resolve_eq_exhausted_iff {hops : Nat} :
    resolve heap g budget r hops = .exhausted ↔
      (Chain.object? heap g r (budget + 1)).isSome := by
  refine ⟨fun hex => ?_, fun h => resolve_of_isSome h hops⟩
  rcases Chain.ends_or_endless heap g r with ⟨n, o, h⟩ | hall
  · by_cases hn : n ≤ budget
    · rw [resolve_of_ends h hn] at hex
      exact absurd hex (resolve_ne_exhausted_of_over h.last 0 _)
    · exact Chain.isSome_of_le h.isSome (by omega)
  · exact hall _

theorem ends_of_resolve_ne_exhausted {hops : Nat}
    (h : resolve heap g budget r hops ≠ .exhausted) :
    ∃ n o, Chain.Ends heap g r n o ∧ n ≤ budget := by
  rcases Chain.ends_or_endless heap g r with ⟨n, o, hends⟩ | hall
  · refine ⟨n, o, hends, ?_⟩
    by_contra hn
    exact h (resolve_of_isSome (Chain.isSome_of_le hends.isSome (by omega)) hops)
  · exact absurd (resolve_of_isSome (hall _) hops) h

/-- **A budget that was enough can be made larger**, or replaced by one hop for each kind. -/
theorem resolve_congr {budget' hops : Nat} (h : resolve heap g budget r hops ≠ .exhausted)
    (hle : budget ≤ budget' ∨ g.size ≤ budget') :
    resolve heap g budget' r hops = resolve heap g budget r hops := by
  obtain ⟨n, o, hends, hn⟩ := ends_of_resolve_ne_exhausted h
  have hn' : n ≤ budget' := by
    have := hends.le_size
    omega
  rw [resolve_of_ends hends hn, resolve_of_ends hends hn']

/-! ## The end of a chain -/

theorem resolve_of_unregistered {c : Cell κ} (hc : heap.live? r = some c)
    (hd : g.kinds.get? c.kind = none) (hops : Nat) :
    resolve heap g 0 r hops = .fail (.unregisteredKind c.kind) := by
  simp only [resolve, hc, Registry.hop, Registry.find, hd]

theorem resolve_of_direct {c : Cell κ} {d : Kind κ} {target : Callable κ}
    (hc : heap.live? r = some c) (hd : g.kinds.get? c.kind = some d)
    (ha : d.apply = .direct target) (hops : Nat) :
    resolve heap g 0 r hops = .land r c.kind target hops := by
  simp only [resolve, hc, Registry.hop, Registry.find, hd, ha]

theorem resolve_of_uncallable {c : Cell κ} {d : Kind κ} (hc : heap.live? r = some c)
    (hd : g.kinds.get? c.kind = some d) (ha : d.apply = .viaCallMember)
    (hm : d.members.get? callMember = none) (hops : Nat) :
    resolve heap g 0 r hops = .fail (.uncallable c.kind) := by
  simp only [resolve, hc, Registry.hop, Registry.find, hd, ha, hm]

end Resolution

end ObjectRuntime
