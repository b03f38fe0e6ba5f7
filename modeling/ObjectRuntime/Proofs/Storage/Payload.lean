import ObjectRuntime.Procedure
import ObjectRuntime.Proofs.Ledger.Record
import ObjectRuntime.Proofs.Run
/-!
# Kinds and payloads

The kind and the payload of an object are its own.  A kind is never changed, and a payload is
changed by the writes that host code makes to this very object and by nothing else
(`storage_step`), so that at every moment of a run it is what these writes make of the zero bytes
that the object began with (`overlay`).
-/

namespace ObjectRuntime

variable {κ σ φ : Type}

/-! ## What writes make of a payload -/

/-- Bytes that are written to consecutive places of a payload. -/
structure Write where
  start : Nat
  bytes : List UInt8
  deriving DecidableEq

namespace Write

/-- What a write puts in a place, if it reaches that far. -/
def byte? (write : Write) (place : Nat) : Option UInt8 :=
  if write.start ≤ place then write.bytes[place - write.start]? else none

/-- What a place holds after these writes, one after the other: what the last of them put there that
reached it, or what it held before. -/
def overlay (writes : List Write) (place : Nat) (byte : UInt8) : UInt8 :=
  writes.foldl (fun byte write => (write.byte? place).getD byte) byte

/-- What follows a header after a write, if it is a payload. -/
def apply (body : Body κ) (write : Write) : Body κ := World.writeBody write.start write.bytes body

theorem byte?_nil (start place : Nat) : byte? ⟨start, []⟩ place = none := by
  simp [byte?]

theorem byte?_of_lt {start place : Nat} (h : place < start) (bytes : List UInt8) :
    byte? ⟨start, bytes⟩ place = none :=
  if_neg (Nat.not_le.2 h)

theorem byte?_cons (start : Nat) (b : UInt8) (bytes : List UInt8) (place : Nat) :
    byte? ⟨start, b :: bytes⟩ place =
      if start = place then some b else byte? ⟨start + 1, bytes⟩ place := by
  simp only [byte?]
  rcases Nat.lt_trichotomy place start with hlt | rfl | hgt
  · rw [if_neg (by omega), if_neg (by omega), if_neg (by omega)]
  · simp
  · obtain ⟨d, rfl⟩ := Nat.exists_eq_add_of_lt hgt
    have hrest : start + d + 1 - start = start + d + 1 - (start + 1) + 1 := by omega
    rw [if_pos (by omega), if_neg (by omega), if_pos (by omega), hrest, List.getElem?_cons_succ]

end Write

namespace World

theorem overwrite_cons (start : Nat) (b : UInt8) (bytes : List UInt8) (content : Array UInt8) :
    overwrite start (b :: bytes) content =
      overwrite (start + 1) bytes (content.setIfInBounds start b) :=
  rfl

@[simp] theorem size_overwrite (start : Nat) (bytes : List UInt8) (content : Array UInt8) :
    (overwrite start bytes content).size = content.size := by
  induction bytes generalizing start content with
  | nil => rfl
  | cons b bytes ih => rw [overwrite_cons, ih, Array.size_setIfInBounds]

theorem getElem?_overwrite (start : Nat) (bytes : List UInt8) (content : Array UInt8)
    (place : Nat) : (overwrite start bytes content)[place]? =
      content[place]?.map fun byte => (Write.byte? ⟨start, bytes⟩ place).getD byte := by
  induction bytes generalizing start content with
  | nil =>
    rw [Write.byte?_nil]
    show content[place]? = content[place]?.map fun byte => byte
    rw [Option.map_id']
  | cons b bytes ih =>
    rw [overwrite_cons, ih, Write.byte?_cons, Array.getElem?_setIfInBounds]
    by_cases hplace : start = place
    · subst hplace
      rw [if_pos rfl, if_pos rfl, Write.byte?_of_lt (Nat.lt_succ_self start)]
      by_cases hin : start < content.size
      · rw [if_pos hin, Array.getElem?_eq_getElem hin]
        rfl
      · rw [if_neg hin, Array.getElem?_eq_none (Nat.not_lt.1 hin)]
        rfl
    · rw [if_neg hplace, if_neg hplace]

/-- **A payload after writes**, place by place. -/
theorem foldl_apply_payload (writes : List Write) (content : Array UInt8) :
    ∃ content' : Array UInt8, writes.foldl Write.apply (Body.payload content : Body κ) =
        .payload content' ∧ content'.size = content.size ∧
      ∀ place, content'[place]? = content[place]?.map (Write.overlay writes place) := by
  induction writes generalizing content with
  | nil => exact ⟨content, rfl, rfl, fun place => by cases content[place]? <;> rfl⟩
  | cons write writes ih =>
    obtain ⟨content', hbody, hsize, hplaces⟩ := ih (overwrite write.start write.bytes content)
    refine ⟨content', hbody, hsize.trans (size_overwrite _ _ _), fun place => ?_⟩
    rw [hplaces, getElem?_overwrite]
    cases content[place]? <;> rfl

end World

/-! ## What requests leave alone -/

/-- A later record of an object with the same kind and the same storage after the header. -/
structure Cell.Keeps (c c' : Cell κ) : Prop where
  kind : c'.kind = c.kind
  body : c'.body = c.body

theorem Cell.Keeps.lasting : Cell.Lasting (κ := κ) Cell.Keeps where
  refl _ := ⟨rfl, rfl⟩
  trans h h' := ⟨h'.kind.trans h.kind, h'.body.trans h.body⟩
  count _ _ := ⟨rfl, rfl⟩
  release _ := ⟨rfl, rfl⟩

/-- **What is on record keeps its kind and its storage**, unless the request is a write to it. -/
theorem Outcome.keepsStorage {w w' : World κ} {request : Request κ} {turn : Turn κ}
    (h : Outcome w request w' turn) {r : Ref} {c : Cell κ} (hc : w.heap.cell? r = some c)
    (hwrite : ∀ start bytes, request ≠ .service (.write r start bytes)) :
    ∃ c', w'.heap.cell? r = some c' ∧ c.Keeps c' :=
  h.lasts Cell.Keeps.lasting hc fun start bytes hrequest => absurd hrequest (hwrite start bytes)

/-- The kind and the size of the payload of the object that a request is to make. -/
def Request.creates? : Request κ → Option (KindId × UInt64)
  | .on _ (.newObject kind payload) => some (kind, payload)
  | .service (.createObject kind payload) => some (kind, payload)
  | _ => none

theorem World.cell?_of_creates {w : World κ} {request : Request κ} {kind : KindId}
    {payload : UInt64} {r : Ref} (hcreates : request.creates? = some (kind, payload))
    (hdone : (w.perform request).2 = .done (.ok (.object (some r)))) :
    (w.perform request).1.heap.cell? r =
      some { kind, body := .payload (Array.replicate payload.toNat 0) } := by
  have hcreate (hdone : (objectReply (w.createObject kind payload).2 : Turn κ) =
      .done (.ok (.object (some r)))) : (w.createObject kind payload).1.heap.cell? r =
        some { kind, body := .payload (Array.replicate payload.toNat 0) } := by
    rcases (w.createObject_cases kind payload).2 with ⟨e, he, -⟩ | ⟨hok, hheap⟩
    · rw [he] at hdone
      cases hdone
    · rw [hok] at hdone
      cases hdone
      rw [hheap, Heap.cell?_addObject, if_pos rfl]
  unfold Request.creates? at hcreates
  split at hcreates
  next i kind' payload' =>
    cases hcreates
    cases hrt : w.runtimes[i]? with
    | none =>
      rw [perform_on_none hrt] at hdone
      cases hdone
    | some rt =>
      rw [perform_on hrt] at hdone ⊢
      simp only [operate] at hdone ⊢
      split at hdone
      next hcontains =>
        rw [if_pos hcontains]
        exact hcreate hdone
      · cases hdone
  next kind' payload' =>
    cases hcreates
    exact hcreate hdone
  · cases hcreates

/-! ## Runs -/

namespace Moment

/-- The write that is made to the storage of an object at this moment, if there is one. -/
def writes (r : Ref) (m : Moment κ σ φ) : List Write :=
  match m.control with
  | .perform (.service (.write o start bytes)) =>
    if o = r ∧ (m.world.heap.live? r).isSome then [⟨start, bytes⟩] else []
  | _ => []

/-- An object is made at this moment, of this kind and with so large a payload. -/
def Creates (m : Moment κ σ φ) (r : Ref) (kind : KindId) (payload : UInt64) : Prop :=
  ∃ request, m.control = .perform request ∧ request.creates? = some (kind, payload) ∧
    (m.world.perform request).2 = .done (.ok (.object (some r)))

variable (host : Host κ σ φ) {m : Moment κ σ φ} {r : Ref} {c : Cell κ}

theorem writes_of_ne (h : ∀ start bytes, m.control ≠ .perform (.service (.write r start bytes))) :
    m.writes r = [] := by
  unfold writes
  split
  next o start bytes hcontrol =>
    refine if_neg fun hr => h start bytes ?_
    rw [hcontrol, hr.1]
  · rfl

theorem storage_step_write {start : Nat} {bytes : List UInt8} (hc : m.world.heap.cell? r = some c)
    (hcontrol : m.control = .perform (.service (.write r start bytes))) :
    ∃ c', (m.step host).world.heap.cell? r = some c' ∧ c'.kind = c.kind ∧
      c'.body = (m.writes r).foldl Write.apply c.body := by
  rw [world_step_perform host hcontrol]
  simp only [writes, hcontrol, World.perform, World.serve, World.amend]
  cases hlive : m.world.heap.live? r with
  | none => exact ⟨c, hc, rfl, rfl⟩
  | some d =>
    refine ⟨{ c with body := World.writeBody start bytes c.body }, ?_, rfl, rfl⟩
    rw [Heap.cell?_update, if_pos rfl, hc]
    rfl

/-- **A step keeps the kind of an object, and changes its storage by a write to it only.** -/
theorem storage_step (hc : m.world.heap.cell? r = some c) :
    ∃ c', (m.step host).world.heap.cell? r = some c' ∧ c'.kind = c.kind ∧
      c'.body = (m.writes r).foldl Write.apply c.body := by
  by_cases hwrite : ∃ start bytes, m.control = .perform (.service (.write r start bytes))
  · obtain ⟨start, bytes, hcontrol⟩ := hwrite
    exact storage_step_write host hc hcontrol
  · have hother : ∀ start bytes, m.control ≠ .perform (.service (.write r start bytes)) :=
      fun start bytes hcontrol => hwrite ⟨start, bytes, hcontrol⟩
    rw [writes_of_ne hother]
    by_cases hperform : ∃ request, m.control = .perform request
    · obtain ⟨request, hcontrol⟩ := hperform
      rw [world_step_perform host hcontrol]
      obtain ⟨c', hc', hkeeps⟩ := (m.world.perform_outcome request).keepsStorage hc
        fun start bytes hrequest => hother start bytes (hcontrol.trans (by rw [hrequest]))
      exact ⟨c', hc', hkeeps.kind, hkeeps.body⟩
    · have hheap := (step_frame host fun request hcontrol => hperform ⟨request, hcontrol⟩).1
      exact ⟨c, by rw [hheap, hc], rfl, rfl⟩

theorem storage_run (hc : m.world.heap.cell? r = some c) (n : Nat) :
    ∃ c', (m.run host n).world.heap.cell? r = some c' ∧ c'.kind = c.kind ∧
      c'.body = (m.trace host (writes r) n).foldl Write.apply c.body := by
  induction n with
  | zero => exact ⟨c, hc, rfl, rfl⟩
  | succ n ih =>
    obtain ⟨c', hc', hkind, hbody⟩ := ih
    obtain ⟨c'', hc'', hkind', hbody'⟩ := storage_step host hc'
    rw [run_succ, trace_succ, List.foldl_append, ← hbody]
    exact ⟨c'', hc'', hkind'.trans hkind, hbody'⟩

theorem Creates.cell? {kind : KindId} {payload : UInt64} (h : m.Creates r kind payload) :
    (m.step host).world.heap.cell? r =
      some { kind, body := .payload (Array.replicate payload.toNat 0) } := by
  obtain ⟨request, hcontrol, hcreates, hdone⟩ := h
  rw [world_step_perform host hcontrol]
  exact World.cell?_of_creates hcreates hdone

/-- **The storage of an object is its own.**  As long as an object is in use, its kind is the one it
was made with, and its payload has the size it was made with and holds, in every place, what the
last write to this object put there that reached the place, or zero, whatever its storage held when
it was served.  At no step does any record change its kind, nor what follows its header unless the
step is a write to this object. -/
theorem storage_private (m : Moment κ σ φ) {k n : Nat} {kind : KindId} {payload : UInt64}
    (hcreated : (m.run host k).Creates r kind payload) (hk : k < n)
    (hlive : (m.run host n).world.heap.live? r = some c) :
    c.kind = kind ∧
      (∃ content, c.body = .payload content ∧ content.size = payload.toNat ∧
        ∀ place < payload.toNat, content[place]? = some (Write.overlay
          ((m.run host (k + 1)).trace host (writes r) (n - (k + 1))) place 0)) ∧
      ∀ j o d, (m.run host j).world.heap.cell? o = some d →
        ∃ d', (m.run host (j + 1)).world.heap.cell? o = some d' ∧ d'.kind = d.kind ∧
          ((∀ start bytes, (m.run host j).control ≠ .perform (.service (.write o start bytes))) →
            d'.body = d.body) := by
  have hmade := hcreated.cell? host
  rw [← run_succ] at hmade
  obtain ⟨c', hc', hkind, hbody⟩ := storage_run host hmade (n - (k + 1))
  rw [← run_add, show k + 1 + (n - (k + 1)) = n by omega] at hc'
  obtain rfl : c' = c := Option.some.inj (hc'.symm.trans (Heap.live?_eq_some_iff.1 hlive).1)
  refine ⟨hkind, ?_, fun j o d hd => ?_⟩
  · obtain ⟨content, hcontent, hsize, hplaces⟩ := World.foldl_apply_payload (κ := κ)
      ((m.run host (k + 1)).trace host (writes r) (n - (k + 1))) (Array.replicate payload.toNat 0)
    refine ⟨content, hbody.trans hcontent, by rw [hsize, Array.size_replicate], ?_⟩
    intro place hplace
    rw [hplaces, Array.getElem?_replicate, if_pos hplace]
    rfl
  · obtain ⟨d', hd', hkind', hbody'⟩ := storage_step host hd
    rw [run_succ]
    refine ⟨d', hd', hkind', fun hother => ?_⟩
    rw [hbody', writes_of_ne hother]
    rfl

/-- A client that writes to two objects in turn. -/
def writeInTurn : Procedure Unit Unit Answer :=
  .ask (.service (.startRuntime none)) fun _ =>
  .ask (.on 0 (.register 10)) fun _ =>
  .ask (.on 0 (.newObject 10 4)) fun _ =>
  .ask (.service (.createObject 11 1)) fun _ =>
  .ask (.service (.write (.object 0) 1 [7, 8])) fun _ =>
  .ask (.service (.write (.object 1) 0 [5])) fun _ =>
  .ask (.service (.write (.object 0) 2 [9, 10, 11])) fun _ =>
  .done (.ok none)

theorem storage_private_writeInTurn :
    let host : Host Unit Unit _ := Procedure.toHost fun _ => writeInTurn
    let m := start {} () (writeInTurn.toMove ()).2
    (m.run host 4).Creates (.object 0) 10 4 ∧
      ∃ c content, (m.run host 14).world.heap.live? (.object 0) = some c ∧ c.kind = 10 ∧
        c.body = .payload content ∧ content.size = 4 ∧ content[1]? = some 7 ∧
        content[2]? = some 9 := by
  intro host m
  have hcreated : (m.run host 4).Creates (.object 0) 10 4 := ⟨_, rfl, rfl, rfl⟩
  obtain ⟨c, hc⟩ : ∃ c, (m.run host 14).world.heap.live? (.object 0) = some c :=
    Option.isSome_iff_exists.1 (by decide +kernel)
  obtain ⟨hkind, ⟨content, hbody, hsize, hplaces⟩, -⟩ :=
    storage_private host m hcreated (show 4 < 14 by decide) hc
  have hfirst : Write.overlay ((m.run host 5).trace host (writes (.object 0)) 9) 1 0 = 7 := by
    decide +kernel
  have hlast : Write.overlay ((m.run host 5).trace host (writes (.object 0)) 9) 2 0 = 9 := by
    decide +kernel
  exact ⟨hcreated, c, content, hc, hkind, hbody, hsize,
    (hplaces 1 (by decide)).trans (congrArg some hfirst),
    (hplaces 2 (by decide)).trans (congrArg some hlast)⟩

end Moment

end ObjectRuntime
