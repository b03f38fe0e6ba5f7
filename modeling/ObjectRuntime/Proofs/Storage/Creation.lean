import ObjectRuntime.Procedure
import ObjectRuntime.Proofs.Storage.Payload
import ObjectRuntime.Proofs.Storage.Supply
/-!
# Making objects

What becomes of a request for a new object, for every kind, every size and every pair.  An object
of a kind that is not registered, or of a size beyond all sizes (`objectSize_eq_some_iff`), is
refused before any pair is asked.  Otherwise the installed pair is asked once, for exactly the
header and the payload, and decides (`AskedOnce`).
-/

namespace ObjectRuntime

variable {κ : Type}

theorem Allocator.requests_release (a : Allocator) (name : String) :
    (a.release.trafficOf name).requests = (a.trafficOf name).requests := by
  rw [trafficOf_eq_of_insert a.traffic_release]
  by_cases hname : name = a.installed.name
  · rw [if_pos hname, hname]
  · rw [if_neg hname]

namespace World

/-! ## Sizes -/

/-- Sizes do not wrap: that of an object is the header and the payload, or there is none. -/
theorem objectSize_eq_some_iff {payload size : UInt64} :
    objectSize payload = some size ↔ size.toNat = headerSize + payload.toNat := by
  constructor
  · intro h
    obtain ⟨hfits, hsize⟩ := Option.ite_none_right_eq_some.1 h
    cases hsize
    exact UInt64.toNat_ofNat_of_lt hfits
  · intro hsize
    have hfits : headerSize + payload.toNat < UInt64.size := hsize ▸ size.toNat_lt
    rw [objectSize, if_pos hfits, ← hsize, UInt64.ofNat_toNat]

theorem headerSize_le_of_demand {w : World κ} {request : Request κ} {size : UInt64}
    (hdemand : request.demand w = some size) (hraw : request ≠ .service (.allocate size)) :
    headerSize ≤ size.toNat ∧ ∀ kind payload, request.creates? = some (kind, payload) →
      size.toNat = headerSize + payload.toNat := by
  have hobject {kind : KindId} {payload : UInt64} (h : objectSize payload = some size) :
      headerSize ≤ size.toNat ∧ ∀ kind' payload', some (kind, payload) = some (kind', payload') →
        size.toNat = headerSize + payload'.toNat := by
    have hsize := objectSize_eq_some_iff.1 h
    refine ⟨by omega, fun kind' payload' heq => ?_⟩
    cases heq
    exact hsize
  unfold Request.demand at hdemand
  split at hdemand
  next i kind payload =>
    obtain ⟨rt, -, h⟩ := Option.bind_eq_some_iff.1 hdemand
    exact hobject (Option.ite_none_right_eq_some.1 h).2
  next kind payload => exact hobject hdemand
  next code =>
    cases hdemand
    exact ⟨by decide, fun _ _ h => by cases h⟩
  next size' =>
    cases hdemand
    exact absurd rfl hraw
  next cap =>
    cases hdemand
    exact ⟨by decide, fun _ _ h => by cases h⟩
  · obtain ⟨-, h⟩ := Option.ite_none_right_eq_some.1 hdemand
    cases h
    exact ⟨by decide, fun _ _ h => by cases h⟩
  next call =>
    obtain ⟨-, h⟩ := Option.ite_none_right_eq_some.1 hdemand
    cases h
    exact ⟨by decide, fun _ _ h => by cases h⟩
  · cases hdemand

/-! ## Requests for storage -/

/-- The pair that is installed in `w` was asked once, for storage of this size, and no other pair
was. -/
structure AskedOnce (w w' : World κ) (size : UInt64) : Prop where
  allocator : w'.allocator = (w.allocator.allocate size).1
  requests : ∀ name, (w'.allocator.trafficOf name).requests =
    (w.allocator.trafficOf name).requests + if name = w.allocator.installed.name then 1 else 0

theorem askedOnce {w w' : World κ} {size : UInt64}
    (h : w'.allocator = (w.allocator.allocate size).1) : w.AskedOnce w' size where
  allocator := h
  requests name := by
    rw [h, Allocator.trafficOf_eq_of_insert (w.allocator.traffic_allocate size)]
    by_cases hname : name = w.allocator.installed.name
    · rw [if_pos hname, if_pos hname, hname]
    · rw [if_neg hname, if_neg hname, Nat.add_zero]

/-- **No request asks a pair for less than a header**, or for more or less than the header and the
payload of the object that it is to make, other than for a raw block. -/
theorem perform_asks (w : World κ) (request : Request κ) :
    (∀ name, ((w.perform request).1.allocator.trafficOf name).requests =
        (w.allocator.trafficOf name).requests) ∨
      ∃ size, w.AskedOnce (w.perform request).1 size ∧
        (request = .service (.allocate size) ∨ headerSize ≤ size.toNat ∧
          ∀ kind payload, request.creates? = some (kind, payload) →
            size.toNat = headerSize + payload.toNat) := by
  cases w.perform_supply request with
  | kept _ _ _ hsame =>
    left
    intro name
    rw [hsame.allocator]
  | asked size hdemand _ hasked =>
    refine .inr ⟨size, askedOnce hasked.allocator, ?_⟩
    by_cases hraw : request = .service (.allocate size)
    · exact .inl hraw
    · exact .inr (headerSize_le_of_demand hdemand hraw)
  | returned _ _ _ hback =>
    left
    intro name
    rw [hback.allocator, Allocator.requests_release]
  | installed pair _ hallocator =>
    left
    intro name
    rw [hallocator]
    rfl

/-! ## Objects -/

/-- An object with a count of 1 was made, of this kind and with a payload of so many zero bytes, and
nothing became of what was on record before. -/
structure MadeObject (w w' : World κ) (r : Ref) (kind : KindId) (payload : UInt64) : Prop where
  fresh : w.heap.cell? r = none
  distinct : ∀ o c, w.heap.live? o = some c → o ≠ r
  live : w'.heap.live? r =
    some { kind, body := .payload (Array.replicate payload.toNat 0), count := 1 }
  others : ∀ o, o ≠ r → w'.heap.cell? o = w.heap.cell? o
  total : w'.allocator.total = w.allocator.total + 1
  inUse : w'.allocator.live = w.allocator.live + 1

theorem madeObject {w w' : World κ} {kind : KindId} {payload size : UInt64}
    (hserved : (w.allocator.allocate size).2 = true)
    (hallocator : w'.allocator = (w.allocator.allocate size).1)
    (hheap : w'.heap =
      w.heap.addObject { kind, body := .payload (Array.replicate payload.toNat 0) }) :
    w.MadeObject w' w.heap.nextObject kind payload where
  fresh := w.heap.cell?_nextObject
  distinct o c hc := by
    rintro rfl
    have hrecord := (Heap.live?_eq_some_iff.1 hc).1
    rw [w.heap.cell?_nextObject] at hrecord
    cases hrecord
  live := by
    rw [Heap.live?_eq_some_iff, hheap, Heap.cell?_addObject, if_pos rfl]
    exact ⟨rfl, rfl⟩
  others o ho := by rw [hheap, Heap.cell?_addObject, if_neg ho]
  total := by
    rw [hallocator, Allocator.total_allocate, hserved]
    rfl
  inUse := by
    rw [hallocator, Allocator.live_allocate, hserved]
    rfl

variable (w : World κ) (kind : KindId) {payload size : UInt64}

theorem createObject_of_overflow (h : UInt64.size ≤ headerSize + payload.toNat) :
    w.createObject kind payload =
      (w, .error (.allocationFailed (UInt64.ofNat (UInt64.size - 1)))) := by
  rw [createObject, if_neg (Nat.not_lt.2 h)]

theorem createObject_of_refused (hsize : size.toNat = headerSize + payload.toNat)
    (hrefused : (w.allocator.allocate size).2 = false) : w.createObject kind payload =
      ({ w with allocator := (w.allocator.allocate size).1 },
        .error (.allocationFailed size)) := by
  have hfits : size.toNat < UInt64.size := size.toNat_lt
  simp only [createObject, ← hsize, if_pos hfits, UInt64.ofNat_toNat, allocate]
  rcases hanswer : w.allocator.allocate size with ⟨allocator, _ | _⟩
  · rfl
  · rw [hanswer] at hrefused
    cases hrefused

theorem createObject_of_served (hsize : size.toNat = headerSize + payload.toNat)
    (hserved : (w.allocator.allocate size).2 = true) :
    (w.createObject kind payload).2 = .ok w.heap.nextObject ∧
      w.AskedOnce (w.createObject kind payload).1 size ∧
      w.MadeObject (w.createObject kind payload).1 w.heap.nextObject kind payload := by
  have hfits : size.toNat < UInt64.size := size.toNat_lt
  obtain ⟨journal, hw⟩ := w.allocate_eq size (.object w.heap.nextObject)
  rw [hserved] at hw
  simp only [createObject, ← hsize, if_pos hfits, UInt64.ofNat_toNat, hw, freshPayload_eq]
  exact ⟨trivial, askedOnce rfl, madeObject hserved rfl rfl⟩

/-- **Making an object is exact**, for every kind, every size of the payload and every pair.  A kind
that is not registered is refused, and so is a size beyond all sizes, and no pair is asked.
Otherwise the pair that is installed at that moment is asked once, for the header and the payload.
If it refuses, this is told with the size, and nothing else changes.  If it serves the request there
is an object under a new name, with a count of 1, of this kind and with a zero payload, and the
counters are one up.  Whatever else is asked for, no request asks a pair for less than a header or
for a size that wrapped around. -/
theorem newObject_exact {w w' : World κ} {turn : Turn κ} {i : RuntimeId} {rt : Runtime κ}
    (hrt : w.runtimes[i]? = some rt) (kind : KindId) (payload : UInt64)
    (hperform : w.perform (.on i (.newObject kind payload)) = (w', turn)) :
    (rt.registry.contains kind = false →
        w' = w ∧ turn = .done (.error (.unregisteredKind kind))) ∧
      (rt.registry.contains kind = true → UInt64.size ≤ headerSize + payload.toNat →
        w' = w ∧ turn = .done (.error (.allocationFailed (UInt64.ofNat (UInt64.size - 1))))) ∧
      (rt.registry.contains kind = true → headerSize + payload.toNat < UInt64.size →
        let pair := w.allocator.installed
        let seen := (w.allocator.trafficOf pair.name).requests
        ∃ size : UInt64, size.toNat = headerSize + payload.toNat ∧ w.AskedOnce w' size ∧
          (pair.serves seen size = false → turn = .done (.error (.allocationFailed size)) ∧
            w' = { w with allocator := w'.allocator } ∧
            w'.allocator.total = w.allocator.total ∧ w'.allocator.live = w.allocator.live) ∧
          (pair.serves seen size = true →
            ∃ r, turn = .done (.ok (.object (some r))) ∧ w.MadeObject w' r kind payload)) ∧
      ∀ (v : World κ) (request : Request κ),
        (∀ name, ((v.perform request).1.allocator.trafficOf name).requests =
            (v.allocator.trafficOf name).requests) ∨
          ∃ size, v.AskedOnce (v.perform request).1 size ∧
            (request = .service (.allocate size) ∨ headerSize ≤ size.toNat ∧
              ∀ kind payload, request.creates? = some (kind, payload) →
                size.toNat = headerSize + payload.toNat) := by
  rw [perform_on hrt, operate] at hperform
  refine ⟨fun hkind => ?_, fun hkind hbig => ?_, fun hkind hfits => ?_, perform_asks⟩
  · rw [if_neg (by rw [hkind]; decide)] at hperform
    cases hperform
    exact ⟨rfl, rfl⟩
  · rw [if_pos hkind, createObject_of_overflow w kind hbig] at hperform
    cases hperform
    exact ⟨rfl, rfl⟩
  · rw [if_pos hkind] at hperform
    change ((w.createObject kind payload).1, objectReply (w.createObject kind payload).2) =
      (w', turn) at hperform
    obtain ⟨size, hsize⟩ : ∃ size : UInt64, size.toNat = headerSize + payload.toNat :=
      ⟨_, UInt64.toNat_ofNat_of_lt hfits⟩
    have hdecides := w.allocator.allocate_snd size
    refine ⟨size, hsize, ?_⟩
    cases hserved : (w.allocator.allocate size).2 with
    | false =>
      rw [createObject_of_refused w kind hsize hserved] at hperform
      cases hperform
      refine ⟨askedOnce rfl, fun _ => ⟨rfl, rfl, ?_, ?_⟩, fun h => ?_⟩
      · rw [Allocator.total_allocate, hserved]
        rfl
      · rw [Allocator.live_allocate, hserved]
        rfl
      · rw [hserved, h] at hdecides
        cases hdecides
    | true =>
      obtain ⟨hok, hasked, hmade⟩ := createObject_of_served w kind hsize hserved
      obtain ⟨rfl, rfl⟩ := Prod.mk.inj hperform
      refine ⟨hasked, fun h => ?_, fun _ => ⟨w.heap.nextObject, ?_, hmade⟩⟩
      · rw [hserved, h] at hdecides
        cases hdecides
      · rw [hok]
        rfl

/-- A process with one runtime, in which kind 10 is registered. -/
def oneKind : World Unit :=
  ((({} : World Unit).startRuntime none).1.perform (.on 0 (.register 10))).1

theorem newObject_exact_oneKind :
    (oneKind.perform (.on 0 (.newObject 11 4))).2 = .done (.error (.unregisteredKind 11)) ∧
      (oneKind.perform (.on 0 (.newObject 10 0xFFFFFFFFFFFFFFF0))).2 =
        .done (.error (.allocationFailed 0xFFFFFFFFFFFFFFFF)) ∧
      (∃ size : UInt64, size.toNat = 0xFFFFFFFFFFFFFFFF ∧
        oneKind.AskedOnce (oneKind.perform (.on 0 (.newObject 10 0xFFFFFFFFFFFFFFEF))).1 size) ∧
      ∃ r, oneKind.MadeObject (oneKind.perform (.on 0 (.newObject 10 4))).1 r 10 4 := by
  obtain ⟨rt, hrt⟩ : ∃ rt, oneKind.runtimes[0]? = some rt := ⟨_, rfl⟩
  have hknown : rt.registry.contains 10 = true ∧ rt.registry.contains 11 = false := by
    cases hrt
    exact ⟨rfl, rfl⟩
  obtain ⟨hunknown, -⟩ := newObject_exact hrt 11 4 rfl
  obtain ⟨-, hbeyond, -⟩ := newObject_exact hrt 10 0xFFFFFFFFFFFFFFF0 rfl
  obtain ⟨-, -, hlast, -⟩ := newObject_exact hrt 10 0xFFFFFFFFFFFFFFEF rfl
  obtain ⟨-, -, hsmall, -⟩ := newObject_exact hrt 10 4 rfl
  obtain ⟨size, hsize, hasked, -⟩ := hlast hknown.1 (by decide)
  obtain ⟨size', hsize', -, -, hmade⟩ := hsmall hknown.1 (by decide)
  obtain rfl : size' = 20 := UInt64.toNat_inj.1 hsize'
  obtain ⟨r, -, hr⟩ := hmade (by decide)
  exact ⟨(hunknown hknown.2).2, (hbeyond hknown.1 (by decide)).2, ⟨size, hsize, hasked⟩, r, hr⟩

end World

end ObjectRuntime
