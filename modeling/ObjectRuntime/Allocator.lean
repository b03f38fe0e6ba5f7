import ObjectRuntime.Table
/-!
# Allocators

Storage comes from whichever allocate and free `Pair` is installed when it is asked for, and goes
back to whichever is installed when it is given back.  Whether a request is served is up to the
pair; that of the platform looks at the size of the request and at nothing else (`Pair.Memoryless`).
-/

namespace ObjectRuntime

/-- An allocate and free pair: what it is called and which requests it serves.  A request is known
by how many requests the pair got before it, and by its size. -/
structure Pair where
  name : String
  serves : Nat → UInt64 → Bool

/-- The pair of the platform heap: it serves what fits into the address space of a process. -/
def Pair.system : Pair := ⟨"system", fun _ size => size < 0x800000000000⟩

/-- A pair that looks at the size of a request only. -/
def Pair.Memoryless (p : Pair) : Prop := ∀ n m size, p.serves n size = p.serves m size

theorem Pair.system_memoryless : Pair.system.Memoryless := fun _ _ _ => rfl

structure Traffic where
  requests : Nat := 0
  returns : Nat := 0
  deriving DecidableEq, Repr

/-- The installed pair, the counters, and what each pair was asked so far. -/
structure Allocator where
  installed : Pair := .system
  live : Nat := 0
  total : Nat := 0
  traffic : Table String Traffic := ∅

namespace Allocator

def trafficOf (a : Allocator) (name : String) : Traffic := (a.traffic.get? name).getD {}

/-- Asks the installed pair for storage; also says whether it served the request. -/
def allocate (a : Allocator) (size : UInt64) : Allocator × Bool :=
  let seen := a.trafficOf a.installed.name
  let traffic := a.traffic.insert a.installed.name { seen with requests := seen.requests + 1 }
  if a.installed.serves seen.requests size then
    ({ a with live := a.live + 1, total := a.total + 1, traffic }, true)
  else
    ({ a with traffic }, false)

def release (a : Allocator) : Allocator :=
  let seen := a.trafficOf a.installed.name
  { a with
    live := a.live - 1
    traffic := a.traffic.insert a.installed.name { seen with returns := seen.returns + 1 } }

/-- Installs a pair; also says which it replaces. -/
def install (a : Allocator) (pair : Pair) : Allocator × Pair :=
  ({ a with installed := pair }, a.installed)

/-! ## What a request does to the counters -/

theorem allocate_snd (a : Allocator) (size : UInt64) : (a.allocate size).2 =
    a.installed.serves (a.trafficOf a.installed.name).requests size := by
  unfold allocate
  dsimp only
  split <;> simp_all

@[simp] theorem installed_allocate (a : Allocator) (size : UInt64) :
    (a.allocate size).1.installed = a.installed := by
  unfold allocate
  dsimp only
  split <;> rfl

@[simp] theorem live_allocate (a : Allocator) (size : UInt64) :
    (a.allocate size).1.live = a.live + (a.allocate size).2.toNat := by
  unfold allocate
  dsimp only
  split <;> rfl

@[simp] theorem total_allocate (a : Allocator) (size : UInt64) :
    (a.allocate size).1.total = a.total + (a.allocate size).2.toNat := by
  unfold allocate
  dsimp only
  split <;> rfl

theorem trafficOf_eq_of_insert {a b : Allocator} {t : Traffic}
    (h : b.traffic = a.traffic.insert a.installed.name t) (name : String) :
    b.trafficOf name = if name = a.installed.name then t else a.trafficOf name := by
  rw [trafficOf, h, Table.get?_insert]
  split <;> rfl

theorem traffic_allocate (a : Allocator) (size : UInt64) :
    (a.allocate size).1.traffic = a.traffic.insert a.installed.name
      { a.trafficOf a.installed.name with
        requests := (a.trafficOf a.installed.name).requests + 1 } := by
  unfold allocate
  dsimp only
  split <;> rfl

theorem traffic_release (a : Allocator) :
    a.release.traffic = a.traffic.insert a.installed.name
      { a.trafficOf a.installed.name with
        returns := (a.trafficOf a.installed.name).returns + 1 } :=
  rfl

/-! ## Requests in another order -/

variable {a : Allocator}

theorem allocate_fst (a : Allocator) (size : UInt64) : (a.allocate size).1 =
    { a with
      live := a.live + (a.allocate size).2.toNat
      total := a.total + (a.allocate size).2.toNat
      traffic := a.traffic.insert a.installed.name
        { a.trafficOf a.installed.name with
          requests := (a.trafficOf a.installed.name).requests + 1 } } := by
  unfold allocate
  dsimp only
  split <;> rfl

theorem trafficOf_allocate (a : Allocator) (size : UInt64) :
    (a.allocate size).1.trafficOf a.installed.name =
      { a.trafficOf a.installed.name with
        requests := (a.trafficOf a.installed.name).requests + 1 } := by
  rw [trafficOf_eq_of_insert (a.traffic_allocate size), if_pos rfl]

theorem allocate_snd_congr {b : Allocator} (hinstalled : b.installed = a.installed)
    (h : a.installed.Memoryless) (size : UInt64) : (b.allocate size).2 = (a.allocate size).2 := by
  rw [allocate_snd, allocate_snd, hinstalled]
  exact h _ _ _

/-- Two requests to a memoryless pair can be made in either order. -/
theorem allocate_allocate (h : a.installed.Memoryless) (size size' : UInt64) :
    (a.allocate size).1.allocate size' =
      (((a.allocate size').1.allocate size).1, (a.allocate size').2) := by
  have hserved (size size' : UInt64) :
      ((a.allocate size).1.allocate size').2 = (a.allocate size').2 :=
    allocate_snd_congr (a.installed_allocate size) h size'
  refine Prod.ext ?_ (hserved size size')
  dsimp only
  rw [allocate_fst, allocate_fst (a.allocate size').1, hserved, hserved]
  simp only [installed_allocate, trafficOf_allocate, traffic_allocate, live_allocate,
    total_allocate, Table.insert_insert]
  rw [Nat.add_right_comm, Nat.add_right_comm a.total]

theorem release_allocate (h : a.installed.Memoryless) (size : UInt64) (hlive : 0 < a.live) :
    (a.allocate size).1.release = (a.release.allocate size).1 := by
  have hinstalled : a.release.installed = a.installed := rfl
  have hserved := allocate_snd_congr hinstalled h size
  have hreturned : a.release.trafficOf a.installed.name =
      { a.trafficOf a.installed.name with
        returns := (a.trafficOf a.installed.name).returns + 1 } := by
    rw [trafficOf_eq_of_insert a.traffic_release, if_pos rfl]
  have hcount : a.live + (a.allocate size).2.toNat - 1 =
      a.live - 1 + (a.allocate size).2.toNat := by
    omega
  rw [allocate_fst a.release, hserved, hinstalled, hreturned, traffic_release,
    Table.insert_insert, release, installed_allocate, trafficOf_allocate, live_allocate,
    total_allocate, traffic_allocate, Table.insert_insert, hcount]
  rfl

end Allocator

end ObjectRuntime
