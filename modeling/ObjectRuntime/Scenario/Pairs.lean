import ObjectRuntime.Scenario.Session
/-!
# The pairs of a scenario

The allocate and free pairs that a scenario can install.
-/

namespace ObjectRuntime.Scenario

def ordinaryLimit : UInt64 := 0x4000000

def ordinaryPair : Pair := ⟨"track", fun _ size => size ≤ ordinaryLimit⟩

/-- The pairs that a scenario can install, by name. -/
def Session.pair (s : Session) : String → Pair
  | "fail" => ⟨"fail", fun _ _ => false⟩
  | "budget" => ⟨"budget", fun seen size => seen < s.ration && size ≤ ordinaryLimit⟩
  | "limit" => ⟨"limit", fun _ size => size ≤ s.limit⟩
  | _ => ordinaryPair

def pairNames : List String := ["budget", "fail", "limit", "track"]

def trafficOf (name : String) : Act Traffic := do
  match ← service (.traffic name) with
  | .traffic t => return t
  | _ => return {}

/-- Sets the bound of the pair of this name, if there is a new one. -/
def setBound (name : String) (bound : Option Nat) : Act Unit := do
  match bound with
  | none => return
  | some n =>
    if name = "budget" then
      let seen ← trafficOf name
      modify ({ · with ration := seen.requests + n })
    else if name = "limit" then
      modify ({ · with limit := UInt64.ofNat n })

end ObjectRuntime.Scenario
