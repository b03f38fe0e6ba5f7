import ObjectRuntime.Text.Blank
import ObjectRuntime.Text.Case
import ObjectRuntime.Text.Decimal
/-!
# The call-depth setting

The cap on the hops of one application, as it is written in the environment: a number, or `none`
or zero for no cap.
-/

namespace ObjectRuntime

/-- How many hops one application may take; `none` for any number. -/
abbrev DepthCap := Option UInt64

namespace DepthCap

/-- The cap of a runtime that was not told otherwise. -/
def standard : DepthCap := some 4096

/-- The cap that a text asks for; nothing if it is not understood. -/
def parse? (s : String) : Option DepthCap :=
  let cs := Text.strip s.toList
  if Text.sameWord cs "none" then some none
  else (Text.readWord? cs).map fun n => if n = 0 then none else some n

end DepthCap

end ObjectRuntime
