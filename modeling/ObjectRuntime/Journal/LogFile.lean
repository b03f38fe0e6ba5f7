import ObjectRuntime.Settings
/-!
# Log files

Where the log file of a path is, seen from the working directory.
-/

namespace ObjectRuntime.LogFile

/-- The parts of a path that name something. -/
def parts (path : String) : List String :=
  (path.splitOn "/").filter fun part => part ≠ "" ∧ part ≠ "."

/-- Follows directories down from the working directory; `none` once it leads above it. -/
def descend (directories : List String) : Option (List String) :=
  directories.foldlM (fun here part =>
    if part ≠ ".." then some (here ++ [part])
    else if here = [] then none
    else some here.dropLast) []

/-- The log file of a path, relative to the working directory, if it is below it.  The last part
names the file; a path that ends in no name gets the standard file. -/
def place (path : String) : Option String :=
  let parts := parts path
  match parts.getLast? with
  | none => some LogSettings.standardFile
  | some last =>
    let file := if last = ".." then LogSettings.standardFile else last
    if path.startsWith "/" then none
    else (descend parts.dropLast).map fun directory => "/".intercalate (directory ++ [file])

end ObjectRuntime.LogFile
