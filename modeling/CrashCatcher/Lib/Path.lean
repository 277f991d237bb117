import CrashCatcher.Lib.Text

namespace CrashCatcher.Lib.Path
open Text

def fileName (path : Str) : Option Str := do
  let last ← ((path.splitOn '/').filter fun part => part ≠ [] && part ≠ ['.']).getLast?
  if last = "..".toList then none else some last

/-- `Path::extension`; a name that starts with its only dot has none. -/
def extension (path : Str) : Option Str := do
  let (stem, after) ← rsplitOnce '.' (← fileName path)
  if stem = [] then none else some after

def join (base name : Str) : Str :=
  if name.head? = some '/' then name
  else if base = [] || base.getLast? = some '/' then base ++ name
  else base ++ '/' :: name

end CrashCatcher.Lib.Path
