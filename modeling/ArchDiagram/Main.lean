import ArchDiagram.CommandLine.Program

/-!
# The command line

The outermost layer reads the environment, calls the program and writes what it leaves behind.  It
has no network and starts no other program: both servers are out of reach and the checker cannot be
started, so a run ends with a transport failure, and no service is put up.

* `main`: the entry.
-/

namespace ArchDiagram.CommandLine

def environment : IO (String → Option String) := do
  let values ← Settings.variableNames.mapM fun name => do return (name, ← IO.getEnv name)
  return fun name => (values.lookup name).join

def noPrograms : Programs :=
  fun _ _ _ => .unstartable "programs cannot be started"

/-- Two servers that are out of reach. -/
def offline : World Services :=
  ⟨⟨.unreachable, .unreachable⟩, []⟩

/-- Writes what the program leaves behind and answers its exit code. -/
def leave (r : Report) : IO UInt32 := do
  IO.print r.out
  IO.eprint r.err
  return UInt32.ofNat r.exitCode

end ArchDiagram.CommandLine

open ArchDiagram.CommandLine in
def main (arguments : List String) : IO UInt32 := do
  match (run arguments (← environment) noPrograms offline).1 with
  | .report r => leave r
  | .usage 0 text => leave ⟨0, text, ""⟩
  | .usage code text => leave ⟨code, "", text⟩
  | .serving address _ => leave (failed "" ("cannot listen at " ++ address))
