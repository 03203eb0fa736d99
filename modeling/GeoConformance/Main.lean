import GeoConformance.CommandLine

/-!
# The executable

Reads the arguments, the environment and the file, and prints what the command comes to. The pages of
a database are left to an engine that is not linked here, so a signed file counts as one with nothing
usable behind its signature.
-/

namespace GeoConformance
namespace CommandLine

/-- The one file that a request is about. -/
def surroundings (path : String) : IO FileSystem := do
  let read ← (IO.FS.readBinFile path).toBaseIO
  match read with
  | .ok data => return ⟨"/", fun p => if p = path then some (.bytes data.toList) else none, none, none⟩
  | .error (.noFileOrDirectory ..) => return ⟨"/", fun _ => none, none, none⟩
  | .error (.inappropriateType ..) => return ⟨"/", fun _ => none, none, none⟩
  | .error e =>
    return ⟨"/", fun p => if p = path then some (.bytes []) else none, some (toString e), none⟩

def settings : IO Environment := do
  let timeout ← IO.getEnv Environment.timeoutName
  return (timeout.map fun text => (Environment.timeoutName, text)).toList

end CommandLine
end GeoConformance

open GeoConformance in
def main (arguments : List String) : IO UInt32 := do
  match CommandLine.grammar.parse arguments with
  | .error usage =>
    IO.eprintln "usage: [-h] [--suite NAME] [--timeout SECONDS] [--verbose] package"
    return UInt32.ofNat usage.exitStatus
  | .ok parsed =>
    let request := CommandLine.Request.ofParsed parsed
    let fs ← CommandLine.surroundings request.package
    match CommandLine.perform fs (← CommandLine.settings) request with
    | .ok ending =>
      IO.print ending.output
      IO.eprint ending.errors
      return UInt32.ofNat ending.status
    | .error failure =>
      IO.eprintln failure.message
      return 1
