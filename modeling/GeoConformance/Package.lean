import GeoConformance.Environment
import GeoConformance.FileSystem
import GeoConformance.Validation

/-!
# Packages

A package is a database file that is opened for reading only. It is known by the sixteen bytes at its
beginning; whether a usable database follows them shows only when it is queried.
-/

namespace GeoConformance
namespace Package

/-- The text `SQLite format 3` and a zero. -/
def signature : List UInt8 :=
  [0x53, 0x51, 0x4c, 0x69, 0x74, 0x65, 0x20, 0x66, 0x6f, 0x72, 0x6d, 0x61, 0x74, 0x20, 0x33, 0]

def isSigned : Content → Bool
  | .bytes data => signature.isPrefixOf data
  | .database .. => true

def backing : Content → Backing
  | .bytes _ => .unreadable
  | .database catalog looks _ => .database catalog looks

/-- The session on a content, whose parts that cannot be read are faults of the session. -/
def session (content : Content) : Session :=
  ⟨backing content, match content with
    | .bytes _ => []
    | .database _ _ faults => faults⟩

/-- The content that is opened under a path. -/
def located (fs : FileSystem) (path : String) : Except PackageFault Content :=
  match fs.file? path with
  | none => .error (.notFound path)
  | some content =>
    match fs.readFault with
    | some reason => .error (.unreadable path reason)
    | none =>
      if !isSigned content then .error (.notDatabase path)
      else match fs.openFault with
        | some reason => .error (.unopenable path reason)
        | none => .ok content

/-- What lies behind a package once it is open. -/
def opened (fs : FileSystem) (path : String) : Except PackageFault Backing :=
  (located fs path).map backing

/-- The report on the package at a path. The time limit comes from the environment unless it is
given. -/
def validate (fs : FileSystem) (env : Environment) (path : String) (suites : List String)
    (timeout : Option Number) : Except Failure Report :=
  match located fs path with
  | .error fault => .error (.package fault)
  | .ok content =>
    let limit := timeout.getD (.real env.queryTimeout)
    match Validation.validate (session content) suites (.ofSeconds (some limit))
        (.empty (some (Path.fileName path))) with
    | (.ok (), _, report) => .ok report
    | (.error f, _, _) => .error f

end Package
end GeoConformance
