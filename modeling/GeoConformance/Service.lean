import GeoConformance.Package

/-!
# The report service

Three requests can be made of the service of a package: whether it is alive, which suites it knows,
and the report. A report that cannot be given is answered with an HTTP status and a message; the
cause that is named is the first of those in `report`.
-/

namespace GeoConformance
namespace Service

def version : String := "0.1.0"

structure Refusal where
  status : Nat
  message : String
deriving DecidableEq

structure Health where
  status : String
  version : String
  package : Option String
deriving DecidableEq

/-- An empty path is none. -/
def configured (package : Option String) : Option String := package.filter (!·.isEmpty)

def health (package : Option String) : Health :=
  ⟨"ok", version, (configured package).map Path.fileName⟩

def suites : List (String × List String) := Suite.all.map fun s => (s.name, s.rules)

def refusal? : Failure → Option Refusal
  | .package fault => some ⟨400, fault.message⟩
  | .infrastructure message _ _ => some ⟨500, message⟩
  | _ => none

/-- Why a report is refused before anything is opened. -/
def objection? (fs : FileSystem) (path : String) (suite : Option String)
    (timeout : Option Number) : Option Refusal :=
  if (fs.file? path).isNone then some ⟨404, (PackageFault.notFound path).message⟩
  else if timeout.any (·.isNegative) then some ⟨400, "timeout must not be negative"⟩
  else match suite.map Suite.ofName with
    | some (.error m) => some ⟨400, m.message⟩
    | _ => none

def report (fs : FileSystem) (env : Environment) (package suite : Option String)
    (timeout : Option Number) : Except Failure (Except Refusal Report) :=
  match configured package with
  | none => .ok (.error ⟨404, "No package configured"⟩)
  | some path =>
    match objection? fs path suite timeout with
    | some refusal => .ok (.error refusal)
    | none =>
      match Package.validate fs env path suite.toList timeout with
      | .ok report => .ok (.ok report)
      | .error f =>
        match refusal? f with
        | some refusal => .ok (.error refusal)
        | none => .error f

end Service
end GeoConformance
