import GeoConformance.CommandLine.Grammar
import GeoConformance.Package

/-!
# The command

The command validates one package. It prints a line for every adverse outcome, or for every outcome
when asked to, and a summary; its exit status is 0 for a conforming package, 1 for another one and 2
when there is no report.
-/

namespace GeoConformance
namespace CommandLine

def suiteTitle : String := "--suite"
def timeoutTitle : String := "--timeout"
def verboseTitle : String := "--verbose"

def grammar : Grammar where
  switches := [helpSwitch, ⟨[suiteTitle], .value (Suite.all.map Suite.name).contains⟩,
    realSwitch timeoutTitle, ⟨[verboseTitle, "-v"], .flag⟩]
  takesOperand := true
  required := []

/-- The suites are none at all if one of them is left blank. -/
structure Request where
  package : String
  suites : Option (List String)
  timeout : Option Number
  verbose : Bool

/-- A blank time limit is no limit. -/
def Request.ofParsed (p : Parsed) : Request where
  package := p.operand.getD ""
  suites := (p.values suiteTitle).mapM id
  timeout := (p.last? timeoutTitle).map fun text =>
    ((text.bind Numeral.readReal?).map Number.real).getD (.int 0)
  verbose := p.has verboseTitle

/-- What a command leaves behind when it ends by itself. -/
structure Ending where
  status : Nat
  output : String
  errors : String
deriving DecidableEq

namespace Ending

def failed (kind message : String) : Ending := ⟨2, "", s!"  {kind}: {message}\n"⟩

end Ending

def outcomeLine (o : Outcome) : String :=
  let subject := if o.subject.isPresent then s!" {o.subject.shown}" else ""
  s!"  {o.status.name.toUpper}[{o.rule}]{subject}: {o.verdict.detail}\n"

def countsText (r : Report) : String :=
  ", ".intercalate (Status.all.map fun s => s!"{r.count s} {s.name}")

def summary (r : Report) : String :=
  if r.isOk then s!"\nOK — {countsText r}\n"
  else
    let failures := s!"{r.count .fail} failure(s)"
    let errors := s!"{r.count .error} error(s)"
    s!"\n{failures}, {errors} ({countsText r})\n"

/-- The outcomes that are printed. -/
def printed (verbose : Bool) (r : Report) : List Outcome :=
  r.outcomes.filter fun o => verbose || o.isAdverse

def ofReport (verbose : Bool) (r : Report) : Ending where
  status := if r.isOk then 0 else 1
  output := String.join ((printed verbose r).map outcomeLine) ++ summary r
  errors := ""

def report (fs : FileSystem) (env : Environment) (request : Request) : Except Failure Report :=
  match request.suites, Package.opened fs request.package with
  | some suites, _ => Package.validate fs env request.package suites request.timeout
  | none, .error fault => .error (.package fault)
  | none, .ok _ => .error (.misuse .blankSuite)

/-- Performs a request; a failure of another kind than those of packages and of the infrastructure
is not handled here. -/
def perform (fs : FileSystem) (env : Environment) (request : Request) : Except Failure Ending :=
  match report fs env request with
  | .ok report => .ok (ofReport request.verbose report)
  | .error (.package fault) => .ok (.failed "ERROR" fault.message)
  | .error (.infrastructure message _ _) => .ok (.failed "FATAL" message)
  | .error f => .error f

/-- The command with its arguments. -/
def run (fs : FileSystem) (env : Environment) (arguments : List String) :
    Except Usage (Except Failure Ending) := do
  return perform fs env (.ofParsed (← grammar.parse arguments))

end CommandLine
end GeoConformance
