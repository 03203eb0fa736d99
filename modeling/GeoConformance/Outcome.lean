import GeoConformance.Failure

/-!
# Outcomes

Every evaluation of a rule ends in one of four verdicts. A verdict carries its cause, from which its
kind and its wording follow.
-/

namespace GeoConformance

inductive Status
  | pass
  | skip
  | fail
  | error
deriving DecidableEq

namespace Status

def all : List Status := [.pass, .skip, .fail, .error]

def name : Status → String
  | .pass => "pass"
  | .skip => "skip"
  | .fail => "fail"
  | .error => "error"

def ofValue (v : Value) : Except Misuse Status :=
  match all.find? fun s => v.same (.text s.name) with
  | some s => .ok s
  | none => .error (.unknownStatus v)

end Status

inductive Verdict
  | pass
  | skip (reason : String)
  | fail (v : Violation)
  | error (message : String)
deriving DecidableEq

namespace Verdict

def status : Verdict → Status
  | .pass => .pass
  | .skip _ => .skip
  | .fail _ => .fail
  | .error _ => .error

def kind? : Verdict → Option String
  | .pass => none
  | .skip _ => some "Inapplicable"
  | .fail v => some v.kind
  | .error _ => some "InfrastructureError"

def detail : Verdict → String
  | .pass => ""
  | .skip reason => reason
  | .fail v => v.detail
  | .error message => message

end Verdict

namespace Failure

/-- A failure is a verdict unless it is fatal or no outcome of a check. -/
def verdict? : Failure → Option Verdict
  | .inapplicable conformanceClass =>
    some (.skip (Failure.inapplicable conformanceClass).message)
  | .violation v => some (.fail v)
  | .infrastructure message _ false => some (.error message)
  | _ => none

end Failure

/-- The verdict of one rule on one subject, which is null where there is none and may be anything
that a package stores. -/
structure Outcome where
  rule : String
  subject : Value
  verdict : Verdict
deriving DecidableEq

namespace Outcome

def status (o : Outcome) : Status := o.verdict.status

/-- Whether the outcome speaks against the package. -/
def isAdverse (o : Outcome) : Bool := o.status == .fail || o.status == .error

end Outcome
end GeoConformance
