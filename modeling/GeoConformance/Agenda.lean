import GeoConformance.Check
import GeoConformance.Report

/-!
# Agendas

An agenda lists the evaluations of a suite. What is evaluated may depend on what the package holds,
so an agenda can also gather something first; if that fails, the failure stands for the rules that
depend on it. Performing an agenda stops only at a failure that is no verdict, with everything
recorded until then still in the report.
-/

namespace GeoConformance

inductive Agenda : Type 1
  | done
  | skip (rule reason : String) (rest : Agenda)
  | evaluate (rule : String) (subject : Value) (check : Check Unit) (rest : Agenda)
  | gather {α : Type} (rules : List String) (subject : Value) (check : Check α)
      (found : α → Agenda) (otherwise : Agenda)

/-- One rule to be evaluated on one subject. -/
structure Evaluation where
  rule : String
  subject : Value
  check : Check Unit

namespace Agenda

/-- Puts evaluations in front of an agenda. -/
def evaluateAll (evaluations : List Evaluation) (rest : Agenda) : Agenda :=
  evaluations.foldr (fun e rest => .evaluate e.rule e.subject e.check rest) rest

def skipAll (rules : List String) (reason : String) : Agenda :=
  rules.foldr (fun rule rest => .skip rule reason rest) .done

/-- What an agenda comes to in a session: whether it was carried to its end, the deadline it leaves
and the report. -/
def perform (s : Session) : Agenda → Deadline → Report → Except Failure Unit × Deadline × Report
  | .done, d, r => (.ok (), d, r)
  | .skip rule reason rest, d, r =>
    match Recording.skip rule reason .null r with
    | (.ok (), r) => rest.perform s d r
    | (.error f, r) => (.error f, d, r)
  | .evaluate rule subject check rest, d, r =>
    let (result, d) := check.run s d
    match Recording.evaluate rule subject result r with
    | (.ok _, r) => rest.perform s d r
    | (.error f, r) => (.error f, d, r)
  | .gather rules subject check found otherwise, d, r =>
    match check.run s d with
    | (.ok a, d) => (found a).perform s d r
    | (.error f, d) =>
      match Recording.recordAll rules subject f r with
      | (.ok (), r) => otherwise.perform s d r
      | (.error f, r) => (.error f, d, r)

end Agenda
end GeoConformance
