import GeoConformance.Outcome

/-!
# Reports

A report collects outcomes in the order in which they arise. Recording either appends to it or
refuses a failure that is no verdict, and then leaves it as it was.
-/

namespace GeoConformance

structure Report where
  package : Option String
  outcomes : List Outcome
deriving DecidableEq

namespace Report

def empty (package : Option String) : Report := ⟨package, []⟩

def append (r : Report) (outcomes : List Outcome) : Report :=
  { r with outcomes := r.outcomes ++ outcomes }

def withStatus (r : Report) (s : Status) : List Outcome := r.outcomes.filter (·.status == s)

def forRule (r : Report) (rule : String) : List Outcome := r.outcomes.filter (·.rule == rule)

def count (r : Report) (s : Status) : Nat := (r.withStatus s).length

def isOk (r : Report) : Bool := r.count .fail == 0 && r.count .error == 0

@[simp] theorem append_nil (r : Report) : r.append [] = r := by simp [append]

theorem append_append (r : Report) (a b : List Outcome) :
    (r.append a).append b = r.append (a ++ b) := by simp [append]

theorem isOk_iff {r : Report} : r.isOk = true ↔ ∀ o ∈ r.outcomes, o.isAdverse = false := by
  simp only [isOk, count, withStatus, Outcome.isAdverse, Bool.and_eq_true, beq_iff_eq,
    List.length_eq_zero_iff, List.filter_eq_nil_iff, Bool.or_eq_false_iff, beq_eq_false_iff_ne]
  exact ⟨fun h o ho => ⟨h.1 o ho, h.2 o ho⟩, fun h => ⟨fun o ho => (h o ho).1, fun o ho => (h o ho).2⟩⟩

end Report

/-- A step that may add to a report: its result, and the report afterwards in either case. -/
abbrev Recording (α : Type) : Type := ExceptT Failure (StateM Report) α

namespace Recording

variable {α : Type}

def record (outcomes : List Outcome) : Recording Unit := modify fun r => r.append outcomes

/-- Notes that a rule was not evaluated. -/
def skip (rule reason : String) (subject : Value) : Recording Unit :=
  record [⟨rule, subject, .skip reason⟩]

/-- Records a failure under every one of some rules, or passes it on if it is no verdict. -/
def recordAll (rules : List String) (subject : Value) (f : Failure) : Recording Unit :=
  match rules, f.verdict? with
  | [], _ => pure ()
  | _, some v => record (rules.map fun rule => ⟨rule, subject, v⟩)
  | _, none => throw f

/-- Records what a check on a subject came to. -/
def evaluate (rule : String) (subject : Value) (result : Except Failure Unit) :
    Recording Outcome := do
  let verdict ← match result with
    | .ok () => pure Verdict.pass
    | .error f =>
      match f.verdict? with
      | some v => pure v
      | none => throw f
  let o : Outcome := ⟨rule, subject, verdict⟩
  record [o]
  return o

/-- The result of a step that a rule depends on; its failure is recorded in place of the rule. -/
def prerequisite (rule : String) (subject : Value) (result : Except Failure α) :
    Recording (Option α) := do
  match result with
  | .ok a => return some a
  | .error f => do
    recordAll [rule] subject f
    return none

end Recording
end GeoConformance
