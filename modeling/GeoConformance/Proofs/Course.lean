import GeoConformance.Validation

/-!
# The course of an agenda

Performing an agenda only adds to a report, and what it adds does not depend on what is there
already. The course of an agenda is how it ends, the deadline it leaves and the outcomes it adds; a
validation is the courses of its suites one after another. What no query changes about a deadline,
no course changes.
-/

namespace GeoConformance

/-- How something performed in a session ends, and what it leaves. -/
structure Course where
  ending : Except Failure Unit
  deadline : Deadline
  outcomes : List Outcome

namespace Course

/-- The course that first records some outcomes. -/
def after (recorded : List Outcome) (k : Course) : Course :=
  { k with outcomes := recorded ++ k.outcomes }

def endedBy (f : Failure) (d : Deadline) : Course := ⟨.error f, d, []⟩

@[simp] theorem ending_after (os : List Outcome) (k : Course) :
    (k.after os).ending = k.ending := rfl

@[simp] theorem deadline_after (os : List Outcome) (k : Course) :
    (k.after os).deadline = k.deadline := rfl

@[simp] theorem outcomes_after (os : List Outcome) (k : Course) :
    (k.after os).outcomes = os ++ k.outcomes := rfl

@[simp] theorem ending_endedBy (f : Failure) (d : Deadline) :
    (endedBy f d).ending = .error f := rfl

@[simp] theorem deadline_endedBy (f : Failure) (d : Deadline) : (endedBy f d).deadline = d := rfl

@[simp] theorem outcomes_endedBy (f : Failure) (d : Deadline) : (endedBy f d).outcomes = [] := rfl

/-- A course seen from a report that it adds to. -/
def onto (k : Course) (r : Report) : Except Failure Unit × Deadline × Report :=
  (k.ending, k.deadline, r.append k.outcomes)

theorem onto_after (os : List Outcome) (k : Course) (r : Report) :
    (k.after os).onto r = k.onto (r.append os) := by
  simp [onto, Report.append_append]

theorem onto_endedBy (f : Failure) (d : Deadline) (r : Report) :
    (endedBy f d).onto r = (.error f, d, r) := by
  simp [onto]

end Course

/-- What an outcome is on. -/
def Outcome.key (o : Outcome) : String × Value := (o.rule, o.subject)

namespace Recording

/-- The outcome of a rule whose check came to `result`, unless that is no verdict. -/
def outcomeOf (rule : String) (subject : Value) : Except Failure Unit → Except Failure Outcome
  | .ok () => .ok ⟨rule, subject, .pass⟩
  | .error f =>
    match f.verdict? with
    | some v => .ok ⟨rule, subject, v⟩
    | none => .error f

/-- The outcomes that stand for a failure under every one of some rules. -/
def outcomesOf (rules : List String) (subject : Value) (f : Failure) :
    Except Failure (List Outcome) :=
  match rules, f.verdict? with
  | [], _ => .ok []
  | _, some v => .ok (rules.map fun rule => ⟨rule, subject, v⟩)
  | _, none => .error f

theorem outcomeOf_key {rule : String} {subject : Value} {result : Except Failure Unit}
    {o : Outcome} (h : outcomeOf rule subject result = .ok o) : o.key = (rule, subject) := by
  unfold outcomeOf at h
  split at h
  · cases h
    rfl
  · split at h <;> cases h
    rfl

theorem outcomesOf_key {rules : List String} {subject : Value} {f : Failure} {os : List Outcome}
    (h : outcomesOf rules subject f = .ok os) :
    os.map Outcome.key = rules.map fun rule => (rule, subject) := by
  unfold outcomesOf at h
  split at h
  · cases h
    rfl
  · cases h
    rw [List.map_map]
    rfl
  · cases h

theorem evaluate_eq (rule : String) (subject : Value) (result : Except Failure Unit) (r : Report) :
    evaluate rule subject result r =
      match outcomeOf rule subject result with
      | .ok o => (.ok o, r.append [o])
      | .error f => (.error f, r) := by
  cases result with
  | ok u => rfl
  | error f =>
    cases found : f.verdict? with
    | some v => simp only [evaluate, outcomeOf, found]; rfl
    | none => simp only [evaluate, outcomeOf, found]; rfl

theorem recordAll_eq (rules : List String) (subject : Value) (f : Failure) (r : Report) :
    recordAll rules subject f r =
      match outcomesOf rules subject f with
      | .ok os => (.ok (), r.append os)
      | .error f => (.error f, r) := by
  cases rules with
  | nil =>
    have same : r.append [] = r := r.append_nil
    simp only [outcomesOf, recordAll, same]
    rfl
  | cons rule rest =>
    cases found : f.verdict? with
    | some v => simp only [recordAll, outcomesOf, found]; rfl
    | none => simp only [recordAll, outcomesOf, found]; rfl

end Recording

namespace Agenda

def course (s : Session) : Agenda → Deadline → Course
  | .done, d => ⟨.ok (), d, []⟩
  | .skip rule reason rest, d => (rest.course s d).after [⟨rule, .null, .skip reason⟩]
  | .evaluate rule subject check rest, d =>
    match Recording.outcomeOf rule subject (check.run s d).1 with
    | .ok o => (rest.course s (check.run s d).2).after [o]
    | .error f => .endedBy f (check.run s d).2
  | .gather rules subject check found otherwise, d =>
    match (check.run s d).1 with
    | .ok a => (found a).course s (check.run s d).2
    | .error f =>
      match Recording.outcomesOf rules subject f with
      | .ok os => (otherwise.course s (check.run s d).2).after os
      | .error f => .endedBy f (check.run s d).2

/-- Performing an agenda appends its course to whatever the report holds. -/
theorem perform_eq (s : Session) (a : Agenda) (d : Deadline) (r : Report) :
    a.perform s d r = (a.course s d).onto r := by
  induction a generalizing d r with
  | done => simp [perform, course, Course.onto]
  | skip rule reason rest ih =>
    rw [course, Course.onto_after, ← ih]
    rfl
  | evaluate rule subject check rest ih =>
    simp only [perform, course, Recording.evaluate_eq]
    cases Recording.outcomeOf rule subject (check.run s d).1 with
    | ok o => exact (ih _ _).trans (Course.onto_after _ _ _).symm
    | error f => exact (Course.onto_endedBy _ _ _).symm
  | gather rules subject check found otherwise ihFound ihOtherwise =>
    simp only [perform, course, Recording.recordAll_eq]
    obtain ⟨result, left⟩ := check.run s d
    cases result with
    | ok a => exact ihFound a left r
    | error f =>
      simp only
      cases Recording.outcomesOf rules subject f with
      | ok os => exact (ihOtherwise _ _).trans (Course.onto_after _ _ _).symm
      | error f => exact (Course.onto_endedBy _ _ _).symm

end Agenda

namespace Validation

/-- The courses of some suites one after another, up to the first that does not end well. -/
def course (s : Session) : List Suite → Deadline → Course
  | [], d => ⟨.ok (), d, []⟩
  | suite :: rest, d =>
    let first := suite.agenda.course s d
    match first.ending with
    | .ok () => (course s rest first.deadline).after first.outcomes
    | .error _ => first

theorem performAll_eq (s : Session) (suites : List Suite) (d : Deadline) (r : Report) :
    performAll s suites d r = (course s suites d).onto r := by
  induction suites generalizing d r with
  | nil => simp [performAll, course, Course.onto]
  | cons suite rest ih =>
    simp only [performAll, course, Agenda.perform_eq, Course.onto]
    cases h : (suite.agenda.course s d).ending with
    | ok u => exact (ih _ _).trans (Course.onto_after _ _ _).symm
    | error f => simp [h]

theorem validate_eq {s : Session} {names : List String} {suites : List Suite}
    (known : Suite.select names = .ok suites) (d : Deadline) (r : Report) :
    validate s names d r = (course s suites d).onto r := by
  simp only [validate, known, performAll_eq]

end Validation

/-- A property of deadlines that stays whatever a session is asked. -/
def Session.Keeps (s : Session) (I : Deadline → Prop) : Prop :=
  ∀ q d, I d → I (s.deadlineAfter q d)

section Kept

variable {s : Session} {I : Deadline → Prop} {d : Deadline} (kept : s.Keeps I)

include kept

theorem Check.keeps_run {α : Type} (k : Check α) (h : I d) : I (k.run s d).2 := by
  induction k generalizing d with
  | done a => exact h
  | stop f => exact h
  | ask q next ih =>
    have left := kept q d h
    simp only [run, Session.ask]
    cases (s.exchange q (s.deadlineAfter q d)).outcome (s.deadlineAfter q d) q.sql with
    | ok r => exact ih r left
    | error f => exact left

theorem Agenda.keeps_course (a : Agenda) (h : I d) : I (a.course s d).deadline := by
  induction a generalizing d with
  | done => exact h
  | skip rule reason rest ih => exact ih h
  | evaluate rule subject check rest ih =>
    have left := check.keeps_run kept h
    rw [course]
    cases Recording.outcomeOf rule subject (check.run s d).1 with
    | ok o => exact ih left
    | error f => exact left
  | gather rules subject check found otherwise ihFound ihOtherwise =>
    have left := check.keeps_run kept h
    rw [course]
    cases (check.run s d).1 with
    | ok a => exact ihFound a left
    | error f =>
      simp only
      cases Recording.outcomesOf rules subject f with
      | ok os => exact ihOtherwise left
      | error f => exact left

theorem Validation.keeps_course (suites : List Suite) (h : I d) :
    I (course s suites d).deadline := by
  induction suites generalizing d with
  | nil => exact h
  | cons suite rest ih =>
    have left := suite.agenda.keeps_course kept h
    simp only [course]
    cases (suite.agenda.course s d).ending with
    | ok u => exact ih left
    | error f => exact left

end Kept
end GeoConformance
