import Mathlib.Data.List.Basic
import GeoConformance.Proofs.Asked
import GeoConformance.Proofs.Bookkeeping

/-!
# Runs that break off

A run goes from one rule or group of rules to the next, and each of these steps records outcomes for
all of its rules or for none. A run that ends with a failure has recorded just the steps before the
one that failed, and up to there it is the run that only operational faults befall.
-/

namespace GeoConformance

/-- What a run does at once: it settles some rules on a subject. -/
structure Step where
  rules : List String
  subject : Value
  outcomes : List Outcome

/-- Nothing has been recorded for the rules of a step, or one outcome for each of them. -/
def Step.IsWhole (step : Step) : Prop :=
  step.outcomes = [] ∨
    step.outcomes.map Outcome.key = step.rules.map fun rule => (rule, step.subject)

/-- The steps of a run, and those of one that breaks off at one of them with nothing recorded. -/
inductive BreaksOff : List Step → List Step → Prop
  | here (step : Step) (later : List Step) :
    BreaksOff (step :: later) [{ step with outcomes := [] }]
  | later (step : Step) {whole broken : List Step} :
    BreaksOff whole broken → BreaksOff (step :: whole) (step :: broken)

namespace BreaksOff

variable {whole broken : List Step}

theorem append_left (h : BreaksOff whole broken) (before : List Step) :
    BreaksOff (before ++ whole) (before ++ broken) := by
  induction before with
  | nil => exact h
  | cons step before ih => exact .later step ih

theorem append_right (h : BreaksOff whole broken) (more : List Step) :
    BreaksOff (whole ++ more) broken := by
  induction h with
  | here step later => exact .here step (later ++ more)
  | later step _ ih => exact .later step ih

theorem exists_interrupted (h : BreaksOff whole broken) :
    ∃ completed interrupted recorded later,
      broken = completed ++ [interrupted] ∧ interrupted.outcomes = [] ∧
      whole = completed ++ { interrupted with outcomes := recorded } :: later := by
  induction h with
  | here step later => exact ⟨[], _, step.outcomes, later, rfl, rfl, rfl⟩
  | later step _ ih =>
    obtain ⟨completed, interrupted, recorded, later, rfl, none, rfl⟩ := ih
    exact ⟨step :: completed, interrupted, recorded, later, rfl, none, rfl⟩

end BreaksOff

/-- Only an operational error leaves a verdict. -/
theorem EngineError.verdict_failure {e : EngineError} (h : e.kind ≠ .operational) (d : Deadline)
    (sql : String) : (e.failure d sql).verdict? = none := by
  unfold failure
  rw [if_neg h]
  split <;> rfl

namespace Session

/-- The session whose queries none but its operational faults befall. -/
def operational (s : Session) : Session :=
  { s with faults := s.faults.filter fun f => f.error.kind = .operational }

variable {s : Session} {q : Query}

theorem faultFor_operational :
    s.operational.faultFor q = s.faultFor q ∨
      ∃ f, s.faultFor q = some f ∧ f.error.kind ≠ .operational := by
  have first : ∀ faults : List Fault,
      (faults.filter fun f => f.error.kind = .operational).find? (·.befalls q) =
        faults.find? (·.befalls q) ∨
      ∃ f, faults.find? (·.befalls q) = some f ∧ f.error.kind ≠ .operational := by
    intro faults
    induction faults with
    | nil => exact .inl rfl
    | cons f rest ih =>
      by_cases befalls : f.befalls q = true
      · by_cases kept : f.error.kind = .operational
        · exact .inl (by simp [kept, befalls])
        · exact .inr ⟨f, by simp [befalls], kept⟩
      · by_cases kept : f.error.kind = .operational
        · simpa [kept, befalls] using ih
        · simpa [kept, befalls] using ih
  unfold faultFor
  change (if s.isClosed then none else _) = (if s.isClosed then none else _) ∨ _
  split
  · exact .inl rfl
  · exact first s.faults

/-- Without the other faults a query has the same answer, unless one of them has ended the run. -/
theorem ask_operational (s : Session) (q : Query) (d : Deadline) :
    s.operational.ask q d = s.ask q d ∨ ∃ f, (s.ask q d).1 = .error f ∧ f.verdict? = none := by
  rcases faultFor_operational (s := s) (q := q) with same | ⟨f, befallen, other⟩
  · left
    have exchanged : ∀ d, s.operational.exchange q d = s.exchange q d := by
      intro d
      unfold exchange
      rw [same]
      rfl
    simp only [ask, deadlineAfter, same, exchanged]
  · right
    have failed : ∀ d, s.exchange q d = ⟨none, .error f.error, none⟩ := by
      intro d
      unfold exchange
      cases backing : s.backing with
      | closed => simp [faultFor, isClosed, backing] at befallen
      | unreadable =>
        rw [befallen]
        rfl
      | database c looks => rw [befallen]
    refine ⟨_, ?_, EngineError.verdict_failure other (s.deadlineAfter q d) q.sql⟩
    rw [ask, failed]
    rfl

end Session

variable {s : Session}

theorem Check.run_operational {α : Type} (k : Check α) (s : Session) (d : Deadline) :
    k.run s.operational d = k.run s d ∨ ∃ f, (k.run s d).1 = .error f ∧ f.verdict? = none := by
  induction k generalizing d with
  | done a => exact .inl rfl
  | stop f => exact .inl rfl
  | ask q next ih =>
    simp only [run]
    rcases s.ask_operational q d with same | ⟨f, failed, none⟩
    · rw [same]
      generalize s.ask q d = reply
      obtain ⟨result, left⟩ := reply
      cases result with
      | ok r => exact ih r left
      | error f => exact .inl rfl
    · refine .inr ⟨f, ?_, none⟩
      generalize s.ask q d = reply at failed
      obtain ⟨result, left⟩ := reply
      cases failed
      rfl

namespace Recording

theorem outcomeOf_of_no_verdict (rule : String) (subject : Value) {f : Failure}
    (none : f.verdict? = none) : outcomeOf rule subject (.error f) = .error f := by
  simp only [outcomeOf, none]

/-- A failure that is no verdict is passed on if it stands for any rule at all. -/
theorem outcomesOf_of_no_verdict {rules : List String} (subject : Value) {f : Failure}
    (some : rules ≠ []) (none : f.verdict? = none) : outcomesOf rules subject f = .error f := by
  cases rules with
  | nil => exact absurd rfl some
  | cons rule more => simp only [outcomesOf, none]

end Recording

namespace Agenda

/-- The steps of an agenda in a session, up to the one at which it breaks off. -/
def steps (s : Session) : Agenda → Deadline → List Step
  | .done, _ => []
  | .skip rule reason rest, d => ⟨[rule], .null, [⟨rule, .null, .skip reason⟩]⟩ :: rest.steps s d
  | .evaluate rule subject check rest, d =>
    match Recording.outcomeOf rule subject (check.run s d).1 with
    | .ok o => ⟨[rule], subject, [o]⟩ :: rest.steps s (check.run s d).2
    | .error _ => [⟨[rule], subject, []⟩]
  | .gather rules subject check found otherwise, d =>
    match (check.run s d).1 with
    | .ok a => ⟨rules, subject, []⟩ :: (found a).steps s (check.run s d).2
    | .error f =>
      match Recording.outcomesOf rules subject f with
      | .ok os => ⟨rules, subject, os⟩ :: otherwise.steps s (check.run s d).2
      | .error _ => [⟨rules, subject, []⟩]

/-- Whatever is gathered stands for some rule. -/
def StandsForRules : Agenda → Prop
  | .done => True
  | .skip _ _ rest => rest.StandsForRules
  | .evaluate _ _ _ rest => rest.StandsForRules
  | .gather rules _ _ found otherwise =>
    rules ≠ [] ∧ (∀ a, (found a).StandsForRules) ∧ otherwise.StandsForRules

theorem standsForRules_evaluateAll {evaluations : List Evaluation} {rest : Agenda}
    (h : rest.StandsForRules) : (evaluateAll evaluations rest).StandsForRules := by
  induction evaluations with
  | nil => exact h
  | cons e more ih => exact ih

theorem standsForRules_skipAll (skipped : List String) (reason : String) :
    (skipAll skipped reason).StandsForRules := by
  induction skipped with
  | nil => trivial
  | cons rule more ih => exact ih

theorem outcomes_steps (a : Agenda) (s : Session) (d : Deadline) :
    (a.course s d).outcomes = (a.steps s d).flatMap Step.outcomes := by
  induction a generalizing d with
  | done => rfl
  | skip rule reason rest ih =>
    rw [course, steps, Course.outcomes_after, ih, List.flatMap_cons]
  | evaluate rule subject check rest ih =>
    rw [course, steps]
    cases Recording.outcomeOf rule subject (check.run s d).1 with
    | ok o => rw [Course.outcomes_after, ih, List.flatMap_cons]
    | error f => rfl
  | gather rules subject check found otherwise ihFound ihOtherwise =>
    rw [course, steps]
    cases (check.run s d).1 with
    | ok a => exact ihFound a _
    | error f =>
      simp only
      cases Recording.outcomesOf rules subject f with
      | ok os => simp only [Course.outcomes_after, ihOtherwise, List.flatMap_cons]
      | error f => rfl

theorem isWhole_of_mem_steps (a : Agenda) (s : Session) (d : Deadline) :
    ∀ step ∈ a.steps s d, step.IsWhole := by
  induction a generalizing d with
  | done => exact List.forall_mem_nil _
  | skip rule reason rest ih => exact List.forall_mem_cons.2 ⟨.inr rfl, ih d⟩
  | evaluate rule subject check rest ih =>
    rw [steps]
    cases recorded : Recording.outcomeOf rule subject (check.run s d).1 with
    | ok o =>
      have key := Recording.outcomeOf_key recorded
      exact List.forall_mem_cons.2 ⟨.inr (by simp [key]), ih _⟩
    | error f => exact List.forall_mem_singleton.2 (.inl rfl)
  | gather rules subject check found otherwise ihFound ihOtherwise =>
    rw [steps]
    cases (check.run s d).1 with
    | ok a => exact List.forall_mem_cons.2 ⟨.inl rfl, ihFound a _⟩
    | error f =>
      simp only
      cases recorded : Recording.outcomesOf rules subject f with
      | ok os =>
        exact List.forall_mem_cons.2 ⟨.inr (Recording.outcomesOf_key recorded), ihOtherwise _⟩
      | error f => exact List.forall_mem_singleton.2 (.inl rfl)

end Agenda

/-- A run that records `own` beside one that is never broken off by its session and records `whole`:
they are the same if the first is carried to its end, and otherwise the first breaks off the
second. -/
structure Course.Truncates (k k' : Course) (own whole : List Step) : Prop where
  carried : k.ending = .ok () → k' = k ∧ whole = own
  broken : ∀ f, k.ending = .error f → BreaksOff whole own

namespace Course

variable {k k' : Course} {own whole : List Step}

theorem Truncates.after (h : k.Truncates k' own whole) (os : List Outcome) (step : Step) :
    (k.after os).Truncates (k'.after os) (step :: own) (step :: whole) := by
  refine ⟨fun ended => ?_, fun f ended => .later step (h.broken f ended)⟩
  obtain ⟨rfl, rfl⟩ := h.carried ended
  exact ⟨rfl, rfl⟩

theorem truncates_endedBy (f : Failure) (d : Deadline) (k' : Course) (step : Step)
    (later : List Step) :
    (endedBy f d).Truncates k' [{ step with outcomes := [] }] (step :: later) :=
  ⟨fun ended => (nomatch ended), fun _ _ => .here step later⟩

end Course

namespace Agenda

/-- An agenda that is carried to its end has met operational faults only. One that is not breaks off
the agenda that none but these befall. -/
theorem truncates_course {a : Agenda} (h : a.StandsForRules) (s : Session) (d : Deadline) :
    (a.course s d).Truncates (a.course s.operational d) (a.steps s d)
      (a.steps s.operational d) := by
  induction a generalizing d with
  | done => exact ⟨fun _ => ⟨rfl, rfl⟩, fun f ended => (nomatch ended)⟩
  | skip rule reason rest ih => exact (ih h d).after _ _
  | evaluate rule subject check rest ih =>
    simp only [course, steps]
    rcases check.run_operational s d with same | ⟨f, failed, none⟩
    · rw [same]
      cases Recording.outcomeOf rule subject (check.run s d).1 with
      | ok o => exact (ih h _).after _ _
      | error f => exact Course.truncates_endedBy f _ _ ⟨[rule], subject, []⟩ []
    · rw [failed, Recording.outcomeOf_of_no_verdict rule subject none]
      cases Recording.outcomeOf rule subject (check.run s.operational d).1 with
      | ok o => exact Course.truncates_endedBy f _ _ ⟨[rule], subject, [o]⟩ _
      | error g => exact Course.truncates_endedBy f _ _ ⟨[rule], subject, []⟩ []
  | gather rules subject check found otherwise ihFound ihOtherwise =>
    obtain ⟨some, hFound, hOtherwise⟩ := h
    simp only [course, steps]
    rcases check.run_operational s d with same | ⟨f, failed, none⟩
    · rw [same]
      cases (check.run s d).1 with
      | ok a => exact (ihFound a (hFound a) _).after [] _
      | error f =>
        simp only
        cases Recording.outcomesOf rules subject f with
        | ok os => exact (ihOtherwise hOtherwise _).after _ _
        | error f => exact Course.truncates_endedBy f _ _ ⟨rules, subject, []⟩ []
    · simp only [failed, Recording.outcomesOf_of_no_verdict subject some none]
      cases (check.run s.operational d).1 with
      | ok a => exact Course.truncates_endedBy f _ _ ⟨rules, subject, []⟩ _
      | error g =>
        simp only
        cases Recording.outcomesOf rules subject g with
        | ok os => exact Course.truncates_endedBy f _ _ ⟨rules, subject, os⟩ _
        | error g => exact Course.truncates_endedBy f _ _ ⟨rules, subject, []⟩ []

end Agenda

namespace RelatedTables

theorem standsForRules_agenda : agenda.StandsForRules := by
  have onTable : onRelationsTable.StandsForRules :=
    ⟨by decide, fun _ => Agenda.standsForRules_evaluateAll trivial, trivial⟩
  refine ⟨by decide, fun applicable => ?_, trivial⟩
  cases applicable
  · exact Agenda.standsForRules_skipAll _ _
  · exact ⟨by decide, fun _ => Agenda.standsForRules_evaluateAll onTable, onTable⟩

end RelatedTables

namespace SpatialIndex

theorem standsForRules_onColumns (indexed : List (Value × Value)) :
    (onColumns indexed).StandsForRules := by
  induction indexed with
  | nil => trivial
  | cons column rest ih =>
    exact ⟨by decide, fun _ => Agenda.standsForRules_evaluateAll ih, ih⟩

theorem standsForRules_agenda : agenda.StandsForRules := by
  have onImplementation : onImplementation.StandsForRules :=
    ⟨by decide, standsForRules_onColumns, trivial⟩
  refine ⟨by decide, fun applicable => ?_, trivial⟩
  cases applicable
  · exact Agenda.standsForRules_skipAll _ _
  · exact ⟨by decide, fun _ => ⟨by decide,
      fun _ => Agenda.standsForRules_evaluateAll onImplementation, onImplementation⟩,
      onImplementation⟩

end SpatialIndex

/-- No choice of suites leaves nothing to do. -/
theorem Suite.ne_nil_of_select {names : List String} {suites : List Suite}
    (h : select names = .ok suites) : suites ≠ [] := by
  rintro rfl
  cases names with
  | nil => cases h
  | cons name rest =>
    rw [select, if_neg (by simp), List.mapM_cons] at h
    obtain ⟨suite, -, h⟩ := bind_eq_ok.1 h
    obtain ⟨others, -, h⟩ := bind_eq_ok.1 h
    cases h

theorem Suite.standsForRules_agenda (suite : Suite) : suite.agenda.StandsForRules := by
  cases suite with
  | relatedTables => exact RelatedTables.standsForRules_agenda
  | spatialIndex => exact SpatialIndex.standsForRules_agenda

namespace Validation

/-- The steps of some suites one after another, up to the one at which they break off. -/
def steps (s : Session) : List Suite → Deadline → List Step
  | [], _ => []
  | suite :: rest, d =>
    suite.agenda.steps s d ++
      match (suite.agenda.course s d).ending with
      | .ok () => steps s rest (suite.agenda.course s d).deadline
      | .error _ => []

theorem outcomes_steps (s : Session) (suites : List Suite) (d : Deadline) :
    (course s suites d).outcomes = (steps s suites d).flatMap Step.outcomes := by
  induction suites generalizing d with
  | nil => rfl
  | cons suite rest ih =>
    simp only [course, steps, List.flatMap_append, ← suite.agenda.outcomes_steps]
    cases (suite.agenda.course s d).ending with
    | ok u => simp only [Course.outcomes_after, ih]
    | error f => simp

theorem isWhole_of_mem_steps (s : Session) (suites : List Suite) (d : Deadline) :
    ∀ step ∈ steps s suites d, step.IsWhole := by
  induction suites generalizing d with
  | nil => exact List.forall_mem_nil _
  | cons suite rest ih =>
    rw [steps, List.forall_mem_append]
    refine ⟨suite.agenda.isWhole_of_mem_steps s d, ?_⟩
    split
    · exact ih _
    · exact List.forall_mem_nil _

theorem breaksOff_steps {s : Session} {suites : List Suite} {d : Deadline} {f : Failure}
    (ended : (course s suites d).ending = .error f) :
    BreaksOff (steps s.operational suites d) (steps s suites d) := by
  induction suites generalizing d with
  | nil => cases ended
  | cons suite rest ih =>
    have first := Agenda.truncates_course suite.standsForRules_agenda s d
    simp only [course] at ended
    simp only [steps]
    cases carried : (suite.agenda.course s d).ending with
    | ok u =>
      rw [carried] at ended
      obtain ⟨sameCourse, sameSteps⟩ := first.carried carried
      rw [sameCourse, sameSteps, carried]
      exact (ih ended).append_left _
    | error g =>
      simp only [List.append_nil]
      exact (first.broken g carried).append_right _

theorem course_closed (faults : List Fault) (suite : Suite) (rest : List Suite) (d : Deadline) :
    course ⟨.closed, faults⟩ (suite :: rest) d =
      .endedBy (Session.closedError.failure d (Query.tableCount extensionsTable).sql) d := by
  cases suite <;> rfl

/-- A validation that fails has recorded the steps before the one that failed and nothing of that
one, and only that far do the faults other than operational ones go. On a closed connection the
first step fails already, and fatally. -/
theorem validate_breaks_off (s : Session) {names : List String}
    (known : ∀ name ∈ names, ∃ suite : Suite, suite.name = name) (d : Deadline) (r : Report) :
    ∃ suites, Suite.select names = .ok suites ∧
      (∀ f left r', validate s names d r = (.error f, left, r') →
        ∃ completed interrupted recorded later,
          steps s suites d = completed ++ [interrupted] ∧ interrupted.outcomes = [] ∧
          (∀ step ∈ completed, step.IsWhole) ∧
          r' = r.append (completed.flatMap Step.outcomes) ∧
          steps s.operational suites d =
            completed ++ { interrupted with outcomes := recorded } :: later ∧
          (validate s.operational names d r).2.2 =
            r'.append (recorded ++ later.flatMap Step.outcomes)) ∧
      (s.backing = .closed → ∃ sql, validate s names d r =
        (.error (.infrastructure "Database error: Cannot operate on a closed database." (some sql)
          true), d, r)) := by
  obtain ⟨suites, selected⟩ := Suite.exists_select known
  refine ⟨suites, selected, ?_, ?_⟩
  · intro f left r' performed
    rw [validate_eq selected, Course.onto, Prod.mk.injEq, Prod.mk.injEq] at performed
    obtain ⟨ended, -, rfl⟩ := performed
    obtain ⟨completed, interrupted, recorded, later, own, none, whole⟩ :=
      (breaksOff_steps ended).exists_interrupted
    have kept : (course s suites d).outcomes = completed.flatMap Step.outcomes := by
      rw [outcomes_steps, own, List.flatMap_append, List.flatMap_singleton, none, List.append_nil]
    refine ⟨completed, interrupted, recorded, later, own, none, fun step member => ?_, ?_, whole,
      ?_⟩
    · exact isWhole_of_mem_steps s suites d step (own ▸ List.mem_append_left _ member)
    · rw [kept]
    · rw [validate_eq selected, Course.onto, outcomes_steps s.operational, whole, kept,
        Report.append_append, List.flatMap_append, List.flatMap_cons]
  · intro closed
    obtain ⟨backing, faults⟩ := s
    cases closed
    cases suites with
    | nil => exact absurd rfl (Suite.ne_nil_of_select selected)
    | cons suite rest =>
      rw [validate_eq selected, course_closed, Course.onto_endedBy]
      exact ⟨_, rfl⟩

/-- Both extensions are declared and nothing else is there. -/
def declaredOnly : Catalog :=
  [.table extensionsTable ⟨Declaration.columnNames.map fun name => ⟨name, none, false, .null, 0⟩,
    [[.text relationsTable, .null, .text "related_tables", .text "TBD", .text "read-write"],
      [.text "roads", .text "geom", .text spatialIndexExtension, .text "Annex L",
        .text "write-only"]]⟩]

theorem course_declaredOnly {faults : List Fault}
    (spared : ∀ f ∈ faults, f.name.all (· == extensionsTable) = false) (d : Deadline) :
    RelatedTables.agenda.course ⟨.database declaredOnly [], faults⟩ d =
      RelatedTables.onDeclarations.course ⟨.database declaredOnly [], faults⟩ d := by
  have applies : declaredOnly.DeclaresExtension relatedTablesExtensions :=
    ⟨_, ⟨_, rfl, rfl⟩, _, List.mem_cons_self, "related_tables", by decide, rfl⟩
  have unbefallen : (Check.extensionActive relatedTablesExtensions).AsksOnly
      (Check.IsSpared [] faults d) := by
    refine Check.asksOnly_extensionActive ⟨fun f hf => ?_, fun _ => rfl⟩ fun _ =>
      ⟨fun f hf => ?_, fun _ => rfl⟩
    · exact Bool.and_eq_false_imp.2 fun _ => spared f hf
    · exact Bool.and_eq_false_imp.2 fun _ => spared f hf
  rw [RelatedTables.agenda, Agenda.course, RelatedTables.isApplicable, unbefallen.run_spared,
    Check.extensionActive_eq_true applies]
  rfl

/-- The database turns out to be malformed at the look-up of the relations table, where a later
fault only interrupts it. -/
def malformedLater : Session where
  backing := .database declaredOnly
  faults :=
    [⟨.existence, some relationsTable, ⟨.database, "database disk image is malformed"⟩, false⟩,
      ⟨.existence, some relationsTable, ⟨.operational, "interrupted"⟩, false⟩]

/-- The first suite is reported on and three rules of the second are, and so they are where the
query is interrupted. -/
theorem malformedLater_truncated :
    (∀ name ∈ ["rtree_index", "related_tables"], ∃ suite : Suite, suite.name = name) ∧
      ∃ left r' rest,
        validate malformedLater ["rtree_index", "related_tables"] ⟨none, false⟩ (.empty none) =
          (.error (.infrastructure "Database error: database disk image is malformed"
            (some (Query.tableCount relationsTable).sql) true), left, r') ∧
        r'.outcomes.length = 5 ∧
        (validate malformedLater.operational ["rtree_index", "related_tables"] ⟨none, false⟩
          (.empty none)).2.2 = r'.append rest := by
  have known := Suite.exists_of_mem_names [.spatialIndex, .relatedTables]
  obtain ⟨suites, selected, broken, -⟩ :=
    validate_breaks_off malformedLater known ⟨none, false⟩ (.empty none)
  have onDeclarations : ∀ d, RelatedTables.agenda.course malformedLater d =
      RelatedTables.onDeclarations.course malformedLater d := course_declaredOnly (by decide)
  have performed : validate malformedLater ["rtree_index", "related_tables"] ⟨none, false⟩
      (.empty none) = (course malformedLater [.spatialIndex, .relatedTables]
        ⟨none, false⟩).onto (.empty none) := validate_eq rfl _ _
  have ended : (course malformedLater [.spatialIndex, .relatedTables] ⟨none, false⟩).ending =
      .error (.infrastructure "Database error: database disk image is malformed"
        (some (Query.tableCount relationsTable).sql) true) := by
    simp only [course, Suite.agenda, onDeclarations]
    decide +kernel
  rw [Course.onto, ended] at performed
  obtain ⟨completed, interrupted, recorded, later, -, -, -, -, -, whole⟩ := broken _ _ _ performed
  refine ⟨known, _, _, _, performed, ?_, whole⟩
  simp only [course, Suite.agenda, onDeclarations]
  decide +kernel

end Validation
end GeoConformance
