import GeoConformance.Proofs.Undisturbed

/-!
# Courses on a database without faults

An agenda is carried to its end when every check that it reaches has a verdict. The report is then
clean when every one of them passes, provided that no check lets its rule be skipped.
-/

namespace GeoConformance

namespace Failure

def HasVerdict (f : Failure) : Prop := ∃ v, f.verdict? = some v

/-- Whether a failure, if it is recorded at all, speaks against the package. -/
def NeverSkips (f : Failure) : Prop :=
  ∀ v, f.verdict? = some v → v.status = .fail ∨ v.status = .error

theorem IsAdverse.hasVerdict {f : Failure} (h : f.IsAdverse) : f.HasVerdict := by
  obtain ⟨v, hv, _⟩ := h
  exact ⟨v, hv⟩

theorem IsAdverse.neverSkips {f : Failure} (h : f.IsAdverse) : f.NeverSkips := by
  obtain ⟨v, hv, adverse⟩ := h
  intro w hw
  rw [hv] at hw
  cases hw
  exact adverse

theorem neverSkips_misuse (m : Misuse) : (Failure.misuse m).NeverSkips := by
  intro v h
  cases h

end Failure

namespace Check

variable {α β : Type} {c : Catalog} {d : Deadline}

/-- A check that lets no rule be skipped. -/
def NeverSkips (c : Catalog) (d : Deadline) (k : Check α) : Prop :=
  FailsAs Failure.NeverSkips (k.resultIn c d)

theorem IsDecisive.hasVerdict {k : Check α} (h : IsDecisive c d k) :
    FailsAs Failure.HasVerdict (k.resultIn c d) :=
  h.mono fun _ => Failure.IsAdverse.hasVerdict

theorem IsDecisive.neverSkips {k : Check α} (h : IsDecisive c d k) : NeverSkips c d k :=
  h.mono fun _ => Failure.IsAdverse.neverSkips

theorem neverSkips_ofExcept (x : Except Misuse α) : NeverSkips c d (ofExcept x) := by
  cases x with
  | ok a => exact failsAs_ok a
  | error m => exact failsAs_error (Failure.neverSkips_misuse m)

end Check

theorem Outcome.isAdverse_iff {o : Outcome} :
    o.isAdverse = true ↔ o.verdict.status = .fail ∨ o.verdict.status = .error := by
  simp [isAdverse, status]

/-- Nothing that a course records speaks against the package, and it does not break off. -/
structure Course.IsClean (k : Course) : Prop where
  ending : k.ending = .ok ()
  outcomes : ∀ o ∈ k.outcomes, o.isAdverse = false

theorem Course.isClean_after {os : List Outcome} {k : Course} :
    (k.after os).IsClean ↔ (∀ o ∈ os, o.isAdverse = false) ∧ k.IsClean := by
  constructor
  · intro h
    refine ⟨fun o ho => h.outcomes o ?_, h.ending, fun o ho => h.outcomes o ?_⟩
    · exact List.mem_append_left _ ho
    · exact List.mem_append_right _ ho
  · intro h
    obtain ⟨hos, hk⟩ := h
    refine ⟨hk.ending, fun o ho => ?_⟩
    rcases List.mem_append.1 ho with ho | ho
    · exact hos o ho
    · exact hk.outcomes o ho

theorem Course.not_isClean_endedBy (f : Failure) (d : Deadline) : ¬ (endedBy f d).IsClean := by
  intro h
  cases h.ending

/-- A clean course is one whose report is in order. -/
theorem Course.isClean_iff {k : Course} (package : Option String) :
    k.IsClean ↔ ∃ r, k.onto (.empty package) = (.ok (), k.deadline, r) ∧ r.isOk = true := by
  simp only [onto, Report.empty, Report.append, Prod.mk.injEq, Report.isOk_iff, List.nil_append,
    true_and]
  constructor
  · intro h
    exact ⟨_, ⟨h.ending, rfl⟩, h.outcomes⟩
  · intro h
    obtain ⟨r, ⟨ending, rfl⟩, outcomes⟩ := h
    exact ⟨ending, outcomes⟩

namespace Recording

/-- An outcome that does not speak against the package is that of a check which passed. -/
theorem outcomeOf_clean {rule : String} {subject : Value} {result : Except Failure Unit}
    {o : Outcome} (h : outcomeOf rule subject result = .ok o)
    (strict : FailsAs Failure.NeverSkips result) :
    o.isAdverse = false ↔ result = .ok () := by
  cases result with
  | ok u =>
    cases h
    exact ⟨fun _ => rfl, fun _ => rfl⟩
  | error f =>
    cases found : f.verdict? with
    | some v =>
      simp only [outcomeOf, found] at h
      cases h
      have adverse := strict f rfl v found
      have : (⟨rule, subject, v⟩ : Outcome).isAdverse = true := Outcome.isAdverse_iff.2 adverse
      simp [this]
    | none =>
      simp only [outcomeOf, found] at h
      cases h

end Recording

namespace Agenda

variable {c : Catalog} {d : Deadline}

/-- The course of an agenda on a database whose queries no fault befalls. -/
def courseIn (c : Catalog) (d : Deadline) (a : Agenda) : Course := a.course (.undisturbed c) d

theorem courseIn_evaluate (rule : String) (subject : Value) (check : Check Unit) (rest : Agenda) :
    (evaluate rule subject check rest).courseIn c d =
      match Recording.outcomeOf rule subject (check.resultIn c d) with
      | .ok o => (rest.courseIn c d).after [o]
      | .error f => .endedBy f d := by
  rewrite [courseIn, course, Check.run_undisturbed]
  rfl

theorem courseIn_gather {α : Type} (rules : List String) (subject : Value) (check : Check α)
    (found : α → Agenda) (otherwise : Agenda) :
    (gather rules subject check found otherwise).courseIn c d =
      match check.resultIn c d with
      | .ok a => (found a).courseIn c d
      | .error f =>
        match Recording.outcomesOf rules subject f with
        | .ok os => (otherwise.courseIn c d).after os
        | .error f => .endedBy f d := by
  rewrite [courseIn, course, Check.run_undisturbed]
  rfl

theorem isClean_done : (Agenda.done.courseIn c d).IsClean := by
  refine ⟨rfl, fun o ho => ?_⟩
  cases ho

theorem isClean_evaluate {rule : String} {subject : Value} {check : Check Unit} {rest : Agenda}
    (strict : check.NeverSkips c d) :
    ((evaluate rule subject check rest).courseIn c d).IsClean ↔
      check.resultIn c d = .ok () ∧ (rest.courseIn c d).IsClean := by
  rw [courseIn_evaluate]
  cases recorded : Recording.outcomeOf rule subject (check.resultIn c d) with
  | ok o =>
    simp only [Course.isClean_after, List.mem_singleton, forall_eq,
      Recording.outcomeOf_clean recorded strict]
  | error f =>
    refine ⟨fun h => absurd h (Course.not_isClean_endedBy f d), fun ⟨passed, _⟩ => ?_⟩
    rw [passed] at recorded
    cases recorded

theorem isClean_evaluateAll {evaluations : List Evaluation} {rest : Agenda}
    (strict : ∀ e ∈ evaluations, e.check.NeverSkips c d) :
    ((evaluateAll evaluations rest).courseIn c d).IsClean ↔
      (∀ e ∈ evaluations, e.check.resultIn c d = .ok ()) ∧ (rest.courseIn c d).IsClean := by
  induction evaluations with
  | nil => simp [evaluateAll]
  | cons e more ih =>
    have first : e.check.NeverSkips c d := strict e (by simp)
    have others := ih fun e he => strict e (by simp [he])
    change ((evaluate e.rule e.subject e.check (evaluateAll more rest)).courseIn c d).IsClean ↔ _
    rw [isClean_evaluate first, others, List.forall_mem_cons, and_assoc]

/-- Evaluations whose checks have verdicts put the outcomes of these in front. -/
theorem courseIn_evaluateAll_map {β : Type} {xs : List β} {evaluation : β → Evaluation}
    {rest : Agenda} (outcome : β → Outcome)
    (recorded : ∀ x ∈ xs, Recording.outcomeOf (evaluation x).rule (evaluation x).subject
      ((evaluation x).check.resultIn c d) = .ok (outcome x)) :
    (evaluateAll (xs.map evaluation) rest).courseIn c d =
      (rest.courseIn c d).after (xs.map outcome) := by
  induction xs with
  | nil => rfl
  | cons x xs ih =>
    obtain ⟨first, others⟩ := List.forall_mem_cons.1 recorded
    change (evaluate (evaluation x).rule (evaluation x).subject (evaluation x).check
      (evaluateAll (xs.map evaluation) rest)).courseIn c d = _
    rw [courseIn_evaluate, first, ih others]
    rfl

/-- What an agenda gathers has to be found for its report to be clean. -/
theorem isClean_gather {α : Type} {rules : List String} {subject : Value} {check : Check α}
    {found : α → Agenda} {otherwise : Agenda} (named : rules ≠ [])
    (strict : check.NeverSkips c d) :
    ((gather rules subject check found otherwise).courseIn c d).IsClean ↔
      ∃ a, check.resultIn c d = .ok a ∧ ((found a).courseIn c d).IsClean := by
  rw [courseIn_gather]
  cases result : check.resultIn c d with
  | ok a => simp
  | error f =>
    obtain ⟨rule, rest, rfl⟩ := List.exists_cons_of_ne_nil named
    refine ⟨fun h => ?_, fun ⟨a, ha, _⟩ => nomatch ha⟩
    cases verdict : f.verdict? with
    | none =>
      simp only [Recording.outcomesOf, verdict] at h
      exact absurd h (Course.not_isClean_endedBy f d)
    | some v =>
      simp only [Recording.outcomesOf, verdict, List.map_cons, Course.isClean_after] at h
      have adverse : (⟨rule, subject, v⟩ : Outcome).isAdverse = true :=
        Outcome.isAdverse_iff.2 (strict f result v verdict)
      have clean := h.1 ⟨rule, subject, v⟩ (by simp)
      rw [adverse] at clean
      cases clean

/-- Nothing but a fault can touch the deadline. -/
theorem deadline_courseIn (a : Agenda) : (a.courseIn c d).deadline = d := by
  induction a with
  | done => rfl
  | skip rule reason rest ih => exact ih
  | evaluate rule subject check rest ih =>
    rw [courseIn_evaluate]
    cases Recording.outcomeOf rule subject (check.resultIn c d) with
    | ok o => exact ih
    | error f => rfl
  | gather rules subject check found otherwise ihFound ihOtherwise =>
    rw [courseIn_gather]
    cases check.resultIn c d with
    | ok a => exact ihFound a
    | error f =>
      simp only
      cases Recording.outcomesOf rules subject f with
      | ok os => exact ihOtherwise
      | error f => rfl

end Agenda

namespace Validation

variable {c : Catalog} {d : Deadline} {name : String} {suite : Suite}

theorem course_singleton (s : Session) : course s [suite] d = suite.agenda.course s d := by
  rw [course]
  cases ended : (suite.agenda.course s d).ending with
  | ok u =>
    simp only [course, Course.after, List.append_nil]
    rw [← ended]
  | error f => rfl

theorem validate_singleton (known : Suite.select [name] = .ok [suite]) (package : Option String) :
    validate (.undisturbed c) [name] d (.empty package) =
      (suite.agenda.courseIn c d).onto (.empty package) := by
  rw [validate_eq known, course_singleton]
  rfl

theorem eq_course_of_report (known : Suite.select [name] = .ok [suite]) {package : Option String}
    {r : Report}
    (h : validate (.undisturbed c) [name] d (.empty package) = (.ok (), d, r)) :
    (suite.agenda.courseIn c d).ending = .ok () ∧
      r.outcomes = (suite.agenda.courseIn c d).outcomes := by
  rw [validate_singleton known] at h
  simp only [Course.onto, Prod.mk.injEq] at h
  obtain ⟨ending, -, rfl⟩ := h
  exact ⟨ending, List.nil_append _⟩

theorem exists_report_iff (known : Suite.select [name] = .ok [suite]) (package : Option String) :
    (∃ r, validate (.undisturbed c) [name] d (.empty package) = (.ok (), d, r)) ↔
      (suite.agenda.courseIn c d).ending = .ok () := by
  rw [validate_singleton known]
  simp [Course.onto, Agenda.deadline_courseIn]

theorem exists_clean_report_iff (known : Suite.select [name] = .ok [suite])
    (package : Option String) :
    (∃ r, validate (.undisturbed c) [name] d (.empty package) = (.ok (), d, r) ∧ r.isOk = true) ↔
      (suite.agenda.courseIn c d).IsClean := by
  rw [validate_singleton known, Course.isClean_iff package, Agenda.deadline_courseIn]

end Validation
end GeoConformance
