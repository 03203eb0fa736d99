import GeoConformance.Proofs.Impairment

/-!
# Validations under operational faults

Both suites are guarded, so a validation whose queries fail at any points still gives a report, and
that report is an impaired one: a failing query never turns a failed rule into a passed one or the
other way round, and a report in order stays one when the faults are taken away. A fault may also
cancel the deadline; the queries that are interrupted then are failing ones as well.
-/

namespace GeoConformance

namespace RelatedTables

theorem relationEvaluations_rule (relations : List Relation) :
    ∀ e ∈ relationEvaluations relations, e.rule ∈ Rule.onRelations := by
  intro e he
  simp only [relationEvaluations, List.mem_append, List.mem_map] at he
  rcases he with
    (((((((((⟨_, _, rfl⟩ | ⟨_, _, rfl⟩) | ⟨_, _, rfl⟩) | ⟨_, _, rfl⟩) | ⟨_, _, rfl⟩) |
      ⟨_, _, rfl⟩) | ⟨_, _, rfl⟩) | ⟨_, _, rfl⟩) | ⟨_, _, rfl⟩) | ⟨_, _, rfl⟩) | ⟨_, _, rfl⟩ <;>
    simp [Rule.onRelations]

theorem onRelations_subset : ∀ rule ∈ Rule.onRelations, rule ∈ Rule.all := by
  intro rule h
  exact List.mem_append_right _ h

theorem leadsTo_onRelationsTable : Agenda.LeadsTo Rule.all .done onRelationsTable := by
  refine .evaluate (by simp [Rule.all]) (.gather onRelations_subset (fun relations => ?_) .here)
  refine Agenda.LeadsTo.evaluateAll (fun e he => ?_) .here
  exact onRelations_subset _ (relationEvaluations_rule relations e he)

theorem leadsTo_onDeclarations : Agenda.LeadsTo Rule.all .done onDeclarations := by
  refine .evaluate (by simp [Rule.all]) (.evaluate (by simp [Rule.all]) ?_)
  refine .gather (by simp [Rule.all]) (fun rows => ?_) leadsTo_onRelationsTable
  refine Agenda.LeadsTo.evaluateAll (fun e he => ?_) leadsTo_onRelationsTable
  obtain ⟨row, _, rfl⟩ := List.mem_map.1 he
  simp [Rule.all]

theorem isGuarded_onRelationsTable : onRelationsTable.IsGuarded := by
  refine ⟨fun relations => ⟨Agenda.isGuarded_evaluateAll trivial, ?_⟩, trivial⟩
  exact Agenda.LeadsTo.evaluateAll (relationEvaluations_rule relations) .here

theorem isGuarded_onDeclarations : onDeclarations.IsGuarded := by
  refine ⟨fun rows => ⟨Agenda.isGuarded_evaluateAll isGuarded_onRelationsTable, ?_⟩,
    isGuarded_onRelationsTable⟩
  refine Agenda.LeadsTo.evaluateAll (fun e he => ?_) .here
  obtain ⟨row, _, rfl⟩ := List.mem_map.1 he
  simp

theorem isGuarded_agenda : agenda.IsGuarded := by
  refine ⟨fun applicable => ?_, trivial⟩
  cases applicable
  · exact ⟨Agenda.isGuarded_skipAll _ _, Agenda.leadsTo_skipAll fun _ h => h⟩
  · exact ⟨isGuarded_onDeclarations, leadsTo_onDeclarations⟩

end RelatedTables

namespace SpatialIndex

theorem leadsTo_onColumns {rules : List String} (h : Rule.implementation ∈ rules)
    (indexed : List (Value × Value)) : Agenda.LeadsTo rules .done (onColumns indexed) := by
  induction indexed with
  | nil => exact .here
  | cons column rest ih =>
    refine .gather (by simpa using h) (fun artifacts => ?_) ih
    refine Agenda.LeadsTo.evaluateAll (fun e he => ?_) ih
    obtain ⟨i, _, rfl⟩ := List.mem_map.1 he
    exact h

theorem leadsTo_onImplementation : Agenda.LeadsTo Rule.all .done onImplementation :=
  .gather (by simp [Rule.all]) (leadsTo_onColumns (by simp [Rule.all])) .here

/-- The rows of the extensions table only concern the first rule. -/
theorem leadsTo_declarations {rules : List String} (h : Rule.declarations ∈ rules)
    (registered : List (Value × Value)) :
    Agenda.LeadsTo rules onImplementation (onDeclarations registered) := by
  refine .gather (by simpa using h) (fun rows => ?_) .here
  refine Agenda.LeadsTo.evaluateAll (fun e he => ?_) .here
  obtain ⟨row, _, rfl⟩ := List.mem_map.1 he
  exact h

theorem isGuarded_onColumns (indexed : List (Value × Value)) : (onColumns indexed).IsGuarded := by
  induction indexed with
  | nil => trivial
  | cons column rest ih =>
    refine ⟨fun artifacts => ⟨Agenda.isGuarded_evaluateAll ih, ?_⟩, ih⟩
    refine Agenda.LeadsTo.evaluateAll (fun e he => ?_) .here
    obtain ⟨i, _, rfl⟩ := List.mem_map.1 he
    simp

theorem isGuarded_onImplementation : onImplementation.IsGuarded :=
  ⟨fun indexed => ⟨isGuarded_onColumns indexed, leadsTo_onColumns (by simp) indexed⟩, trivial⟩

theorem isGuarded_onDeclarations (registered : List (Value × Value)) :
    (onDeclarations registered).IsGuarded := by
  refine ⟨fun rows => ⟨Agenda.isGuarded_evaluateAll isGuarded_onImplementation, ?_⟩,
    isGuarded_onImplementation⟩
  refine Agenda.LeadsTo.evaluateAll (fun e he => ?_) .here
  obtain ⟨row, _, rfl⟩ := List.mem_map.1 he
  simp

theorem isGuarded_agenda : agenda.IsGuarded := by
  refine ⟨fun applicable => ?_, trivial⟩
  cases applicable
  · exact ⟨Agenda.isGuarded_skipAll _ _, Agenda.leadsTo_skipAll fun _ h => h⟩
  · refine ⟨⟨fun registered => ⟨isGuarded_onDeclarations registered, ?_⟩,
      isGuarded_onImplementation⟩, ?_⟩
    · exact leadsTo_declarations (by simp) registered
    · refine .gather (by simp [Rule.all]) (fun registered => ?_) leadsTo_onImplementation
      exact (leadsTo_declarations (by simp [Rule.all]) registered).trans leadsTo_onImplementation

end SpatialIndex

theorem Suite.isGuarded_agenda (suite : Suite) : suite.agenda.IsGuarded := by
  cases suite with
  | relatedTables => exact RelatedTables.isGuarded_agenda
  | spatialIndex => exact SpatialIndex.isGuarded_agenda

namespace Validation

variable {s s' : Session} {D : Deadline → Deadline → Prop}

/-- The courses of some suites in an impaired session, beside those that they take without. -/
theorem course_impaired (h : s.IsImpaired s' D) {suites : List Suite} {d d' : Deadline}
    (related : D d d') (carried : (course s suites d).ending = .ok ()) :
    (course s' suites d').ending = .ok () ∧
      Impaired (course s suites d).outcomes (course s' suites d').outcomes := by
  induction suites generalizing d d' with
  | nil => exact ⟨rfl, .nil⟩
  | cons suite rest ih =>
    simp only [course] at carried ⊢
    cases first : (suite.agenda.course s d).ending with
    | error f =>
      rw [first] at carried
      simp only at carried
      rw [first] at carried
      cases carried
    | ok u =>
      obtain ⟨ending, impaired, left⟩ :=
        Agenda.course_impaired h suite.isGuarded_agenda related first
      rw [first] at carried
      rw [ending]
      obtain ⟨endings, impairedRest⟩ := ih left carried
      exact ⟨endings, impaired.append impairedRest⟩

end Validation

namespace Session

variable {c : Catalog} {faults : List Fault}

theorem deadlineAfter_unfaulted (looks : List QueryPattern) (q : Query) (d : Deadline) :
    (⟨.database c looks, []⟩ : Session).deadlineAfter q d = d := by
  simp [deadlineAfter, faultFor, isClosed]

theorem hasPassed_deadlineAfter {s : Session} {d : Deadline} (h : d.hasPassed = true) (q : Query) :
    (s.deadlineAfter q d).hasPassed = true := by
  unfold deadlineAfter
  split
  · rfl
  · exact h

/-- Operational faults impair a session on a database. -/
theorem isImpaired_of_operational (operational : ∀ f ∈ faults, f.error.IsOperational)
    (looks : List QueryPattern) :
    IsImpaired ⟨.database c looks, []⟩ ⟨.database c looks, faults⟩
      fun d d' => d.hasPassed = true → d'.hasPassed = true where
  reply := by
    intro q d d' passed
    have ofDatabase : ∀ f ∈ faults, f.error.IsOfDatabase := fun f hf => .inl (operational f hf)
    rcases ask_faulted (c := c) ofDatabase looks q d' with
      ⟨r, -, replied⟩ | ⟨f, failed, isFailure | ⟨-, fault, befallen, broken⟩⟩
    · obtain ⟨-, uninterrupted, answered⟩ := ask_eq_ok replied
      rw [replied, ask_unbefallen (by simp [faultFor, isClosed]) fun h => uninterrupted (passed h),
        answered]
      exact .inl rfl
    · exact .inr ⟨f, failed, isFailure⟩
    · rw [operational fault (mem_of_faultFor befallen)] at broken
      cases broken
  both := by
    intro q d d' passed
    rw [deadlineAfter_unfaulted]
    exact fun h => hasPassed_deadlineAfter (passed h) q
  alone := by
    intro d' q d passed
    rw [deadlineAfter_unfaulted]
    exact passed

end Session

namespace Validation

variable {c : Catalog} {looks : List QueryPattern} {faults : List Fault}

/-- A failing query is never a verdict. If a validation gives a report without faults, it gives one
under any operational faults: its outcomes apart from errors are among those of the undisturbed
report in their order, whatever is missing has an error under its rule, and without errors nothing
is missing. -/
theorem validate_under_faults (operational : ∀ f ∈ faults, f.error.kind = .operational)
    {names : List String} {d left : Deadline} {package : Option String} {undisturbed : Report}
    (reported : validate ⟨.database c looks, []⟩ names d (.empty package) =
      (.ok (), left, undisturbed)) :
    ∃ left' disturbed,
      validate ⟨.database c looks, faults⟩ names d (.empty package) = (.ok (), left', disturbed) ∧
      (disturbed.outcomes.filter fun o => o.status != .error).Sublist undisturbed.outcomes ∧
      (∀ o, disturbed.outcomes.count o < undisturbed.outcomes.count o →
        ∃ e ∈ disturbed.outcomes, e.status = .error ∧ e.rule = o.rule) ∧
      ((∀ o ∈ disturbed.outcomes, o.status ≠ .error) → disturbed = undisturbed) ∧
      (disturbed.isOk = true → undisturbed.isOk = true) := by
  cases known : Suite.select names with
  | error m =>
    simp only [validate, known] at reported
    cases reported
  | ok suites =>
    rw [validate_eq known, Course.onto, Prod.mk.injEq, Prod.mk.injEq] at reported
    obtain ⟨carried, -, rfl⟩ := reported
    obtain ⟨ending, impaired⟩ :=
      course_impaired (Session.isImpaired_of_operational operational looks) id carried
    have performed : validate ⟨.database c looks, faults⟩ names d (.empty package) =
        (.ok (), (course ⟨.database c looks, faults⟩ suites d).deadline,
          ⟨package, (course ⟨.database c looks, faults⟩ suites d).outcomes⟩) := by
      rw [validate_eq known, Course.onto, ending]
      rfl
    have same := impaired.eq_of_no_error
    refine ⟨_, _, performed, impaired.sublist, fun o => impaired.exists_error, ?_, ?_⟩
    · intro none
      rw [same none]
      rfl
    · intro isOk
      rw [Report.isOk_iff] at isOk
      have none : ∀ o ∈ (course ⟨.database c looks, faults⟩ suites d).outcomes,
          o.status ≠ .error := by
        intro o ho error
        have fine := isOk o ho
        simp [Outcome.isAdverse, error] at fine
      rw [same none] at isOk
      exact Report.isOk_iff.2 isOk

/-- The look-up of the extensions table is interrupted and the deadline cancelled. -/
def interruption : Fault :=
  ⟨.existence, some extensionsTable, ⟨.operational, "interrupted"⟩, true⟩

/-- What is skipped in an empty package is an error where the look-up is interrupted. -/
theorem emptyPackage_interrupted :
    (∀ f ∈ [interruption], f.error.kind = .operational) ∧
      ∃ left disturbed undisturbed,
        validate (.undisturbed []) ["rtree_index"] ⟨none, false⟩ (.empty none) =
          (.ok (), ⟨none, false⟩, undisturbed) ∧
        validate ⟨.database [], [interruption]⟩ ["rtree_index"] ⟨none, false⟩ (.empty none) =
          (.ok (), left, disturbed) ∧
        undisturbed.isOk = true ∧ ∃ e ∈ disturbed.outcomes, e.status = .error := by
  have operational : ∀ f ∈ [interruption], f.error.kind = .operational := by decide
  have reported : validate (.undisturbed []) ["rtree_index"] ⟨none, false⟩ (.empty none) =
      (.ok (), ⟨none, false⟩, _) := rfl
  obtain ⟨left, disturbed, performed, -, missing, -⟩ := validate_under_faults operational reported
  refine ⟨operational, left, disturbed, _, reported, performed, rfl, ?_⟩
  have skipped := missing ⟨SpatialIndex.Rule.declarations, .null,
    .skip (Failure.inapplicable (.text SpatialIndex.conformanceClass)).message⟩
  obtain ⟨e, he, error, -⟩ := skipped (by cases performed; decide)
  exact ⟨e, he, error⟩

end Validation
end GeoConformance
