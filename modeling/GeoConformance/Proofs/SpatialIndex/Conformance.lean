import GeoConformance.Proofs.SpatialIndex.Installation

/-!
# The verdict on spatial indexes

A report on the spatial indexes of a package is in order just where every declaration is and every
column of the tables so declared has its artifacts. It is never in order for want of anything to
look at: a declared index is looked at, or its declaration fails.
-/

namespace GeoConformance
namespace SpatialIndex

open Check

/-- A registered column of a table that a spatial index is declared for. -/
def IsIndexed (ds : List Declaration) (p : Value × Value) : Prop :=
  ∃ e ∈ ds, IsForSpatialIndex e ∧ p.1.same e.table = true

/-- All artifacts of the index on a column are installed and fit their templates. -/
def IsImplemented (c : Catalog) (p : Value × Value) : Prop :=
  ∃ table column found, p = (.text table, .text column) ∧ Installs c table column found ∧
    ∀ i ∈ found, i.requirement.isMetBy i.sql = true

/-- Every declared spatial index is in order, given all declarations of a package. -/
def Conforms (c : Catalog) (ds : List Declaration) : Prop :=
  ∃ pairs, c.Registers pairs ∧ (∀ e ∈ ds, IsForSpatialIndex e → IsInOrder pairs e) ∧
    ∀ p ∈ pairs, IsIndexed ds p → IsImplemented c p

def NamesNulFree (c : Catalog) : Prop :=
  ∀ pairs, c.Registers pairs → ∀ p ∈ pairs, IsNulFree p.1 ∧ IsNulFree p.2

variable {c : Catalog} {d : Deadline}

section Columns

variable {ps : List (Value × Value)} {p : Value × Value}

def artifactOutcome (p : Value × Value) (i : Installed) : Outcome :=
  ⟨Rule.implementation, .text s!"{subject p.1 p.2} ({i.requirement.artifact.title})",
    i.violation?.elim .pass .fail⟩

theorem outcomeOf_ofViolation {rule : String} {subject : Value} {v : Option Violation} :
    Recording.outcomeOf rule subject ((ofViolation? v).resultIn c d) =
      .ok ⟨rule, subject, v.elim .pass .fail⟩ := by
  cases v <;> rfl

theorem courseIn_onColumns_of_installed {found : List Installed}
    (h : (installed p.1 p.2).resultIn c d = .ok found) :
    (onColumns (p :: ps)).courseIn c d =
      ((onColumns ps).courseIn c d).after (found.map (artifactOutcome p)) := by
  rw [onColumns, Agenda.courseIn_gather, h]
  exact Agenda.courseIn_evaluateAll_map (artifactOutcome p) fun i _ => outcomeOf_ofViolation

theorem isImplemented_iff (nulFree : IsNulFree p.1 ∧ IsNulFree p.2) :
    IsImplemented c p ↔
      ∃ found, (installed p.1 p.2).resultIn c d = .ok found ∧
        ∀ i ∈ found, (artifact i).resultIn c d = .ok () := by
  simp only [artifact_eq_ok]
  constructor
  · intro h
    obtain ⟨table, column, found, rfl, installs, met⟩ := h
    exact ⟨found, (installed_eq_ok (nulFree.1 _ rfl) (nulFree.2 _ rfl)).2 installs, met⟩
  · intro h
    obtain ⟨found, isInstalled, met⟩ := h
    obtain ⟨table, column, first, second⟩ := installed_eq_ok_text isInstalled
    rw [first, second] at isInstalled
    exact ⟨table, column, found, Prod.ext first second,
      (installed_eq_ok (nulFree.1 _ first) (nulFree.2 _ second)).1 isInstalled, met⟩

theorem isClean_onColumns (nulFree : ∀ p ∈ ps, IsNulFree p.1 ∧ IsNulFree p.2) :
    ((onColumns ps).courseIn c d).IsClean ↔ ∀ p ∈ ps, IsImplemented c p := by
  induction ps with
  | nil => simp [onColumns, Agenda.isClean_done]
  | cons p ps ih =>
    obtain ⟨first, others⟩ := List.forall_mem_cons.1 nulFree
    have strict : ∀ found : List Installed,
        ∀ e ∈ found.map (fun i => Evaluation.mk Rule.implementation
          (.text s!"{subject p.1 p.2} ({i.requirement.artifact.title})") (artifact i)),
        e.check.NeverSkips c d := by
      intro found
      rw [List.forall_mem_map]
      exact fun i _ => (isDecisive_ofViolation _).neverSkips
    rw [onColumns, Agenda.isClean_gather (by decide) neverSkips_installed, List.forall_mem_cons,
      isImplemented_iff (d := d) first, ← ih others]
    simp only [Agenda.isClean_evaluateAll (strict _), List.forall_mem_map, ← and_assoc,
      exists_and_right]

/-- The artifacts of the columns are looked at to the end unless a look-up has no verdict. -/
theorem ending_onColumns :
    ((onColumns ps).courseIn c d).ending = .ok () ↔
      ∀ p ∈ ps, FailsAs Failure.HasVerdict ((installed p.1 p.2).resultIn c d) := by
  induction ps with
  | nil => simp [onColumns, Agenda.courseIn, Agenda.course]
  | cons p ps ih =>
    rw [List.forall_mem_cons, ← ih]
    cases result : (installed p.1 p.2).resultIn c d with
    | ok found =>
      rw [courseIn_onColumns_of_installed result]
      simp [failsAs_ok]
    | error f =>
      rw [onColumns, Agenda.courseIn_gather, result]
      cases verdict : f.verdict? with
      | some v =>
        have recorded : FailsAs Failure.HasVerdict (.error f : Except Failure (List Installed)) :=
          failsAs_error ⟨v, verdict⟩
        simp [Recording.outcomesOf, verdict, recorded]
      | none =>
        simp only [Recording.outcomesOf, verdict, Course.ending_endedBy, reduceCtorEq, false_iff,
          not_and]
        intro recorded
        obtain ⟨v, hv⟩ := recorded f rfl
        rw [verdict] at hv
        cases hv

theorem exists_implementation_outcome (nulFree : IsNulFree p.1 ∧ IsNulFree p.2)
    (ended : ((onColumns (p :: ps)).courseIn c d).ending = .ok ()) :
    ∃ o ∈ ((onColumns (p :: ps)).courseIn c d).outcomes, o.rule = Rule.implementation := by
  cases result : (installed p.1 p.2).resultIn c d with
  | ok found =>
    obtain ⟨table, column, first, second⟩ := installed_eq_ok_text result
    have installs := result
    rw [first, second, installed_eq_ok (nulFree.1 _ first) (nulFree.2 _ second)] at installs
    obtain ⟨i, hi⟩ := List.exists_mem_of_length_pos (l := found) (by rw [installs.length]; decide)
    rw [courseIn_onColumns_of_installed result]
    exact ⟨artifactOutcome p i, List.mem_append_left _ (List.mem_map_of_mem hi), rfl⟩
  | error f =>
    obtain ⟨v, hv⟩ := ending_onColumns.1 ended p List.mem_cons_self f result
    rw [onColumns, Agenda.courseIn_gather, result]
    simp only [Recording.outcomesOf, hv]
    exact ⟨⟨Rule.implementation, .text (subject p.1 p.2), v⟩, by simp, rfl⟩

variable (ps) in
/-- Where the artifacts of a column are all in order, there are seven passes. -/
theorem passes_of_isImplemented (nulFree : IsNulFree p.1 ∧ IsNulFree p.2)
    (implemented : IsImplemented c p) :
    7 ≤ ((((onColumns (p :: ps)).courseIn c d).outcomes.filter
      (·.rule == Rule.implementation)).filter (·.status == .pass)).length := by
  obtain ⟨table, column, found, rfl, installs, met⟩ := implemented
  have isInstalled := (installed_eq_ok (c := c) (d := d) (nulFree.1 _ rfl) (nulFree.2 _ rfl)).2
    installs
  have pass : ∀ o ∈ found.map (artifactOutcome (.text table, .text column)),
      (o.rule == Rule.implementation) = true ∧ (o.status == .pass) = true := by
    intro o ho
    obtain ⟨i, hi, rfl⟩ := List.mem_map.1 ho
    have none : i.violation? = none := by
      simp [Installed.violation?, Requirement.violation?, met i hi]
    refine ⟨beq_self_eq_true _, ?_⟩
    rw [artifactOutcome, none]
    rfl
  rw [courseIn_onColumns_of_installed (p := (.text table, .text column)) isInstalled]
  have concern := List.filter_eq_self.2 fun o ho => (pass o ho).1
  have all := List.filter_eq_self.2 fun o ho => (pass o ho).2
  rw [Course.outcomes_after, List.filter_append, List.filter_append, List.length_append, concern,
    all, List.length_map, installs.length]
  omega

end Columns

section Declared

variable {ds : List Declaration} {pairs : List (Value × Value)} {p : Value × Value}

/-- The declarations of a spatial index. -/
def indexDeclarations (ds : List Declaration) : List Declaration :=
  ds.filter (·.isNamed [spatialIndexExtension])

/-- The registered columns whose artifacts are looked at. -/
def indexedColumns (ds : List Declaration) (pairs : List (Value × Value)) :
    List (Value × Value) :=
  pairs.filter fun p => p.1.isIn ((indexDeclarations ds).map (·.table))

theorem mem_indexDeclarations {e : Declaration} :
    e ∈ indexDeclarations ds ↔ e ∈ ds ∧ IsForSpatialIndex e := by
  rw [indexDeclarations, List.mem_filter, Declaration.isNamed, Value.isIn_texts]
  simp [IsForSpatialIndex, spatialIndexExtension]

theorem mem_indexedColumns : p ∈ indexedColumns ds pairs ↔ p ∈ pairs ∧ IsIndexed ds p := by
  rw [indexedColumns, List.mem_filter, IsIndexed, Value.isIn, List.any_map, List.any_eq_true]
  simp only [mem_indexDeclarations, Function.comp_apply, and_assoc]

def declarationOutcome (pairs : List (Value × Value)) (e : Declaration) : Outcome :=
  ⟨Rule.declarations, .text (subject e.table e.column),
    (declarationViolation? e pairs).elim .pass .fail⟩

/-- With the geometry columns at hand, first the declarations are looked at and then what is
indexed. -/
theorem courseIn_agenda_of_registers (declared : c.Declares ds)
    (applies : c.DeclaresExtension [spatialIndexExtension]) (registered : c.Registers pairs) :
    agenda.courseIn c d = ((onColumns (indexedColumns ds pairs)).courseIn c d).after
      ((indexDeclarations ds).map (declarationOutcome pairs)) := by
  have applicable : isApplicable.resultIn c d = .ok true := extensionActive_eq_true applies
  have columns : geometryColumns.resultIn c d = .ok pairs := geometryColumns_eq_ok.2 registered
  have rows : spatialIndexDeclarations.resultIn c d = .ok (indexDeclarations ds) :=
    (spatialIndexDeclarations_eq_ok applies.names).2 ⟨ds, declared, rfl⟩
  have indexed : indexedGeometryColumns.resultIn c d = .ok (indexedColumns ds pairs) :=
    (indexedGeometryColumns_eq_ok applies.names).2 ⟨ds, pairs, declared, registered, rfl⟩
  rw [agenda, Agenda.courseIn_gather, applicable]
  simp only [if_true]
  rw [Agenda.courseIn_gather, columns]
  simp only
  rw [onDeclarations, Agenda.courseIn_gather, rows]
  simp only
  rw [Agenda.courseIn_evaluateAll_map (declarationOutcome pairs)
    fun e _ => outcomeOf_ofViolation, onImplementation, Agenda.courseIn_gather, indexed]

/-- Without them, each of the two rules has an outcome that speaks against the package. -/
theorem courseIn_agenda_of_unregistered (applies : c.DeclaresExtension [spatialIndexExtension])
    (unregistered : ∀ pairs, ¬ c.Registers pairs) :
    ∃ v w : Verdict, (v.status = .fail ∨ v.status = .error) ∧
      agenda.courseIn c d = ⟨.ok (), d, [⟨Rule.declarations, .text geometryColumnsTable, v⟩,
        ⟨Rule.implementation, .text geometryColumnsTable, w⟩]⟩ := by
  have applicable : isApplicable.resultIn c d = .ok true := extensionActive_eq_true applies
  cases columns : geometryColumns.resultIn c d with
  | ok pairs => exact absurd (geometryColumns_eq_ok.1 columns) (unregistered pairs)
  | error f =>
    cases indexed : indexedGeometryColumns.resultIn c d with
    | ok ps =>
      obtain ⟨ds, pairs, -, registered, -⟩ := (indexedGeometryColumns_eq_ok applies.names).1 indexed
      exact absurd registered (unregistered pairs)
    | error g =>
      obtain ⟨v, hv, adverse⟩ := isDecisive_geometryColumns f columns
      obtain ⟨w, hw, -⟩ := isDecisive_indexedGeometryColumns g indexed
      refine ⟨v, w, adverse, ?_⟩
      rw [agenda, Agenda.courseIn_gather, applicable]
      simp only [if_true]
      rw [Agenda.courseIn_gather, columns]
      simp only [Recording.outcomesOf, hv]
      rw [onImplementation, Agenda.courseIn_gather, indexed]
      simp only [Recording.outcomesOf, hw]
      rfl

theorem isClean_agenda (declared : c.Declares ds)
    (applies : c.DeclaresExtension [spatialIndexExtension]) (nulFree : NamesNulFree c) :
    (agenda.courseIn c d).IsClean ↔ Conforms c ds := by
  by_cases registers : ∃ pairs, c.Registers pairs
  · obtain ⟨pairs, registered⟩ := registers
    have passes : ∀ e, (declarationOutcome pairs e).isAdverse = false ↔ IsInOrder pairs e := by
      intro e
      rw [← declarationViolation_eq_none]
      cases found : declarationViolation? e pairs <;>
        simp [declarationOutcome, found, Outcome.isAdverse, Outcome.status, Verdict.status]
    have indexedNulFree : ∀ p ∈ indexedColumns ds pairs, IsNulFree p.1 ∧ IsNulFree p.2 :=
      fun p hp => nulFree pairs registered p (mem_indexedColumns.1 hp).1
    rw [courseIn_agenda_of_registers declared applies registered, Course.isClean_after,
      isClean_onColumns indexedNulFree, List.forall_mem_map]
    simp only [passes, mem_indexDeclarations, mem_indexedColumns, and_imp]
    constructor
    · intro h
      obtain ⟨inOrder, implemented⟩ := h
      exact ⟨pairs, registered, inOrder, implemented⟩
    · intro h
      obtain ⟨pairs', registered', inOrder, implemented⟩ := h
      rw [registered'.unique registered] at inOrder implemented
      exact ⟨inOrder, implemented⟩
  · have unregistered : ∀ pairs, ¬ c.Registers pairs := fun pairs h => registers ⟨pairs, h⟩
    obtain ⟨v, w, adverse, course⟩ := courseIn_agenda_of_unregistered (d := d) applies unregistered
    constructor
    · intro clean
      rw [course] at clean
      have first := clean.outcomes _ List.mem_cons_self
      rw [Outcome.isAdverse_iff.2 adverse] at first
      cases first
    · intro h
      obtain ⟨pairs, registered, -⟩ := h
      exact absurd registered (unregistered pairs)

theorem ending_agenda (declared : c.Declares ds)
    (applies : c.DeclaresExtension [spatialIndexExtension]) (nulFree : NamesNulFree c) :
    (agenda.courseIn c d).ending = .ok () ↔
      ∀ pairs, c.Registers pairs → ∀ table column, (.text table, .text column) ∈ pairs →
        IsIndexed ds (.text table, .text column) → ∃ found, Installs c table column found := by
  by_cases registers : ∃ pairs, c.Registers pairs
  · obtain ⟨pairs, registered⟩ := registers
    rw [courseIn_agenda_of_registers declared applies registered, Course.ending_after,
      ending_onColumns]
    constructor
    · intro verdicts pairs' registered' table column member indexed
      rw [registered'.unique registered] at member
      obtain ⟨nulTable, nulColumn⟩ := nulFree pairs registered _ member
      exact (exists_installs_iff (nulTable _ rfl) (nulColumn _ rfl)).2
        (verdicts _ (mem_indexedColumns.2 ⟨member, indexed⟩))
    · intro installs p hp
      obtain ⟨member, indexed⟩ := mem_indexedColumns.1 hp
      by_cases named : ∃ table column, p = (.text table, .text column)
      · obtain ⟨table, column, rfl⟩ := named
        obtain ⟨nulTable, nulColumn⟩ := nulFree pairs registered _ member
        exact (exists_installs_iff (nulTable _ rfl) (nulColumn _ rfl)).1
          (installs pairs registered table column member indexed)
      · apply hasVerdict_installed
        intro table column first second
        exact named ⟨table, column, Prod.ext first second⟩
  · have unregistered : ∀ pairs, ¬ c.Registers pairs := fun pairs h => registers ⟨pairs, h⟩
    obtain ⟨v, w, -, course⟩ := courseIn_agenda_of_unregistered (d := d) applies unregistered
    rw [course]
    exact ⟨fun _ pairs registered => absurd registered (unregistered pairs), fun _ => rfl⟩

/-- A declaration in order is for a column whose artifacts are looked at. -/
theorem indexedColumns_ne_nil {e : Declaration} (he : e ∈ ds) (isFor : IsForSpatialIndex e)
    (inOrder : IsInOrder pairs e) : indexedColumns ds pairs ≠ [] := by
  obtain ⟨p, hp, same, -⟩ := inOrder.registered
  rw [Value.same_comm] at same
  exact List.ne_nil_of_mem (mem_indexedColumns.2 ⟨hp, e, he, isFor, same⟩)

theorem passes_of_isClean (declared : c.Declares ds) (applies : ∃ e ∈ ds, IsForSpatialIndex e)
    (nulFree : NamesNulFree c) (clean : (agenda.courseIn c d).IsClean) :
    7 ≤ (((agenda.courseIn c d).outcomes.filter
      (·.rule == Rule.implementation)).filter (·.status == .pass)).length := by
  obtain ⟨e, he, isFor⟩ := applies
  have extension := declared.declaresExtension he isFor
  obtain ⟨pairs, registered, inOrder, implemented⟩ :=
    (isClean_agenda declared extension nulFree).1 clean
  obtain ⟨p, ps, columns⟩ :=
    List.exists_cons_of_ne_nil (indexedColumns_ne_nil he isFor (inOrder e he isFor))
  obtain ⟨member, indexed⟩ := mem_indexedColumns.1 (columns ▸ List.mem_cons_self)
  have passes := passes_of_isImplemented (d := d) ps (nulFree pairs registered p member)
    (implemented p member indexed)
  rw [courseIn_agenda_of_registers declared extension registered, columns, Course.outcomes_after,
    List.filter_append, List.filter_append, List.length_append]
  omega

/-- Without an outcome on the implementation, nothing that is registered is declared. -/
theorem declarations_fail (declared : c.Declares ds) (applies : ∃ e ∈ ds, IsForSpatialIndex e)
    (nulFree : NamesNulFree c) (ended : (agenda.courseIn c d).ending = .ok ())
    (none : ∀ o ∈ (agenda.courseIn c d).outcomes, o.rule ≠ Rule.implementation) :
    (∃ o ∈ (agenda.courseIn c d).outcomes, o.rule = Rule.declarations) ∧
      ∀ o ∈ (agenda.courseIn c d).outcomes, o.status = .fail := by
  obtain ⟨e, he, isFor⟩ := applies
  have extension := declared.declaresExtension he isFor
  by_cases registers : ∃ pairs, c.Registers pairs
  · obtain ⟨pairs, registered⟩ := registers
    have course := courseIn_agenda_of_registers (d := d) declared extension registered
    have nothing : indexedColumns ds pairs = [] := by
      cases columns : indexedColumns ds pairs with
      | nil => rfl
      | cons p ps =>
        obtain ⟨member, -⟩ := mem_indexedColumns.1 (columns ▸ List.mem_cons_self)
        rw [course, columns] at ended none
        obtain ⟨o, ho, rule⟩ := exists_implementation_outcome
          (nulFree pairs registered p member) ended
        exact absurd rule (none o (List.mem_append_right _ ho))
    rw [nothing] at course
    have outcomes : (agenda.courseIn c d).outcomes =
        (indexDeclarations ds).map (declarationOutcome pairs) := by
      rw [course]
      exact List.append_nil _
    rw [outcomes]
    refine ⟨⟨_, List.mem_map_of_mem (mem_indexDeclarations.2 ⟨he, isFor⟩), rfl⟩, fun o ho => ?_⟩
    obtain ⟨e', he', rfl⟩ := List.mem_map.1 ho
    obtain ⟨he', isFor'⟩ := mem_indexDeclarations.1 he'
    cases found : declarationViolation? e' pairs with
    | none =>
      have inOrder := declarationViolation_eq_none.1 found
      exact absurd nothing (indexedColumns_ne_nil he' isFor' inOrder)
    | some v =>
      rw [declarationOutcome, found]
      rfl
  · have unregistered : ∀ pairs, ¬ c.Registers pairs := fun pairs h => registers ⟨pairs, h⟩
    obtain ⟨v, w, -, course⟩ := courseIn_agenda_of_unregistered (d := d) extension unregistered
    rw [course] at none
    exact absurd rfl (none ⟨Rule.implementation, .text geometryColumnsTable, w⟩ (by simp))

/-- Where a spatial index is declared, the suite reports unless the update triggers of an indexed
column cannot be put in order. The report is in order just for the packages that conform, and then
holds at least the seven passes of one column; without any outcome on the implementation, there are
outcomes on the declarations and all of them are failures. -/
theorem validate_rtree_index (d : Deadline) (package : Option String) (declared : c.Declares ds)
    (applies : ∃ e ∈ ds, IsForSpatialIndex e) (nulFree : NamesNulFree c) :
    ((∃ r, Validation.validate (.undisturbed c) ["rtree_index"] d (.empty package) =
      (.ok (), d, r)) ↔
      ∀ pairs, c.Registers pairs → ∀ table column, (.text table, .text column) ∈ pairs →
        IsIndexed ds (.text table, .text column) → ∃ found, Installs c table column found) ∧
    ((∃ r, Validation.validate (.undisturbed c) ["rtree_index"] d (.empty package) =
      (.ok (), d, r) ∧ r.isOk = true) ↔ Conforms c ds) ∧
    ∀ r, Validation.validate (.undisturbed c) ["rtree_index"] d (.empty package) = (.ok (), d, r) →
      (r.isOk = true → 7 ≤ ((r.forRule Rule.implementation).filter (·.status == .pass)).length) ∧
      (r.forRule Rule.implementation = [] → r.forRule Rule.declarations ≠ [] ∧
        ∀ o ∈ r.forRule Rule.declarations, o.status = .fail) := by
  have known : Suite.select ["rtree_index"] = .ok [.spatialIndex] := rfl
  obtain ⟨e, he, isFor⟩ := id applies
  have extension := declared.declaresExtension he isFor
  refine ⟨?_, ?_, fun r report => ?_⟩
  · rw [Validation.exists_report_iff known]
    exact ending_agenda declared extension nulFree
  · rw [Validation.exists_clean_report_iff known]
    exact isClean_agenda declared extension nulFree
  · obtain ⟨ended, outcomes⟩ := Validation.eq_course_of_report known report
    rw [Report.isOk_iff, Report.forRule, Report.forRule, outcomes]
    constructor
    · intro ok
      exact passes_of_isClean declared applies nulFree ⟨ended, ok⟩
    · intro none
      rw [List.filter_eq_nil_iff] at none
      obtain ⟨⟨o, ho, rule⟩, fails⟩ := declarations_fail declared applies nulFree ended
        fun o ho rule => none o ho (beq_iff_eq.2 rule)
      refine ⟨List.ne_nil_of_mem (List.mem_filter.2 ⟨ho, beq_iff_eq.2 rule⟩), fun o ho => ?_⟩
      exact fails o (List.mem_filter.1 ho).1

end Declared

section Samples

def textColumn (name : String) : Column := ⟨name, some "TEXT", false, .null, 0⟩

/-- A spatial index on the roads is declared, and nothing is installed for it. -/
def unindexedRoads : Catalog :=
  [.table extensionsTable ⟨Declaration.columnNames.map textColumn,
     [[.text "roads", .text "geom", .text spatialIndexExtension, .text "Annex L",
       .text "write-only"]]⟩,
   .table geometryColumnsTable ⟨["table_name", "column_name"].map textColumn,
     [[.text "roads", .text "geom"]]⟩]

def roadsDeclaration : Declaration where
  table := .text "roads"
  column := .text "geom"
  extensionName := .text spatialIndexExtension
  definition := .text "Annex L"
  scope := .text "write-only"

theorem unindexedRoads_declares : unindexedRoads.Declares [roadsDeclaration] :=
  ⟨_, ⟨_, rfl, rfl⟩, rfl⟩

theorem unindexedRoads_registers : unindexedRoads.Registers [(.text "roads", .text "geom")] :=
  ⟨_, ⟨_, rfl, rfl⟩, rfl⟩

theorem unindexedRoads_namesNulFree : NamesNulFree unindexedRoads := by
  intro pairs registered p hp
  rw [registered.unique unindexedRoads_registers] at hp
  cases List.mem_singleton.1 hp
  refine ⟨fun s eq => ?_, fun s eq => ?_⟩ <;> cases eq <;> decide

theorem unindexedRoads_installs (table column : String) :
    Installs unindexedRoads table column (artifactsOf unindexedRoads table column []) := by
  refine ⟨[], ?_, rfl⟩
  have none : ∀ start, unindexedRoads.textsFrom "trigger" start = [] := fun start => rfl
  rw [none, inOrder, List.mergeSort_nil]
  rfl

/-- An index that is declared and not installed is reported and not in order. -/
theorem unindexedRoads_reported :
    unindexedRoads.Declares [roadsDeclaration] ∧
      (∃ e ∈ [roadsDeclaration], IsForSpatialIndex e) ∧ NamesNulFree unindexedRoads ∧
      (∃ r, Validation.validate (.undisturbed unindexedRoads) ["rtree_index"] ⟨none, false⟩
        (.empty none) = (.ok (), ⟨none, false⟩, r)) ∧
      ¬ ∃ r, Validation.validate (.undisturbed unindexedRoads) ["rtree_index"] ⟨none, false⟩
        (.empty none) = (.ok (), ⟨none, false⟩, r) ∧ r.isOk = true := by
  have applies : ∃ e ∈ [roadsDeclaration], IsForSpatialIndex e :=
    ⟨_, List.mem_singleton_self _, rfl⟩
  obtain ⟨reported, inOrder, -⟩ := validate_rtree_index ⟨none, false⟩ none
    unindexedRoads_declares applies unindexedRoads_namesNulFree
  refine ⟨unindexedRoads_declares, applies, unindexedRoads_namesNulFree, ?_, fun ok => ?_⟩
  · exact reported.2 fun _ _ table column _ _ => ⟨_, unindexedRoads_installs table column⟩
  · obtain ⟨pairs, registered, -, implemented⟩ := inOrder.1 ok
    have member : (Value.text "roads", Value.text "geom") ∈ pairs := by
      rw [registered.unique unindexedRoads_registers]
      exact List.mem_singleton_self _
    obtain ⟨table, column, found, eq, installs, met⟩ :=
      implemented _ member ⟨_, List.mem_singleton_self _, rfl, rfl⟩
    cases eq
    rw [installs.unique (unindexedRoads_installs _ _)] at met
    exact absurd (met ⟨⟨.virtualTable, "roads", "geom"⟩, _⟩ List.mem_cons_self) (by decide)

end Samples

end SpatialIndex
end GeoConformance
