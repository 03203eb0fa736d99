import GeoConformance.Proofs.Faults
import GeoConformance.Proofs.RelatedTables.Endings
import GeoConformance.Proofs.Subjects
import GeoConformance.Proofs.Wording.Checks

/-!
# The wording of outcomes

An outcome names a rule of its suite, its subject and what was found. On a package in which no line
end is stored all three of them are shown on one line, in either suite.
-/

namespace GeoConformance

open Text

/-! ## The checks of the two suites -/

namespace RelatedTables

open Check

variable {c : Catalog} {table : Value}

theorem isLine_missingRow {what : String} (h : IsLine what) :
    ∀ v ∈ (missingRow what).named, v.IsLine := by
  simp only [missingRow, Violation.named, List.forall_mem_cons]
  exact ⟨h, by decide, List.forall_mem_nil _⟩

theorem isLine_flaws (d : Declaration) (checkName : Bool) :
    ∀ flaw ∈ flaws d checkName, IsLine flaw := by
  have names : ∀ name ∈ ["column_name", "extension_name", "definition", "scope"], IsLine name := by
    decide
  intro flaw member
  obtain ⟨⟨isFlawed, name⟩, listed, same⟩ := List.mem_filterMap.1 member
  have named : name ∈ ["column_name", "extension_name", "definition", "scope"] :=
    List.mem_map_of_mem (f := Prod.snd) listed
  cases isFlawed with
  | false => cases same
  | true =>
    cases same
    exact names _ named

theorem isLine_flawedRow {table : String} (h : IsLine table) (d : Declaration) (checkName : Bool) :
    ∀ v ∈ (flawedRow table (flaws d checkName)).named, v.IsLine := by
  refine isLine_missingRow ?_
  simp only [isLine_append, isLine_toString, and_assoc]
  exact ⟨h, by decide, isLine_intercalate (by decide) (isLine_flaws d checkName)⟩

theorem failsOnLine_relationsTableDeclared (h : c.HoldsLines) :
    relationsTableDeclared.FailsOnLine c := by
  refine (yields_declarations h).bind fun ds _ => ?_
  simp only
  split
  · exact yields_violate (isLine_missingRow (by decide))
  · exact failsOnLine_require (isLine_flawedRow (by decide) _ true)

theorem yields_mappingRows (h : c.HoldsLines) : mappingRows.Yields c (∀ d ∈ ·, d.HoldsLines) := by
  refine (yields_declarationsOf h _).bind fun ds lines => ?_
  exact Yields.bind (failsOnLine_require (isLine_missingRow (by decide))) fun _ _ =>
    yields_pure lines

theorem failsOnLine_mappingTablesDeclared (h : c.HoldsLines) :
    mappingTablesDeclared.FailsOnLine c :=
  (yields_mappingRows h).bind fun _ lines =>
    failsOnLine_forEach fun d member => failsOnLine_requireTable (lines d member).table

theorem failsOnLine_mappingRow {d : Declaration} (h : d.HoldsLines) :
    (mappingRow d).FailsOnLine c := by
  refine failsOnLine_ofViolation fun v found => ?_
  unfold mappingRowViolation? at found
  split at found
  · cases found
  · cases found
    exact isLine_flawedRow h.table d false

theorem failsOnLine_relationsDefinition (h : c.HoldsLines) : relationsDefinition.FailsOnLine c := by
  refine (failsOnLine_requireTable (by decide)).bind fun _ _ => ?_
  refine (failsOnLine_requirePrimaryKey h (by decide) (by decide)).bind fun _ _ => ?_
  exact failsOnLine_requireColumns h (by decide) (by decide) (by decide)

theorem failsOnLine_relationName {r : Relation} (h : r.HoldsLines) :
    (relationName r).FailsOnLine c := by
  refine failsOnLine_ofViolation fun v found => ?_
  unfold relationNameViolation? at found
  split at found <;> cases found
  simp only [Violation.named, List.forall_mem_cons]
  exact ⟨h.name, h.baseTable, List.forall_mem_nil _⟩

theorem failsOnLine_mappingTable (h : c.HoldsLines) (named : table.IsLine) :
    (mappingTable table).FailsOnLine c :=
  (failsOnLine_requireTable named).bind fun _ _ =>
    failsOnLine_requireColumns h named (by decide) (by decide)

theorem failsOnLine_mappingBase (h : c.HoldsLines) {r : Relation} (lines : r.HoldsLines) :
    (mappingBase r).FailsOnLine c :=
  (failsOnLine_requireReferences h lines.mappingTable (by decide) lines.baseTable
    lines.baseColumn).bind fun _ _ =>
      failsOnLine_requirePrimaryKey h lines.baseTable lines.baseColumn

theorem failsOnLine_mappingRelated (h : c.HoldsLines) {r : Relation} (lines : r.HoldsLines) :
    (mappingRelated r).FailsOnLine c :=
  (failsOnLine_requireReferences h lines.mappingTable (by decide) lines.relatedTable
    lines.relatedColumn).bind fun _ _ =>
      failsOnLine_requirePrimaryKey h lines.relatedTable lines.relatedColumn

theorem failsOnLine_attributesTable (h : c.HoldsLines) (named : table.IsLine) :
    (attributesTable table).FailsOnLine c := by
  refine (failsOnLine_requireTable named).bind fun _ _ => ?_
  refine (yields_primaryKey h named).bind fun key _ => ?_
  refine Yields.bind (failsOnLine_require ?_) fun _ _ => ?_
  · simp only [Violation.named, List.forall_mem_cons]
    exact ⟨named, by decide, by decide, List.forall_mem_nil _⟩
  · refine (yields_contentsType h table).bind fun type line => failsOnLine_require ?_
    simp only [Violation.named, List.forall_mem_cons]
    exact ⟨named, by decide, line, List.forall_mem_nil _⟩

theorem failsOnLine_mediaTable (h : c.HoldsLines) (named : table.IsLine) :
    (mediaTable table).FailsOnLine c :=
  (failsOnLine_attributesTable h named).bind fun _ _ =>
    failsOnLine_requireColumns h named (by decide) (by decide)

theorem failsOnLine_simpleColumn (named : table.IsLine) {k : Column} (h : k.HoldsLines) :
    (simpleColumn table k).FailsOnLine c := by
  have type : Text.IsLine (k.type.getD "") := by
    cases declared : k.type with
    | none => decide
    | some type => exact h.type type declared
  have shown : Text.IsLine (if (k.type.getD "").isEmpty then "none" else k.type.getD "") := by
    split
    · decide
    · exact type
  refine failsOnLine_require ?_
  simp only [Violation.named, List.forall_mem_cons, Value.isLine_text, isLine_append,
    isLine_toString]
  exact ⟨named, h.name, ⟨⟨by decide, shown⟩, by decide⟩, List.forall_mem_nil _⟩

theorem failsOnLine_simpleAttributesTable (h : c.HoldsLines) (named : table.IsLine) :
    (simpleAttributesTable table).FailsOnLine c := by
  refine (failsOnLine_attributesTable h named).bind fun _ _ => ?_
  exact (yields_columns h named).bind fun _ lines => failsOnLine_forEach fun k member =>
    failsOnLine_simpleColumn named (lines k member)

end RelatedTables

namespace SpatialIndex

open Check

variable {c : Catalog} {table column : Value}

theorem failsOnLine_isApplicable (h : c.HoldsLines) : isApplicable.FailsOnLine c :=
  failsOnLine_extensionActive h _

theorem failsOnLine_declaration (registered : List (Value × Value)) {d : Declaration}
    (h : d.HoldsLines) : (declaration registered d).FailsOnLine c := by
  refine failsOnLine_ofViolation fun v found => ?_
  unfold declarationViolation? at found
  simp only at found
  split at found
  · cases found
    simp only [Violation.named, List.forall_mem_cons]
    exact ⟨h.table, h.column, List.forall_mem_nil _⟩
  · split at found <;> cases found
    simp only [Violation.named, List.forall_mem_cons]
    exact ⟨by decide, by decide, h.scope, List.forall_mem_nil _⟩

theorem failsOnLine_definition (name : Value) (kind : String) :
    (definition name kind).FailsOnLine c :=
  (failsOnLine_nameOf name).bind fun name _ =>
    Yields.bind (yields_reply (q := .definitions kind name) (R := fun _ => True)
      (List.forall_mem_nil _) (.ok trivial)) fun _ _ => yields_pure trivial

theorem failsOnLine_definitionsFrom (start : Value) (kind : String) :
    (definitionsFrom start kind).FailsOnLine c :=
  (failsOnLine_nameOf start).bind fun name _ =>
    Yields.bind (yields_reply (q := .definitionsFrom kind name) (R := fun _ => True)
      (List.forall_mem_nil _) (.ok trivial)) fun _ _ => yields_ofExcept fun _ _ => trivial

/-- What is installed is held against a requirement on the table. -/
theorem yields_installed (named : table.IsLine) (asked : column.IsLine) :
    (installed table column).Yields c (∀ i ∈ ·, IsLine i.requirement.table) := by
  unfold installed
  split
  · refine (failsOnLine_definition _ _).bind fun virtualTable _ => ?_
    refine (failsOnLine_definition _ _).bind fun insert _ => ?_
    refine (failsOnLine_definitionsFrom _ _).bind fun updates _ => ?_
    refine (failsOnLine_definition _ _).bind fun delete _ => yields_pure ?_
    simp only [List.forall_mem_cons]
    exact ⟨named, named, named, named, named, named, named, List.forall_mem_nil _⟩
  · refine yields_violate ?_
    simp only [Violation.named, List.forall_mem_cons]
    exact ⟨named, asked, List.forall_mem_nil _⟩

theorem isLine_title (a : Artifact) : IsLine a.title := by
  cases a <;> decide

theorem failsOnLine_artifact {i : Installed} (named : IsLine i.requirement.table) :
    (artifact i).FailsOnLine c := by
  refine failsOnLine_ofViolation fun v found => ?_
  unfold Installed.violation? Requirement.violation? at found
  split at found <;> cases found
  simp only [Violation.named, List.forall_mem_cons]
  exact ⟨isLine_title _, named, List.forall_mem_nil _⟩

end SpatialIndex

/-! ## The outcomes -/

/-- An outcome whose subject is shown and whose detail is worded on one line. -/
structure Outcome.IsLine (o : Outcome) : Prop where
  subject : o.subject.IsLine
  detail : Text.IsLine o.verdict.detail

namespace Agenda

variable {c : Catalog} {rest : Agenda}

/-- Whatever an agenda records takes one line, in whatever way the database is disturbed. -/
def RecordsLines (c : Catalog) (a : Agenda) : Prop :=
  ∀ s : Session, s.IsTidy c → ∀ d, ∀ o ∈ (a.course s d).outcomes, o.IsLine

theorem recordsLines_done : done.RecordsLines c := fun _ _ _ => List.forall_mem_nil _

theorem recordsLines_skipAll (skipped : List String) {reason : String} (h : Text.IsLine reason) :
    (skipAll skipped reason).RecordsLines c := by
  induction skipped with
  | nil => exact recordsLines_done
  | cons rule rest ih =>
    exact fun s tidy d => List.forall_mem_cons.2 ⟨⟨Value.isLine_null, h⟩, ih s tidy d⟩

theorem RecordsLines.evaluate (h : rest.RecordsLines c) (rule : String) {subject : Value}
    (on : subject.IsLine) {check : Check Unit} (k : check.FailsOnLine c) :
    (Agenda.evaluate rule subject check rest).RecordsLines c := by
  intro s tidy d
  have result := k s tidy d
  rw [course]
  generalize check.run s d = x at result ⊢
  obtain ⟨result', d'⟩ := x
  cases result with
  | ok _ => exact List.forall_mem_cons.2 ⟨⟨on, List.not_mem_nil⟩, h s tidy d'⟩
  | @error f worded =>
    cases verdict : f.verdict? with
    | none => simp [Recording.outcomeOf, verdict]
    | some v =>
      simp only [Recording.outcomeOf, verdict]
      exact List.forall_mem_cons.2 ⟨⟨on, worded v verdict⟩, h s tidy d'⟩

theorem RecordsLines.evaluateAll (h : rest.RecordsLines c) {evaluations : List Evaluation}
    (on : ∀ e ∈ evaluations, e.subject.IsLine ∧ e.check.FailsOnLine c) :
    (evaluateAll evaluations rest).RecordsLines c := by
  induction evaluations with
  | nil => exact h
  | cons e more ih =>
    obtain ⟨⟨subject, check⟩, others⟩ := List.forall_mem_cons.1 on
    exact (ih others).evaluate e.rule subject check

theorem RecordsLines.gather {α : Type} {R : α → Prop} {rules : List String} {subject : Value}
    {check : Check α} {found : α → Agenda} {otherwise : Agenda}
    (h : otherwise.RecordsLines c) (on : subject.IsLine) (k : check.Yields c R)
    (hFound : ∀ a, R a → (found a).RecordsLines c) :
    (Agenda.gather rules subject check found otherwise).RecordsLines c := by
  intro s tidy d
  have result := k s tidy d
  rw [course]
  generalize check.run s d = x at result ⊢
  obtain ⟨result', d'⟩ := x
  cases result with
  | ok kept => exact hFound _ kept s tidy d'
  | @error f worded =>
    simp only
    cases recorded : Recording.outcomesOf rules subject f with
    | error f => exact List.forall_mem_nil _
    | ok os =>
      refine List.forall_mem_append.2 ⟨?_, h s tidy d'⟩
      unfold Recording.outcomesOf at recorded
      split at recorded
      · cases recorded
        exact List.forall_mem_nil _
      · rename_i v _ verdict
        cases recorded
        exact List.forall_mem_map.2 fun rule _ => ⟨on, worded v verdict⟩
      · cases recorded

end Agenda

namespace SpatialIndex

open Check

variable {c : Catalog}

theorem isLine_subject {table column : Value} (named : table.IsLine) (asked : column.IsLine) :
    IsLine (subject table column) := by
  simp only [subject, isLine_append, isLine_toString]
  exact ⟨⟨named, by decide⟩, asked⟩

theorem recordsLines_onColumns {indexed : List (Value × Value)}
    (h : ∀ p ∈ indexed, p.1.IsLine ∧ p.2.IsLine) : (onColumns indexed).RecordsLines c := by
  induction indexed with
  | nil => exact Agenda.recordsLines_done
  | cons p rest ih =>
    obtain ⟨⟨named, asked⟩, others⟩ := List.forall_mem_cons.1 h
    have on := isLine_subject named asked
    refine (ih others).gather on (yields_installed named asked) fun artifacts lines =>
      (ih others).evaluateAll (List.forall_mem_map.2 fun i member => ⟨?_, ?_⟩)
    · simp only [Value.isLine_text, isLine_append, isLine_toString]
      exact ⟨⟨⟨on, by decide⟩, isLine_title _⟩, by decide⟩
    · exact failsOnLine_artifact (lines i member)

theorem recordsLines_onImplementation (h : c.HoldsLines) : onImplementation.RecordsLines c :=
  Agenda.recordsLines_done.gather (by decide) (yields_indexedGeometryColumns h) fun _ lines =>
    recordsLines_onColumns lines

theorem recordsLines_agenda (h : c.HoldsLines) : agenda.RecordsLines c := by
  have next := recordsLines_onImplementation h
  refine Agenda.recordsLines_done.gather (by decide) (failsOnLine_isApplicable h)
    fun applicable _ => ?_
  cases applicable with
  | false => exact Agenda.recordsLines_skipAll _ (by decide)
  | true =>
    refine next.gather (by decide) (yields_geometryColumns h) fun registered _ => ?_
    refine next.gather (by decide) (yields_declarationsOf h _) fun ds lines => ?_
    refine next.evaluateAll (List.forall_mem_map.2 fun d member => ?_)
    exact ⟨isLine_subject (lines d member).table (lines d member).column,
      failsOnLine_declaration registered (lines d member)⟩

end SpatialIndex

namespace RelatedTables

open Check

variable {c : Catalog}

/-- What the relations name is shown on one line wherever it is a subject. -/
theorem isLine_relationEvaluations {rs : List Relation} (lines : ∀ r ∈ rs, r.HoldsLines) :
    ∀ e ∈ relationEvaluations rs, e.subject.IsLine := by
  intro e member
  obtain ⟨r, related, among⟩ := relationEvaluations_subject rs e member
  simp only [List.mem_cons, List.not_mem_nil, or_false] at among
  rcases among with same | same | same
  · exact same ▸ (lines r related).baseTable
  · exact same ▸ (lines r related).relatedTable
  · exact same ▸ (lines r related).mappingTable

theorem failsOnLine_relationEvaluations (h : c.HoldsLines) {rs : List Relation}
    (lines : ∀ r ∈ rs, r.HoldsLines) :
    ∀ e ∈ relationEvaluations rs, e.check.FailsOnLine c := by
  have named (name : Relation → Value) (line : ∀ r : Relation, r.HoldsLines → (name r).IsLine)
      (part : List Relation) (within : ∀ r ∈ part, r ∈ rs) :
      ∀ v ∈ Value.distinct (part.map name), v.IsLine := by
    intro v member
    obtain ⟨r, related, rfl⟩ := List.mem_map.1 (Value.mem_of_mem_distinct member)
    exact line r (lines r (within r related))
  have bases := named Relation.baseTable (fun _ h => h.baseTable) rs fun _ h => h
  have related := named Relation.relatedTable (fun _ h => h.relatedTable) rs fun _ h => h
  have mappings := named Relation.mappingTable (fun _ h => h.mappingTable) rs fun _ h => h
  have ofKind (kind : String) := named Relation.relatedTable (fun _ h => h.relatedTable)
    (rs.filter fun r => r.name.same (.text kind)) fun _ h => (List.mem_filter.1 h).1
  rw [forall_relationEvaluations (P := fun k => k.FailsOnLine c)]
  refine ⟨fun v hv => ⟨failsOnLine_requireTable (bases v hv),
      failsOnLine_requireInContents h (bases v hv) (by decide)⟩,
    fun v hv => ⟨failsOnLine_requireTable (related v hv),
      failsOnLine_requireInContents h (related v hv) (by decide)⟩,
    fun v hv => ⟨failsOnLine_requireTable (mappings v hv),
      failsOnLine_mappingTable h (mappings v hv)⟩,
    fun r hr => ⟨failsOnLine_relationName (lines r hr), failsOnLine_mappingBase h (lines r hr),
      failsOnLine_mappingRelated h (lines r hr)⟩,
    fun v hv => failsOnLine_mediaTable h (ofKind _ v hv),
    fun v hv => failsOnLine_simpleAttributesTable h (ofKind _ v hv)⟩

theorem recordsLines_onRelationsTable (h : c.HoldsLines) : onRelationsTable.RecordsLines c := by
  refine Agenda.RecordsLines.evaluate ?_ _ (by decide) (failsOnLine_relationsDefinition h)
  refine Agenda.recordsLines_done.gather (by decide) (yields_relations h) fun rs lines => ?_
  exact Agenda.recordsLines_done.evaluateAll fun e member =>
    ⟨isLine_relationEvaluations lines e member, failsOnLine_relationEvaluations h lines e member⟩

theorem recordsLines_agenda (h : c.HoldsLines) : agenda.RecordsLines c := by
  have onTable := recordsLines_onRelationsTable h
  refine Agenda.recordsLines_done.gather (by decide) (failsOnLine_extensionActive h _)
    fun applicable _ => ?_
  cases applicable with
  | false => exact Agenda.recordsLines_skipAll _ (by decide)
  | true =>
    refine Agenda.RecordsLines.evaluate ?_ _ (by decide) (failsOnLine_relationsTableDeclared h)
    refine Agenda.RecordsLines.evaluate ?_ _ (by decide) (failsOnLine_mappingTablesDeclared h)
    refine onTable.gather (by decide) (yields_mappingRows h) fun ds lines => ?_
    refine onTable.evaluateAll (List.forall_mem_map.2 fun d member => ?_)
    exact ⟨(lines d member).table, failsOnLine_mappingRow (lines d member)⟩

end RelatedTables

theorem Suite.recordsLines_agenda {c : Catalog} (h : c.HoldsLines) (suite : Suite) :
    suite.agenda.RecordsLines c := by
  cases suite with
  | relatedTables => exact RelatedTables.recordsLines_agenda h
  | spatialIndex => exact SpatialIndex.recordsLines_agenda h

/-! ## The rules -/

theorem Agenda.LeadsTo.rule_mem {rules : List String} {rest a : Agenda} (h : LeadsTo rules rest a)
    {s : Session} (within : ∀ d, ∀ o ∈ (rest.course s d).outcomes, o.rule ∈ rules) :
    ∀ d, ∀ o ∈ (a.course s d).outcomes, o.rule ∈ rules := by
  induction h with
  | here => exact within
  | skip member _ ih => exact fun d => List.forall_mem_cons.2 ⟨member, ih d⟩
  | @evaluate rule subject check next member _ ih =>
    intro d
    rw [Agenda.course]
    cases recorded : Recording.outcomeOf rule subject (check.run s d).1 with
    | ok o =>
      exact List.forall_mem_cons.2 ⟨Recording.outcomeOf_rule recorded ▸ member, ih _⟩
    | error f => exact List.forall_mem_nil _
  | @gather α own subject check found otherwise members _ _ ihFound ihOtherwise =>
    intro d
    rw [Agenda.course]
    cases (check.run s d).1 with
    | ok a => exact ihFound a _
    | error f =>
      simp only
      cases recorded : Recording.outcomesOf own subject f with
      | ok os =>
        refine List.forall_mem_append.2 ⟨fun o ho => ?_, ihOtherwise _⟩
        exact members _ (Recording.outcomesOf_rule recorded o ho)
      | error f => exact List.forall_mem_nil _

theorem Suite.leadsTo_agenda (suite : Suite) : Agenda.LeadsTo suite.rules .done suite.agenda := by
  cases suite with
  | relatedTables =>
    exact .gather (fun _ h => h) (fun a => (RelatedTables.isGuarded_agenda.1 a).2) .here
  | spatialIndex =>
    exact .gather (fun _ h => h) (fun a => (SpatialIndex.isGuarded_agenda.1 a).2) .here

theorem Suite.isLine_rules (suite : Suite) : ∀ rule ∈ suite.rules, IsLine rule := by
  cases suite <;> decide

namespace Validation

variable (suites : List Suite) (d : Deadline)

/-- Every outcome is under a rule that is shown on one line, whatever the session is like. -/
theorem isLine_rules (s : Session) : ∀ o ∈ (course s suites d).outcomes, IsLine o.rule :=
  forall_outcomes_course fun suite d o ho =>
    suite.isLine_rules _ (suite.leadsTo_agenda.rule_mem (fun _ => List.forall_mem_nil _) d o ho)

/-- Every outcome on a package without line ends takes one line. -/
theorem isLine_outcomes {c : Catalog} (h : c.HoldsLines) {s : Session} (tidy : s.IsTidy c) :
    ∀ o ∈ (course s suites d).outcomes, o.IsLine :=
  forall_outcomes_course fun suite => suite.recordsLines_agenda h s tidy

end Validation

end GeoConformance
