import GeoConformance.Proofs.Asked
import GeoConformance.Proofs.RelatedTables.RowOrder
import GeoConformance.Proofs.RelatedTables.Shape

/-!
# The subjects of a report

A subject is meant to be a text or to be missing. The suite for spatial indexes words all of its
subjects itself. The one for related tables takes them as they are stored in the declarations and in
the relations, and these two tables decide alone whether a report names anything else.
-/

namespace GeoConformance

namespace Agenda

variable {s : Session} {S : Value → Prop} {rest : Agenda}

/-- Whatever an agenda records in a session, it is on subjects with a property. -/
def RecordsOn (S : Value → Prop) (s : Session) (a : Agenda) : Prop :=
  ∀ d, ∀ o ∈ (a.course s d).outcomes, S o.subject

theorem recordsOn_done : RecordsOn S s .done := fun _ => List.forall_mem_nil _

theorem recordsOn_skipAll (null : S .null) (skipped : List String) (reason : String) :
    (skipAll skipped reason).RecordsOn S s := by
  intro d
  rw [course_skipAll, List.forall_mem_map]
  exact fun _ _ => null

theorem RecordsOn.evaluate (h : rest.RecordsOn S s) {subject : Value} (on : S subject)
    (rule : String) (check : Check Unit) :
    (Agenda.evaluate rule subject check rest).RecordsOn S s := by
  intro d
  rw [course]
  cases recorded : Recording.outcomeOf rule subject (check.run s d).1 with
  | ok o =>
    have same : o.subject = subject := congrArg Prod.snd (Recording.outcomeOf_key recorded)
    rw [Course.outcomes_after, List.singleton_append, List.forall_mem_cons, same]
    exact ⟨on, h _⟩
  | error f => exact List.forall_mem_nil _

theorem RecordsOn.evaluateAll (h : rest.RecordsOn S s) {evaluations : List Evaluation}
    (on : ∀ e ∈ evaluations, S e.subject) : (evaluateAll evaluations rest).RecordsOn S s := by
  induction evaluations with
  | nil => exact h
  | cons e more ih =>
    obtain ⟨first, others⟩ := List.forall_mem_cons.1 on
    exact (ih others).evaluate first e.rule e.check

theorem RecordsOn.gather {α : Type} {rules : List String} {subject : Value} {check : Check α}
    {found : α → Agenda} {otherwise : Agenda} (hOtherwise : otherwise.RecordsOn S s)
    (on : S subject) (hFound : ∀ d a, (check.run s d).1 = .ok a → (found a).RecordsOn S s) :
    (Agenda.gather rules subject check found otherwise).RecordsOn S s := by
  intro d
  rw [course]
  cases result : (check.run s d).1 with
  | ok a => exact hFound d a result _
  | error f =>
    simp only
    cases recorded : Recording.outcomesOf rules subject f with
    | ok os =>
      rw [Course.outcomes_after, List.forall_mem_append]
      refine ⟨fun o ho => ?_, hOtherwise _⟩
      have key : o.key ∈ os.map Outcome.key := List.mem_map_of_mem ho
      rw [Recording.outcomesOf_key recorded] at key
      obtain ⟨rule, -, eq⟩ := List.mem_map.1 key
      have same : subject = o.subject := congrArg Prod.snd eq
      exact same ▸ on
    | error f => exact List.forall_mem_nil _

end Agenda

namespace SpatialIndex

variable {s : Session} {S : Value → Prop}

theorem recordsOn_onColumns (text : ∀ name, S (.text name)) (indexed : List (Value × Value)) :
    (onColumns indexed).RecordsOn S s := by
  induction indexed with
  | nil => exact Agenda.recordsOn_done
  | cons column rest ih =>
    refine ih.gather (text _) fun d artifacts _ => ih.evaluateAll fun e he => ?_
    obtain ⟨i, -, rfl⟩ := List.mem_map.1 he
    exact text _

/-- Every subject is a text or missing, whatever the package holds. -/
theorem recordsOn_agenda (null : S .null) (text : ∀ name, S (.text name)) :
    agenda.RecordsOn S s := by
  have onImplementation : onImplementation.RecordsOn S s :=
    Agenda.recordsOn_done.gather (text _) fun _ indexed _ => recordsOn_onColumns text indexed
  refine Agenda.recordsOn_done.gather (text _) fun _ applicable _ => ?_
  cases applicable with
  | false => exact Agenda.recordsOn_skipAll null _ _
  | true =>
    refine onImplementation.gather (text _) fun _ registered _ => ?_
    refine onImplementation.gather (text _) fun _ rows _ => ?_
    refine onImplementation.evaluateAll fun e he => ?_
    obtain ⟨row, -, rfl⟩ := List.mem_map.1 he
    exact text _

end SpatialIndex

namespace RelatedTables

open Check

/-- The tables that the bookkeeping names: those declared for mappings and those in relations. -/
def Bookkeeping.tables (b : Bookkeeping) : List Value :=
  b.mappings.map (·.table) ++
    match b.relations with
    | .rows rs => rs.flatMap fun r => [r.baseTable, r.relatedTable, r.mappingTable]
    | _ => []

variable {c : Catalog} {looks : List QueryPattern} {faults : List Fault} {rs : List Relation}
  {b : Bookkeeping}

theorem Bookkeeping.mem_tables_of_mappings {e : Declaration} (h : e ∈ b.mappings) :
    e.table ∈ b.tables :=
  List.mem_append_left _ (List.mem_map_of_mem h)

theorem Bookkeeping.mem_tables_of_relations (seen : b.relations = .rows rs) {r : Relation}
    (h : r ∈ rs) {v : Value} (hv : v ∈ [r.baseTable, r.relatedTable, r.mappingTable]) :
    v ∈ b.tables := by
  rw [tables, seen]
  exact List.mem_append_right _ (List.mem_flatMap.2 ⟨r, h, hv⟩)

/-- An evaluation on relations is on one of the tables of some relation. -/
theorem relationEvaluations_subject (rs : List Relation) :
    ∀ e ∈ relationEvaluations rs,
      ∃ r ∈ rs, e.subject ∈ [r.baseTable, r.relatedTable, r.mappingTable] := by
  have bases : ∀ v ∈ Value.distinct (rs.map Relation.baseTable),
      ∃ r ∈ rs, v ∈ [r.baseTable, r.relatedTable, r.mappingTable] :=
    fun _ => exists_of_mem_role (fun _ => by simp) fun _ h => h
  have related : ∀ rs' : List Relation, (∀ r ∈ rs', r ∈ rs) →
      ∀ v ∈ Value.distinct (rs'.map Relation.relatedTable),
        ∃ r ∈ rs, v ∈ [r.baseTable, r.relatedTable, r.mappingTable] :=
    fun _ part _ => exists_of_mem_role (fun _ => by simp) part
  have relatedAll := related rs fun _ h => h
  have mappings : ∀ v ∈ Value.distinct (rs.map Relation.mappingTable),
      ∃ r ∈ rs, v ∈ [r.baseTable, r.relatedTable, r.mappingTable] :=
    fun _ => exists_of_mem_role (fun _ => by simp) fun _ h => h
  simp only [relationEvaluations, List.forall_mem_append, List.forall_mem_map]
  exact ⟨⟨⟨⟨⟨⟨⟨⟨⟨⟨bases, bases⟩, relatedAll⟩, relatedAll⟩, mappings⟩,
    fun r hr => ⟨r, hr, by simp⟩⟩, mappings⟩, fun r hr => ⟨r, hr, by simp⟩⟩,
    fun r hr => ⟨r, hr, by simp⟩⟩, related _ fun _ h => (List.mem_filter.1 h).1⟩,
    related _ fun _ h => (List.mem_filter.1 h).1⟩

variable {S : Value → Prop}

theorem recordsOn_onRelationsTable (text : ∀ name, S (.text name))
    (named : ∀ v ∈ (Bookkeeping.ofCatalog c).tables, S v) :
    onRelationsTable.RecordsOn S ⟨.database c looks, faults⟩ := by
  refine Agenda.RecordsOn.evaluate ?_ (text _) _ _
  refine Agenda.recordsOn_done.gather (text _) fun d rs result => ?_
  refine Agenda.recordsOn_done.evaluateAll fun e he => named _ ?_
  have seen := relations_eq_rows.1 (resultIn_of_run (d := d) result)
  obtain ⟨r, hr, onTable⟩ := relationEvaluations_subject rs e he
  exact Bookkeeping.mem_tables_of_relations seen hr onTable

/-- Every subject is a text or missing or a table that the bookkeeping names. -/
theorem recordsOn_agenda (null : S .null) (text : ∀ name, S (.text name))
    (named : ∀ v ∈ (Bookkeeping.ofCatalog c).tables, S v) :
    agenda.RecordsOn S ⟨.database c looks, faults⟩ := by
  have onTable : onRelationsTable.RecordsOn S ⟨.database c looks, faults⟩ :=
    recordsOn_onRelationsTable text named
  refine Agenda.recordsOn_done.gather (text _) fun d applicable result => ?_
  cases applicable with
  | false => exact Agenda.recordsOn_skipAll null _ _
  | true =>
    have applies := isApplicable_eq_ok.1 (resultIn_of_run (d := d) result)
    have present := Bookkeeping.names_of_applies applies
    refine Agenda.RecordsOn.evaluate (Agenda.RecordsOn.evaluate ?_ (text _) _ _) (text _) _ _
    refine onTable.gather (text _) fun d ms result => onTable.evaluateAll fun e he => ?_
    obtain ⟨rfl, -⟩ := (mappingRows_eq_mappings present).1 (resultIn_of_run (d := d) result)
    obtain ⟨m, hm, rfl⟩ := List.mem_map.1 he
    exact named _ (Bookkeeping.mem_tables_of_mappings hm)

/-- Where every subject is a text or missing, so is every table that the bookkeeping names. -/
theorem isName_of_keys (applies : b.applies? = some true)
    (names : ∀ key ∈ b.keys, key.2.IsName) : ∀ v ∈ b.tables, v.IsName := by
  rw [Bookkeeping.keys, applies] at names
  simp only [List.forall_mem_append] at names
  obtain ⟨⟨⟨-, ofMappings⟩, -⟩, ofRelations⟩ := names
  intro v hv
  rcases List.mem_append.1 hv with hv | hv
  · obtain ⟨e, he, rfl⟩ := List.mem_map.1 hv
    rw [if_neg (by simpa using List.ne_nil_of_mem he)] at ofMappings
    exact ofMappings _ (List.mem_map_of_mem he)
  · cases seen : b.relations with
    | absent => simp [seen] at hv
    | unreadable => simp [seen] at hv
    | rows rs =>
      simp only [seen, List.mem_flatMap] at hv
      obtain ⟨r, hr, hv⟩ := hv
      simp only [Bookkeeping.relationsKeys, seen, Bookkeeping.relationKeys,
        List.forall_mem_append, List.forall_mem_map] at ofRelations
      obtain ⟨⟨⟨⟨⟨⟨⟨⟨⟨⟨-, -⟩, related⟩, -⟩, -⟩, bases⟩, -⟩, mappings⟩, -⟩, -⟩, -⟩ := ofRelations
      simp only [List.mem_cons, List.not_mem_nil, or_false] at hv
      rcases hv with rfl | rfl | rfl
      · exact bases r hr
      · -- a table that equals one listed before it is listed as that one
        obtain ⟨u, hu, rfl | same⟩ := Value.exists_mem_distinct (List.mem_map_of_mem hr)
        · exact related _ hu
        · rw [(related u hu).same_iff] at same
          exact same ▸ related u hu
      · exact mappings r hr

end RelatedTables

theorem Suite.recordsOn_agenda {c : Catalog} {looks : List QueryPattern} {faults : List Fault}
    {S : Value → Prop} (null : S .null) (text : ∀ name, S (.text name))
    (named : ∀ v ∈ (RelatedTables.Bookkeeping.ofCatalog c).tables, S v) (suite : Suite) :
    suite.agenda.RecordsOn S ⟨.database c looks, faults⟩ := by
  cases suite with
  | relatedTables => exact RelatedTables.recordsOn_agenda null text named
  | spatialIndex => exact SpatialIndex.recordsOn_agenda null text

namespace Validation

variable {s : Session} {suites : List Suite} {d : Deadline}

/-- What holds of all outcomes of each suite holds of those of a validation. -/
theorem forall_outcomes_course {P : Outcome → Prop}
    (h : ∀ suite : Suite, ∀ d, ∀ o ∈ (suite.agenda.course s d).outcomes, P o) :
    ∀ o ∈ (course s suites d).outcomes, P o := by
  induction suites generalizing d with
  | nil => exact List.forall_mem_nil _
  | cons suite rest ih =>
    rw [course]
    cases (suite.agenda.course s d).ending with
    | ok u => exact List.forall_mem_append.2 ⟨h suite d, ih⟩
    | error f => exact h suite d

/-- Every suite of a validation that is carried to its end is carried to its own. -/
theorem exists_course_of_mem {suite : Suite} (member : suite ∈ suites)
    (ended : (course s suites d).ending = .ok ()) :
    ∃ d', (suite.agenda.course s d').ending = .ok () ∧
      ∀ o ∈ (suite.agenda.course s d').outcomes, o ∈ (course s suites d).outcomes := by
  induction suites generalizing d with
  | nil => cases member
  | cons first rest ih =>
    rw [course] at ended ⊢
    cases carried : (first.agenda.course s d).ending with
    | error f =>
      simp only [carried] at ended
      cases ended
    | ok u =>
      rw [carried] at ended
      rcases List.mem_cons.1 member with rfl | member
      · exact ⟨d, carried, fun o => List.mem_append_left _⟩
      · obtain ⟨d', ended, outcomes⟩ := ih member ended
        exact ⟨d', ended, fun o ho => List.mem_append_right _ (outcomes o ho)⟩

open RelatedTables

variable {c : Catalog} {looks : List QueryPattern} {faults : List Fault} {names : List String}

/-- Where the two tables are read, a validation that names nothing but texts names all that these
tables do. -/
theorem isName_of_outcomes
    (spared : ∀ d, ∀ q : Query, IsOnBookkeeping q → Check.IsSpared looks faults d q)
    (performed : Suite.relatedTables ∈ suites)
    (applies : (Bookkeeping.ofCatalog c).applies? = some true)
    (ended : (course ⟨.database c looks, faults⟩ suites d).ending = .ok ())
    (isNames : ∀ o ∈ (course ⟨.database c looks, faults⟩ suites d).outcomes, o.subject.IsName) :
    ∀ v ∈ (Bookkeeping.ofCatalog c).tables, v.IsName := by
  obtain ⟨d', carried, among⟩ := exists_course_of_mem performed ended
  refine isName_of_keys applies ?_
  rw [← hasShape_agenda spared d' carried, List.forall_mem_map]
  exact fun o ho => isNames o (among o ho)

/-- In calm the course is the one that nothing interrupts. -/
theorem course_calm (calm : (⟨.database c looks, faults⟩ : Session).IsCalm d)
    (selected : Suite.select names = .ok suites) :
    (course ⟨.database c looks, faults⟩ suites d).ending =
        (course ⟨.database c, faults⟩ suites d).ending ∧
      (course ⟨.database c looks, faults⟩ suites d).outcomes =
        (course ⟨.database c, faults⟩ suites d).outcomes := by
  have same := validate_calm calm names (.empty none)
  rw [validate_eq selected, validate_eq selected, Course.onto, Course.onto, Prod.mk.injEq,
    Prod.mk.injEq] at same
  obtain ⟨ending, -, outcomes⟩ := same
  exact ⟨ending, congrArg Report.outcomes outcomes⟩

/-- Every subject of a report is a text or missing, or stored as a table in the declarations or the
relations. All of them are texts or missing just where these tables are, if the related tables are
looked at, no fault befalls the two tables that name them and no deadline interrupts reading
these. -/
theorem validate_subjects {left : Deadline} {r r' : Report}
    (reported : validate ⟨.database c looks, faults⟩ names d r = (.ok (), left, r')) :
    ∃ suites recorded, Suite.select names = .ok suites ∧ r' = r.append recorded ∧
      (∀ o ∈ recorded, o.subject.IsName ∨ o.subject ∈ (Bookkeeping.ofCatalog c).tables) ∧
      (Suite.relatedTables ∈ suites → (Bookkeeping.ofCatalog c).applies? = some true →
        (∀ f ∈ faults, ∀ q : Query, IsOnBookkeeping q → f.befalls q = false) →
        ((⟨.database c looks, faults⟩ : Session).IsCalm d ∨
          ∀ q : Query, IsOnBookkeeping q → looks.any (·.covers q) = false) →
        ((∀ o ∈ recorded, o.subject.IsName) ↔
          ∀ v ∈ (Bookkeeping.ofCatalog c).tables, v.IsName)) := by
  cases selected : Suite.select names with
  | error m =>
    simp only [validate, selected] at reported
    cases reported
  | ok suites =>
    rw [validate_eq selected, Course.onto, Prod.mk.injEq, Prod.mk.injEq] at reported
    obtain ⟨ended, -, rfl⟩ := reported
    refine ⟨suites, _, rfl, rfl, ?_, ?_⟩
    · exact forall_outcomes_course fun suite =>
        suite.recordsOn_agenda (S := fun v => v.IsName ∨ v ∈ (Bookkeeping.ofCatalog c).tables)
          (.inl (.inl rfl)) (fun name => .inl (.inr ⟨name, rfl⟩)) fun v hv => .inr hv
    · intro performed applies spared uninterrupted
      refine ⟨fun isNames => ?_, fun isNames => ?_⟩
      · rcases uninterrupted with calm | short
        · obtain ⟨ending, outcomes⟩ := course_calm calm selected
          exact isName_of_outcomes (fun d q on => ⟨fun f hf => spared f hf q on, fun _ => rfl⟩)
            performed applies (ending ▸ ended) (outcomes ▸ isNames)
        · exact isName_of_outcomes
            (fun d q on => ⟨fun f hf => spared f hf q on, fun _ => short q on⟩) performed applies
            ended isNames
      · exact forall_outcomes_course fun suite =>
          suite.recordsOn_agenda (.inl rfl) (fun name => .inr ⟨name, rfl⟩) isNames

/-- The related tables of the photographed places go by texts alone. -/
theorem photographedPlaces_subjects :
    ∃ left r, validate (.undisturbed photographedPlaces) ["related_tables"] ⟨none, false⟩
      (.empty none) = (.ok (), left, r) ∧ ∀ o ∈ r.outcomes, o.subject.IsName := by
  have keys : KeysUsable photographedPlaces := by
    intro rs related r hr
    have usable := photographedPlaces_namesUsable.relations rs related r hr
    exact ⟨fun _ => usable.baseColumn, fun _ => usable.relatedColumn⟩
  have ended : (Suite.relatedTables.agenda.courseIn photographedPlaces ⟨none, false⟩).ending =
      .ok () :=
    (endsOnlyBy_agenda (d := ⟨none, false⟩)).ending keys.not_isHinderedBy (List.forall_mem_nil _)
      [] ⟨none, false⟩
  obtain ⟨r, performed⟩ : ∃ r, validate (.undisturbed photographedPlaces) ["related_tables"]
      ⟨none, false⟩ (.empty none) = (.ok (), ⟨none, false⟩, r) :=
    (exists_report_iff rfl none).2 ended
  obtain ⟨suites, recorded, selected, rfl, -, exactly⟩ := validate_subjects performed
  cases selected
  have names := exactly List.mem_cons_self rfl (List.forall_mem_nil _) (.inr fun _ _ => rfl)
  have tables : (Bookkeeping.ofCatalog photographedPlaces).tables =
      ["places_photos", "places", "photos", "places_photos"].map Value.text := rfl
  refine ⟨_, _, performed, names.2 ?_⟩
  rw [tables, List.forall_mem_map]
  exact fun name _ => .inr ⟨name, rfl⟩

/-- A mapping table is declared under a number. -/
def numberedMapping : Catalog :=
  [.table extensionsTable ⟨Declaration.columnNames.map fun name =>
      ⟨name, some "BLOB", false, .null, 0⟩,
    [[.number (.int 5), .null, .text "related_tables", .text "TBD", .text "read-write"]]⟩]

/-- The number is the subject of a rule that passes. -/
theorem numberedMapping_subject :
    ∃ r, validate (.undisturbed numberedMapping) ["related_tables"] ⟨none, false⟩ (.empty none) =
        (.ok (), ⟨none, false⟩, r) ∧
      ⟨Rule.mappingRows, .number (.int 5), .pass⟩ ∈ r.outcomes ∧
      ¬ ∀ o ∈ r.outcomes, o.subject.IsName := by
  have declared : numberedMapping.DeclaresExtension relatedTablesExtensions :=
    ⟨_, ⟨_, rfl, rfl⟩, _, List.mem_cons_self, "related_tables", by decide, rfl⟩
  have course : Suite.relatedTables.agenda.courseIn numberedMapping ⟨none, false⟩ = _ :=
    courseIn_agenda declared
  rw [validate_singleton rfl, course]
  have subject : (⟨Rule.mappingRows, .number (.int 5), .pass⟩ : Outcome) ∈
      ((Report.empty none).append
        (onDeclarations.courseIn numberedMapping ⟨none, false⟩).outcomes).outcomes := by
    decide +kernel
  refine ⟨_, rfl, subject, fun names => ?_⟩
  rcases names _ subject with null | ⟨name, text⟩
  · cases null
  · cases text

end Validation
end GeoConformance
