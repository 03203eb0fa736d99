import GeoConformance.Proofs.Asked
import GeoConformance.Proofs.RelatedTables.Asking
import GeoConformance.Proofs.RelatedTables.Conformance

/-!
# The shape of a report on related tables

Which rules a report lists, in which order and on which subjects, is decided by two tables alone: by
the extensions table, and by the relations table where the extension is declared. Neither what the
rest of the package holds nor a query that fails elsewhere can add an outcome, leave one out or move
one.
-/

namespace GeoConformance

namespace Agenda

variable {s : Session} {rest : Agenda} {keys : List (String × Value)}

/-- Whenever an agenda is carried to its end, its outcomes are on just these, in this order. -/
def HasShape (s : Session) (keys : List (String × Value)) (a : Agenda) : Prop :=
  ∀ d, (a.course s d).ending = .ok () → (a.course s d).outcomes.map Outcome.key = keys

theorem hasShape_done : HasShape s [] .done := fun _ _ => rfl

theorem HasShape.evaluate (h : HasShape s keys rest) (rule : String) (subject : Value)
    (check : Check Unit) :
    HasShape s ((rule, subject) :: keys) (.evaluate rule subject check rest) := by
  intro d carried
  rw [course] at carried ⊢
  cases recorded : Recording.outcomeOf rule subject (check.run s d).1 with
  | ok o =>
    rw [recorded] at carried
    simp [Recording.outcomeOf_key recorded, h _ carried]
  | error f =>
    rw [recorded] at carried
    cases carried

theorem HasShape.evaluateAll (h : HasShape s keys rest) (evaluations : List Evaluation) :
    HasShape s ((evaluations.map fun e => (e.rule, e.subject)) ++ keys)
      (.evaluateAll evaluations rest) := by
  induction evaluations with
  | nil => exact h
  | cons e more ih => exact ih.evaluate e.rule e.subject e.check

variable {α : Type} {rules : List String} {subject : Value} {check : Check α} {found : α → Agenda}
  {otherwise : Agenda}

/-- What is gathered decides the shape where it is always found. -/
theorem HasShape.gather_found {a : α} (h : HasShape s keys (found a))
    (always : ∀ d, (check.run s d).1 = .ok a) :
    HasShape s keys (.gather rules subject check found otherwise) := by
  intro d carried
  rw [course, always] at carried ⊢
  exact h _ carried

/-- Where it is never found, each of the rules has an outcome in its place. -/
theorem HasShape.gather_failed (h : HasShape s keys otherwise)
    (never : ∀ d a, (check.run s d).1 ≠ .ok a) :
    HasShape s ((rules.map fun rule => (rule, subject)) ++ keys)
      (.gather rules subject check found otherwise) := by
  intro d carried
  rw [course] at carried ⊢
  cases result : (check.run s d).1 with
  | ok a => exact absurd result (never d a)
  | error f =>
    simp only [result] at carried ⊢
    cases recorded : Recording.outcomesOf rules subject f with
    | ok os =>
      simp only [recorded] at carried ⊢
      rw [Course.outcomes_after, List.map_append, Recording.outcomesOf_key recorded, h _ carried]
    | error f =>
      rw [recorded] at carried
      cases carried

theorem course_skipAll (d : Deadline) (skipped : List String) (reason : String) :
    (skipAll skipped reason).course s d =
      ⟨.ok (), d, skipped.map fun rule => ⟨rule, .null, .skip reason⟩⟩ := by
  induction skipped with
  | nil => rfl
  | cons rule more ih =>
    change ((skipAll more reason).course s d).after _ = _
    rw [ih]
    rfl

end Agenda

/-- What there is to see of a table: that there is none of its name, that it cannot be read, or its
rows. -/
inductive Reading (α : Type) : Type
  | absent
  | unreadable
  | rows (all : List α)

namespace Catalog

variable {α : Type} {c : Catalog} {table : String} {read : Except EngineError (List α)}

def reading (c : Catalog) (table : String) (read : Except EngineError (List α)) : Reading α :=
  if (c.namedTables table).isEmpty then .absent
  else match read with
    | .ok all => .rows all
    | .error _ => .unreadable

theorem reading_eq_absent : c.reading table read = .absent ↔ ¬ c.Names (.text table) := by
  rw [← namedTables_pos, List.length_pos_iff]
  unfold reading
  cases c.namedTables table <;> cases read <;> simp

theorem reading_eq_unreadable :
    c.reading table read = .unreadable ↔ c.Names (.text table) ∧ ∃ e, read = .error e := by
  rw [← namedTables_pos, List.length_pos_iff]
  unfold reading
  cases c.namedTables table <;> cases read <;> simp

theorem reading_eq_rows {all : List α} :
    c.reading table read = .rows all ↔ c.Names (.text table) ∧ read = .ok all := by
  rw [← namedTables_pos, List.length_pos_iff]
  unfold reading
  cases c.namedTables table <;> cases read <;> simp

end Catalog

namespace RelatedTables

open Check

instance (d : Declaration) : Decidable (IsForMapping d) :=
  inferInstanceAs (Decidable ((_ ∨ _) ∧ _ ≠ _ ∧ _ ≠ _))

/-- The name of an extension as it is stored, with the column that holds it. -/
structure StoredName where
  column : Option Column
  collation : Collation
  value : Value

/-- Whether a name counts as one of the two under which the extension goes. -/
def StoredName.isForRelatedTables (n : StoredName) : Bool :=
  relatedTablesExtensions.any fun name =>
    n.column.any fun k => k.takes n.collation n.value (.text name)

/-- What there is to see of the extensions table and of the relations table. The names of the
extensions can be readable where whole declarations are not. -/
structure Bookkeeping where
  extensionNames : Reading StoredName
  declarations : Reading Declaration
  relations : Reading Relation

namespace Bookkeeping

def ofCatalog (c : Catalog) : Bookkeeping where
  extensionNames := c.reading extensionsTable
    ((c.select extensionsTable ["extension_name"]).map fun e => e.rows.map fun row =>
      ⟨e.columns[0]?, c.collationOf extensionsTable "extension_name", row.getD 0 .null⟩)
  declarations := c.reading extensionsTable
    ((c.select extensionsTable Declaration.columnNames).map fun e => e.rows.map Declaration.ofRow)
  relations := c.reading relationsTable
    ((c.extent relationsTable).map fun e => e.rows.map (Relation.ofRow e.columns))

/-- Whether some row declares the extension, as far as this can be known. -/
def applies? (b : Bookkeeping) : Option Bool :=
  match b.extensionNames with
  | .absent => some false
  | .unreadable => none
  | .rows names => some (names.any StoredName.isForRelatedTables)

/-- The declared mapping tables in the order of their rows. -/
def mappings (b : Bookkeeping) : List Declaration :=
  match b.declarations with
  | .rows ds => ds.filter fun d => IsForMapping d
  | _ => []

/-- The rules on relations in their order. Most are on every table in one role, where it is first
named; the others are on every relation. -/
def relationKeys (rs : List Relation) : List (String × Value) :=
  let onTables (rule : String) (role : Relation → Value) (rs : List Relation) :=
    (Value.distinct (rs.map role)).map fun table => (rule, table)
  let onRelations (rule : String) (role : Relation → Value) := rs.map fun r => (rule, role r)
  let ofKind (kind : String) := rs.filter fun r => r.name = .text kind
  onTables "/conf/table-defs/ger-base" Relation.baseTable rs ++
  onTables "/conf/table-defs/ger-base-contents" Relation.baseTable rs ++
  onTables "/conf/table-defs/ger-related" Relation.relatedTable rs ++
  onTables "/conf/table-defs/ger-related-contents" Relation.relatedTable rs ++
  onTables "/conf/table-defs/ger-udmt" Relation.mappingTable rs ++
  onRelations "/conf/table-defs/ger-relname" Relation.baseTable ++
  onTables "/conf/table-defs/udmt" Relation.mappingTable rs ++
  onRelations "/conf/table-defs/udmt-base" Relation.mappingTable ++
  onRelations "/conf/table-defs/udmt-related" Relation.mappingTable ++
  onTables "/conf/media/table-def" Relation.relatedTable (ofKind "media") ++
  onTables "/conf/simple-attributes/table-def" Relation.relatedTable (ofKind "simple_attributes")

/-- What follows from the relations, or stands in its place where there are none to be read. -/
def relationsKeys (b : Bookkeeping) : List (String × Value) :=
  match b.relations with
  | .rows rs => relationKeys rs
  | _ => Rule.onRelations.map fun rule => (rule, .text "gpkgext_relations")

/-- What the outcomes of a report are on, in their order. -/
def keys (b : Bookkeeping) : List (String × Value) :=
  match b.applies? with
  | none => Rule.all.map fun rule => (rule, .text "gpkg_extensions")
  | some false => Rule.all.map fun rule => (rule, .null)
  | some true =>
    [("/conf/table-defs/ger", .text "gpkgext_relations"),
      ("/conf/table-defs/extensions-gerr", .text "gpkg_extensions")] ++
    (if b.mappings.isEmpty then [("/conf/table-defs/extensions-udmt", .text "gpkg_extensions")]
      else b.mappings.map fun d => ("/conf/table-defs/extensions-udmt", d.table)) ++
    [("/conf/table-defs/relations", .text "gpkgext_relations")] ++ b.relationsKeys

end Bookkeeping

variable {c : Catalog} {d : Deadline}

theorem relationEvaluations_keys (rs : List Relation) :
    ((relationEvaluations rs).map fun e => (e.rule, e.subject)) = Bookkeeping.relationKeys rs := by
  have ofKind : ∀ kind : String, (rs.filter fun r => r.name.same (.text kind)) =
      rs.filter fun r => r.name = .text kind := by
    intro kind
    apply List.filter_congr
    intro r _
    rw [Bool.eq_iff_iff, decide_eq_true_eq, Value.same_text_iff]
  simp only [relationEvaluations, Bookkeeping.relationKeys, List.map_append, List.map_map, ofKind]
  rfl

/-! ## What is gathered from the two tables -/

theorem declarations_eq_rows {ds : List Declaration} :
    (Bookkeeping.ofCatalog c).declarations = .rows ds ↔
      c.Names (.text extensionsTable) ∧ c.Declares ds := by
  refine Catalog.reading_eq_rows.trans (and_congr_right fun _ => ?_)
  cases selected : c.select extensionsTable Declaration.columnNames with
  | ok e => simp [Except.map, Catalog.Declares, Catalog.Shows, selected, @eq_comm _ ds]
  | error e => simp [Except.map, Catalog.Declares, Catalog.Shows, selected]

theorem isApplicable_eq_ok {b : Bool} :
    isApplicable.resultIn c d = .ok b ↔ (Bookkeeping.ofCatalog c).applies? = some b := by
  rw [isApplicable, extensionActive_eq_ok (by decide), Bookkeeping.applies?]
  cases seen : (Bookkeeping.ofCatalog c).extensionNames with
  | absent =>
    have absent := Catalog.reading_eq_absent.1 seen
    have uncounted : ¬ c.CountsExtension relatedTablesExtensions :=
      fun counted => absent counted.names
    cases b <;> simp [absent, uncounted]
  | unreadable =>
    obtain ⟨named, e, failed⟩ := Catalog.reading_eq_unreadable.1 seen
    have unread : ¬ ∃ rows, c.Shows extensionsTable ["extension_name"] rows := by
      intro ⟨rows, whole, selected, _⟩
      rw [selected] at failed
      cases failed
    simp [named, unread]
  | rows names =>
    obtain ⟨named, read⟩ := Catalog.reading_eq_rows.1 seen
    cases selected : c.select extensionsTable ["extension_name"] with
    | error e =>
      rw [selected] at read
      cases read
    | ok e =>
      rw [selected] at read
      cases read
      have counts : c.CountsExtension relatedTablesExtensions ↔
          ∃ row ∈ e.rows, (⟨e.columns[0]?, c.collationOf extensionsTable "extension_name",
            row.getD 0 .null⟩ : StoredName).isForRelatedTables = true := by
        simp [Catalog.CountsExtension, selected, StoredName.isForRelatedTables, Extent.takesAt]
      have readable : ∃ rows, c.Shows extensionsTable ["extension_name"] rows :=
        ⟨_, e, selected, rfl⟩
      rw [counts]
      cases b <;> simp [named, readable]

theorem Bookkeeping.names_of_applies (h : (ofCatalog c).applies? = some true) :
    c.Names (.text extensionsTable) := by
  unfold applies? at h
  split at h
  · cases h
  · cases h
  · rename_i seen
    exact (Catalog.reading_eq_rows.1 seen).1

theorem mappingRows_eq_mappings (h : c.Names (.text extensionsTable)) {ms : List Declaration} :
    mappingRows.resultIn c d = .ok ms ↔ ms = (Bookkeeping.ofCatalog c).mappings ∧ ms ≠ [] := by
  have sameRows : ∀ ds : List Declaration, (ds.filter fun d => d.isNamed relatedTablesExtensions &&
      !d.table.isNull && !d.table.same (.text relationsTable)) =
        ds.filter fun d => IsForMapping d := by
    intro ds
    apply List.filter_congr
    intro e _
    rw [Bool.eq_iff_iff, decide_eq_true_eq, isForMapping_iff]
  rw [mappingRows_eq_ok h, Bookkeeping.mappings]
  simp only [sameRows]
  constructor
  · intro given
    obtain ⟨ds, declared, ⟨e, he, isFor⟩, rfl⟩ := given
    rw [declarations_eq_rows.2 ⟨h, declared⟩]
    exact ⟨rfl, List.ne_nil_of_mem (List.mem_filter.2 ⟨he, decide_eq_true isFor⟩)⟩
  · intro given
    obtain ⟨rfl, some⟩ := given
    cases seen : (Bookkeeping.ofCatalog c).declarations with
    | rows ds =>
      rw [seen] at some
      obtain ⟨e, he⟩ := List.exists_mem_of_ne_nil _ some
      obtain ⟨member, isFor⟩ := List.mem_filter.1 he
      exact ⟨ds, (declarations_eq_rows.1 seen).2, ⟨e, member, of_decide_eq_true isFor⟩, rfl⟩
    | absent =>
      rw [seen] at some
      exact absurd rfl some
    | unreadable =>
      rw [seen] at some
      exact absurd rfl some

theorem relations_eq_rows {rs : List Relation} :
    Check.relations.resultIn c d = .ok rs ↔ (Bookkeeping.ofCatalog c).relations = .rows rs := by
  rw [relations_eq_ok, Bookkeeping.ofCatalog, Catalog.reading_eq_rows]
  constructor
  · intro h
    obtain ⟨e, behind, rfl⟩ := h
    exact ⟨Catalog.names_of_extent behind, by rw [behind]; rfl⟩
  · intro h
    obtain ⟨-, read⟩ := h
    cases behind : c.extent relationsTable with
    | error e =>
      rw [behind] at read
      cases read
    | ok e =>
      rw [behind] at read
      cases read
      exact ⟨e, rfl, rfl⟩

/-! ## The queries that decide the shape -/

/-- Looking up one of the two tables or reading its rows. -/
def IsOnBookkeeping (q : Query) : Prop :=
  (q.point = .existence ∨ q.point = .rows) ∧
    (q.subject = extensionsTable ∨ q.subject = relationsTable)

theorem isApplicable_onBookkeeping : isApplicable.AsksOnly IsOnBookkeeping :=
  asksOnly_extensionActive ⟨.inl rfl, .inl rfl⟩ fun _ => ⟨.inr rfl, .inl rfl⟩

theorem mappingRows_onBookkeeping : mappingRows.AsksOnly IsOnBookkeeping :=
  asksOnly_mappingRows ⟨.inl rfl, .inl rfl⟩ ⟨.inr rfl, .inl rfl⟩

theorem relations_onBookkeeping : Check.relations.AsksOnly IsOnBookkeeping :=
  asksOnly_relations ⟨.inl rfl, .inr rfl⟩ ⟨.inr rfl, .inr rfl⟩

section Spared

variable {looks : List QueryPattern} {faults : List Fault}
  (spared : ∀ d, ∀ q : Query, IsOnBookkeeping q → IsSpared looks faults d q)

include spared

theorem run_of_asksOnly {α : Type} {k : Check α} (h : k.AsksOnly IsOnBookkeeping) (d : Deadline) :
    k.run ⟨.database c looks, faults⟩ d = (k.resultIn c d, d) :=
  (h.mono (spared d)).run_spared

theorem hasShape_onRelations : onRelations.HasShape ⟨.database c looks, faults⟩
    (Bookkeeping.ofCatalog c).relationsKeys := by
  have run := fun d => run_of_asksOnly (c := c) spared relations_onBookkeeping d
  unfold Bookkeeping.relationsKeys
  split
  · rename_i rs seen
    refine Agenda.HasShape.gather_found (a := rs) ?_ fun d => ?_
    · rw [← relationEvaluations_keys, ← List.append_nil (List.map _ _)]
      exact Agenda.hasShape_done.evaluateAll _
    · rw [run]
      exact relations_eq_rows.2 seen
  · rename_i unseen
    rw [← List.append_nil (List.map _ _)]
    refine Agenda.hasShape_done.gather_failed fun d rs => ?_
    rw [run]
    exact fun found => unseen rs (relations_eq_rows.1 found)

theorem hasShape_onDeclarations (h : c.Names (.text extensionsTable))
    (applies : (Bookkeeping.ofCatalog c).applies? = some true) :
    onDeclarations.HasShape ⟨.database c looks, faults⟩ (Bookkeeping.ofCatalog c).keys := by
  have onTable := (hasShape_onRelations (c := c) spared).evaluate Rule.relationsTable
    (.text relationsTable) relationsDefinition
  have run := fun d => run_of_asksOnly (c := c) spared mappingRows_onBookkeeping d
  rw [Bookkeeping.keys, applies]
  simp only [List.append_assoc, List.cons_append, List.nil_append]
  refine Agenda.HasShape.evaluate (Agenda.HasShape.evaluate ?_ _ _ _) _ _ _
  split
  · rename_i empty
    rw [List.isEmpty_iff] at empty
    refine Agenda.HasShape.gather_failed onTable fun d ms => ?_
    rw [run]
    intro found
    obtain ⟨rfl, some⟩ := (mappingRows_eq_mappings h).1 found
    exact some empty
  · rename_i some
    rw [List.isEmpty_iff] at some
    refine Agenda.HasShape.gather_found (a := (Bookkeeping.ofCatalog c).mappings) ?_ fun d => ?_
    · have evaluations := onTable.evaluateAll ((Bookkeeping.ofCatalog c).mappings.map fun d =>
        (⟨Rule.mappingRows, d.table, mappingRow d⟩ : Evaluation))
      rw [List.map_map] at evaluations
      exact evaluations
    · rw [run]
      exact (mappingRows_eq_mappings h).2 ⟨rfl, some⟩

theorem course_of_undeclared (undeclared : (Bookkeeping.ofCatalog c).applies? = some false)
    (d : Deadline) :
    agenda.course ⟨.database c looks, faults⟩ d = ⟨.ok (), d, Rule.all.map fun rule => ⟨rule, .null,
      .skip "Conformance class Related Tables Extension is not in use."⟩⟩ := by
  rw [agenda, Agenda.course, run_of_asksOnly (c := c) spared isApplicable_onBookkeeping d,
    isApplicable_eq_ok.2 undeclared]
  exact Agenda.course_skipAll d _ _

theorem course_of_unknown (unknown : (Bookkeeping.ofCatalog c).applies? = none) (d : Deadline) :
    ∃ message, agenda.course ⟨.database c looks, faults⟩ d = ⟨.ok (), d, Rule.all.map fun rule =>
      ⟨rule, .text "gpkg_extensions", .error message⟩⟩ := by
  rw [agenda, Agenda.course, run_of_asksOnly (c := c) spared isApplicable_onBookkeeping d]
  cases result : isApplicable.resultIn c d with
  | ok b =>
    rw [isApplicable_eq_ok, unknown] at result
    cases result
  | error f =>
    obtain ⟨message, sql, rfl⟩ := extensionActive_failsAs f result
    exact ⟨message, rfl⟩

theorem hasShape_agenda :
    agenda.HasShape ⟨.database c looks, faults⟩ (Bookkeeping.ofCatalog c).keys := by
  intro d
  cases applies : (Bookkeeping.ofCatalog c).applies? with
  | none =>
    obtain ⟨message, course⟩ := course_of_unknown spared applies d
    rw [course, Bookkeeping.keys, applies, List.map_map]
    exact fun _ => rfl
  | some b =>
    cases b with
    | false =>
      rw [course_of_undeclared spared applies, Bookkeeping.keys, applies, List.map_map]
      exact fun _ => rfl
    | true =>
      rw [agenda, Agenda.course, run_of_asksOnly (c := c) spared isApplicable_onBookkeeping d,
        isApplicable_eq_ok.2 applies]
      exact hasShape_onDeclarations spared (Bookkeeping.names_of_applies applies) applies d

/-- A validation that is carried to its end reports what the two tables decide. -/
theorem report_of_spared {left : Deadline} {package : Option String} {r : Report} {d : Deadline}
    (report : Validation.validate ⟨.database c looks, faults⟩ ["related_tables"] d
      (.empty package) = (.ok (), left, r)) :
    (r.outcomes.map fun o => (o.rule, o.subject)) = (Bookkeeping.ofCatalog c).keys ∧
      ((Bookkeeping.ofCatalog c).applies? = some false →
        r.outcomes = Rule.all.map fun rule => ⟨rule, .null,
          .skip "Conformance class Related Tables Extension is not in use."⟩) ∧
      ((Bookkeeping.ofCatalog c).applies? = none → ∀ o ∈ r.outcomes, o.status = .error) := by
  have known : Suite.select ["related_tables"] = .ok [.relatedTables] := rfl
  rw [Validation.validate_eq known, Validation.course_singleton, Course.onto, Prod.mk.injEq,
    Prod.mk.injEq] at report
  obtain ⟨ended, -, rfl⟩ := report
  simp only [Report.append, Report.empty, List.nil_append]
  refine ⟨hasShape_agenda spared d ended, fun undeclared => ?_, fun unknown => ?_⟩
  · exact congrArg Course.outcomes (course_of_undeclared spared undeclared d)
  · obtain ⟨message, course⟩ := course_of_unknown spared unknown d
    have outcomes := congrArg Course.outcomes course
    change ∀ o ∈ (agenda.course _ d).outcomes, _
    rw [outcomes, List.forall_mem_map]
    exact fun _ _ => rfl

end Spared

section Samples

/-- The schema of tables and of their columns cannot be read. -/
def columnsFault : Fault := ⟨.columns, none, ⟨.operational, "disk I/O error"⟩, false⟩

theorem columnsFault_spares {q : Query} (on : IsOnBookkeeping q) :
    columnsFault.befalls q = false := by
  rcases on.1 with point | point <;>
    simp [Fault.befalls, QueryPattern.covers, columnsFault, point]

/-- An extensions table without rows and without the column that names the extensions. -/
def namelessExtensions : Catalog :=
  [.table extensionsTable ⟨["table_name", "column_name", "definition", "scope"].map
    (requiredColumn · "TEXT"), []⟩]

/-- More relations than are read without a look at the deadline. -/
def longRelations : Catalog :=
  [.table extensionsTable ⟨Declaration.columnNames.map (requiredColumn · "TEXT"),
    [[.text relationsTable, .null, .text "related_tables", .text "TBD", .text "read-write"]]⟩,
   .table relationsTable ⟨[requiredColumn "base_table_name" "TEXT"],
    List.replicate 500 [.text "places"]⟩]

/-- The schema of tables and of their columns cannot be read, and the deadline is cancelled. -/
def cancellingColumnsFault : Fault := { columnsFault with cancels := true }

theorem longRelations_keysUsable : KeysUsable longRelations := by
  intro rs related r hr
  rw [related.unique ⟨_, rfl, rfl⟩] at hr
  obtain ⟨row, hrow, rfl⟩ := List.mem_map.1 hr
  rw [List.eq_of_mem_replicate hrow]
  constructor <;> intro has <;> obtain ⟨_, -, k, -, named⟩ := has <;> exact Value.noConfusion named

theorem longRelations_keys :
    500 ≤ (Bookkeeping.ofCatalog longRelations).keys.length := by
  have relations : (Bookkeeping.ofCatalog longRelations).relations =
      .rows (List.replicate 500 (Relation.ofRow [requiredColumn "base_table_name" "TEXT"]
        [.text "places"])) := by
    rw [Bookkeeping.ofCatalog, Catalog.reading_eq_rows]
    exact ⟨Catalog.names_of_extent (e := ⟨_, _⟩) rfl, by rw [← List.map_replicate]; rfl⟩
  have applies : (Bookkeeping.ofCatalog longRelations).applies? = some true := rfl
  simp only [Bookkeeping.keys, applies, Bookkeeping.relationsKeys, relations,
    Bookkeeping.relationKeys, List.length_append, List.length_map, List.length_replicate]
  omega

/-- The fault is met before the relations are read, and so they are not. -/
theorem longRelations_interrupted : ∃ left outcomes, agenda.course
    ⟨.database longRelations [⟨.rows, some relationsTable⟩], [cancellingColumnsFault]⟩
      ⟨none, false⟩ = ⟨.ok (), left, outcomes⟩ ∧ outcomes.length = 15 := by
  have spared : isApplicable.AsksOnly
      (IsSpared [⟨.rows, some relationsTable⟩] [cancellingColumnsFault] ⟨none, false⟩) := by
    refine isApplicable_onBookkeeping.mono fun q on =>
      ⟨fun f hf => ?_, fun passed => nomatch passed⟩
    rw [List.mem_singleton.1 hf]
    exact columnsFault_spares on
  have declared : longRelations.DeclaresExtension relatedTablesExtensions :=
    ⟨_, ⟨_, rfl, rfl⟩, _, List.mem_cons_self, "related_tables", by decide, rfl⟩
  rw [agenda, Agenda.course, spared.run_spared, isApplicable, extensionActive_eq_true declared]
  refine ⟨_, _, rfl, ?_⟩
  rfl

theorem longRelations_reported : ∃ left r, Validation.validate ⟨.database longRelations, []⟩
    ["related_tables"] ⟨none, false⟩ (.empty none) = (.ok (), left, r) ∧
      500 ≤ r.outcomes.length := by
  have known : Suite.select ["related_tables"] = .ok [.relatedTables] := rfl
  have ended := (endsOnlyBy_agenda (d := ⟨none, false⟩)).ending
    longRelations_keysUsable.not_isHinderedBy (List.forall_mem_nil _) [] ⟨none, false⟩
  have report := Validation.validate_eq (s := ⟨.database longRelations, []⟩) known ⟨none, false⟩
    (.empty none)
  rw [Validation.course_singleton, Course.onto, Suite.agenda, ended] at report
  obtain ⟨shape, -⟩ := report_of_spared
    (fun d q on => ⟨List.forall_mem_nil _, fun _ => rfl⟩) report
  refine ⟨_, _, report, ?_⟩
  have long := longRelations_keys
  rw [← shape, List.length_map] at long
  exact long

end Samples

end RelatedTables
end GeoConformance
