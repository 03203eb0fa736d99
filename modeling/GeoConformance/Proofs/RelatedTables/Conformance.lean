import GeoConformance.Proofs.RelatedTables.Endings

/-!
# The verdict on related tables

A report on the related tables of a package is in order just where everything that the package
declares and relates is as required and goes by names that can be looked up. This presupposes that
nothing hides the function by which columns are listed, and that identifiers which the collations of
their columns take for the same are equal.
-/

namespace GeoConformance
namespace RelatedTables

open Check

variable {c : Catalog} {d : Deadline}

/-- Everything that a package declares and relates is as required. -/
structure Conforms (c : Catalog) : Prop where
  declarations : ∃ ds, c.Declares ds ∧ DeclaresRelations ds ∧ DeclaresMappings c ds
  relationsTable :
    ∃ columns, c.StoresColumns (.text relationsTable) columns ∧ AreForRelations columns
  relations : ∃ rs, c.Relates rs ∧ ∀ r ∈ rs, IsConformant c r

/-- All tables and key columns that a package declares and relates can be looked up. -/
structure NamesUsable (c : Catalog) : Prop where
  mappings : ∀ ds, c.Declares ds → ∀ e ∈ ds, IsForMapping e → e.table.IsUsable
  relations : ∀ rs, c.Relates rs → ∀ r ∈ rs, IsUsable r

/-- Where a table has the key column that a relation states, the column can be looked up. -/
def KeysUsable (c : Catalog) : Prop :=
  ∀ rs, c.Relates rs → ∀ r ∈ rs,
    (c.HasColumn r.baseTable r.baseColumn → r.baseColumn.IsUsable) ∧
    (c.HasColumn r.relatedTable r.relatedColumn → r.relatedColumn.IsUsable)

section Evaluations

variable {rs : List Relation} {r : Relation}

/-- A table is looked at for some of the relations that name it, in place of all of them. -/
theorem forall_tables {name : Relation → Value} {P : Value → Prop} :
    (∀ v ∈ Value.distinct (rs.map name), v.IsUsable ∧ P v) ↔
      ∀ r ∈ rs, (name r).IsUsable ∧ P (name r) := by
  constructor
  · intro h r hr
    refine (Value.forall_mem_distinct (P := fun v => v.IsUsable ∧ P v) ?_).1 h _
      (List.mem_map_of_mem hr)
    intro u w same h
    obtain ⟨usable, holds⟩ := h
    obtain ⟨s, rfl, -⟩ := id usable
    rw [Value.same_comm, Value.same_text_iff] at same
    exact same ▸ ⟨usable, holds⟩
  · intro h v hv
    obtain ⟨r, hr, rfl⟩ := exists_of_mem_tables hv
    exact h r hr

/-- The tables in one role are in order where each of them exists and is in the contents table. -/
theorem tables_eq_ok (name : Relation → Value) (role : Value) :
    (∀ v ∈ Value.distinct (rs.map name), (requireTable v).resultIn c d = .ok () ∧
      (requireInContents v role).resultIn c d = .ok ()) ↔
      ∀ r ∈ rs, (name r).IsUsable ∧ c.Names (name r) ∧ c.ListsContents (name r) := by
  rw [← forall_tables (P := fun v => c.Names v ∧ c.ListsContents v)]
  apply forall₂_congr
  intro v _
  rw [requireTable_eq_ok, and_assoc]
  apply and_congr_right
  intro usable
  rw [requireInContents_eq_ok usable]

/-- A table with the columns of a mapping table exists. -/
theorem mappingTables_eq_ok (lists : c.ListsColumns) :
    (∀ v ∈ Value.distinct (rs.map Relation.mappingTable),
      (requireTable v).resultIn c d = .ok () ∧ (mappingTable v).resultIn c d = .ok ()) ↔
      ∀ r ∈ rs, r.mappingTable.IsUsable ∧
        ∃ columns, c.StoresColumns r.mappingTable columns ∧ AreForMapping columns := by
  rw [← forall_tables (P := fun v => ∃ columns, c.StoresColumns v columns ∧ AreForMapping columns)]
  apply forall₂_congr
  intro v _
  rw [requireTable_eq_ok, mappingTable_eq_ok, iff_true_intro lists, true_and]
  constructor
  · intro h
    exact h.2
  · intro h
    obtain ⟨usable, columns, stores, are⟩ := id h
    obtain ⟨k, member⟩ := are.exists_mem
    have has := (Catalog.hasColumns_iff member).2 ⟨lists, stores⟩
    exact ⟨⟨usable, Catalog.names_of_mem_columns has member⟩, h⟩

theorem IsConformant.hasId (h : IsConformant c r) (lists : c.ListsColumns) (name : String)
    (hname : name ∈ ["base_id", "related_id"]) : c.HasColumn r.mappingTable (.text name) := by
  obtain ⟨columns, stores, are⟩ := h.mapping
  obtain ⟨k, member, named, -⟩ := are name hname
  exact ⟨columns, (Catalog.hasColumns_iff member).2 ⟨lists, stores⟩, k, member, by rw [named]⟩

/-- Every table and every relation passes all its checks just where all relations conform. -/
theorem relationEvaluations_eq_ok (lists : c.ListsColumns)
    (apart : ∀ r ∈ rs, ∀ id ∈ ["base_id", "related_id"], c.KeepsApart r.mappingTable (.text id)) :
    (∀ e ∈ relationEvaluations rs, e.check.resultIn c d = .ok ()) ↔
      ∀ r ∈ rs, IsConformant c r ∧ IsUsable r := by
  have base : ∀ r ∈ rs, ((mappingBase r).resultIn c d = .ok () ↔ _) := fun r hr =>
    joins_eq_ok (apart r hr "base_id" (by simp))
  have related : ∀ r ∈ rs, ((mappingRelated r).resultIn c d = .ok () ↔ _) := fun r hr =>
    joins_eq_ok (apart r hr "related_id" (by simp))
  rw [forall_relationEvaluations (P := fun k => k.resultIn c d = .ok ()), tables_eq_ok,
    tables_eq_ok, mappingTables_eq_ok lists]
  simp only [mediaTable_eq_ok, simpleAttributesTable_eq_ok, iff_true_intro lists, true_and,
    forall_tables, relationName_eq_ok, List.mem_filter, Value.same_text_iff]
  constructor
  · intro h r hr
    obtain ⟨bases, relateds, mappings, relations, media, simple⟩ := h
    obtain ⟨accepted, baseJoined, relatedJoined⟩ := relations r hr
    obtain ⟨usableBase, -, baseReferences, -, baseKey⟩ := (base r hr).1 baseJoined
    obtain ⟨usableRelated, -, relatedReferences, -, relatedKey⟩ := (related r hr).1 relatedJoined
    have conformant : IsConformant c r := {
      baseTable := (bases r hr).2
      relatedTable := (relateds r hr).2
      name := accepted
      mapping := (mappings r hr).2
      baseKey := baseKey
      relatedKey := relatedKey
      baseReferences := baseReferences
      relatedReferences := relatedReferences
      media := fun isMedia => (media r ⟨hr, isMedia⟩).2
      simpleAttributes := fun isSimple => (simple r ⟨hr, isSimple⟩).2 }
    have usable : IsUsable r := {
      baseTable := (bases r hr).1
      baseColumn := usableBase.2.2.2
      relatedTable := (relateds r hr).1
      relatedColumn := usableRelated.2.2.2
      mappingTable := (mappings r hr).1 }
    exact ⟨conformant, usable⟩
  · intro h
    have usableBase : (Value.text "base_id").IsUsable := Value.isUsable_text.2 (by decide)
    have usableRelated : (Value.text "related_id").IsUsable := Value.isUsable_text.2 (by decide)
    refine ⟨fun r hr => ⟨(h r hr).2.baseTable, (h r hr).1.baseTable⟩,
      fun r hr => ⟨(h r hr).2.relatedTable, (h r hr).1.relatedTable⟩,
      fun r hr => ⟨(h r hr).2.mappingTable, (h r hr).1.mapping⟩, fun r hr => ?_,
      fun r hr => ⟨(h r hr.1).2.relatedTable, (h r hr.1).1.media hr.2⟩,
      fun r hr => ⟨(h r hr.1).2.relatedTable, (h r hr.1).1.simpleAttributes hr.2⟩⟩
    obtain ⟨conformant, usable⟩ := h r hr
    have hasBase := conformant.hasId lists "base_id" (by simp)
    have hasRelated := conformant.hasId lists "related_id" (by simp)
    refine ⟨conformant.name, (base r hr).2 ?_, (related r hr).2 ?_⟩
    · exact ⟨⟨usable.mappingTable, usable.baseTable, usableBase, usable.baseColumn⟩, hasBase,
        conformant.baseReferences, lists, conformant.baseKey⟩
    · exact ⟨⟨usable.mappingTable, usable.relatedTable, usableRelated, usable.relatedColumn⟩,
        hasRelated, conformant.relatedReferences, lists, conformant.relatedKey⟩

theorem neverSkips_relationEvaluations :
    ∀ e ∈ relationEvaluations rs, e.check.NeverSkips c d :=
  relationEvaluations_failsAs (fun _ => Failure.IsAdverse.neverSkips) fun _ _ =>
    ⟨fun _ => neverSkips_ofExcept _, fun _ => neverSkips_ofExcept _⟩

end Evaluations

theorem AreForRelations.complete {columns : List Column} (are : AreForRelations columns) :
    ∀ name ∈ ["id", "base_table_name", "base_primary_column", "related_table_name",
      "related_primary_column", "relation_name", "mapping_table_name"],
      ∃ k ∈ columns, k.name = name := by
  obtain ⟨k, member, named⟩ := are.key.mem
  intro name hname
  by_cases isId : name = "id"
  · exact ⟨k, member, isId ▸ (Value.text.inj named).symm⟩
  · by_cases isKeyText : name ∈ ["base_primary_column", "related_primary_column"]
    · obtain ⟨k, hk, named, -⟩ := are.keyTexts name isKeyText
      exact ⟨k, hk, named⟩
    · simp only [List.mem_cons, List.not_mem_nil, or_false, isId, false_or, not_or]
        at hname isKeyText
      obtain ⟨k, hk, named, -⟩ := are.texts name (by grind)
      exact ⟨k, hk, named⟩

theorem relations_eq_ok_of_complete {columns : List Column}
    (stores : c.StoresColumns (.text relationsTable) columns) (are : AreForRelations columns)
    {rs : List Relation} : Check.relations.resultIn c d = .ok rs ↔ c.Relates rs := by
  rw [relations_eq_ok, Catalog.Relates]
  apply exists_congr
  intro e
  apply and_congr_right
  intro behind
  obtain ⟨name, e', same, behind', rfl⟩ := stores
  cases same
  rw [Catalog.extent_of_fullExtent behind'] at behind
  cases behind
  have complete : ∀ name ∈ ["id", "base_table_name", "base_primary_column", "related_table_name",
      "related_primary_column", "relation_name", "mapping_table_name"],
      ∃ k ∈ e'.extent.columns, k.name = name := by
    intro name hname
    obtain ⟨k, member, named⟩ := are.complete name hname
    exact ⟨k, FullExtent.mem_of_mem_listed member, named⟩
  rw [List.map_congr_left fun row _ => Relation.ofRow_eq complete row]

theorem isClean_onRelationsTable (apart : KeepsIdsApart c) :
    (onRelationsTable.courseIn c d).IsClean ↔ c.ListsColumns ∧
      (∃ columns, c.StoresColumns (.text relationsTable) columns ∧ AreForRelations columns) ∧
        ∃ rs, c.Relates rs ∧ ∀ r ∈ rs, IsConformant c r ∧ IsUsable r := by
  rw [onRelationsTable, Agenda.isClean_evaluate isDecisive_relationsDefinition.neverSkips,
    relationsDefinition_eq_ok, onRelations,
    Agenda.isClean_gather (by decide) isDecisive_relations.neverSkips, and_assoc]
  refine and_congr_right fun lists => and_congr_right fun ⟨columns, stores, are⟩ =>
    exists_congr fun rs => ?_
  rw [relations_eq_ok_of_complete stores are,
    Agenda.isClean_evaluateAll neverSkips_relationEvaluations]
  refine and_congr_right fun related => ?_
  rw [relationEvaluations_eq_ok lists (apart rs related), iff_true_intro Agenda.isClean_done,
    and_true]

theorem isClean_onDeclarations (h : c.Names (.text extensionsTable)) :
    (onDeclarations.courseIn c d).IsClean ↔
      (∃ ds, c.Declares ds ∧ DeclaresRelations ds ∧ DeclaresMappings c ds ∧
        ∀ e ∈ ds, IsForMapping e → e.table.IsUsable) ∧
      (onRelationsTable.courseIn c d).IsClean := by
  have rows : ∀ ms : List Declaration,
      ∀ e ∈ ms.map (fun e => Evaluation.mk Rule.mappingRows e.table (mappingRow e)),
        e.check.NeverSkips c d := by
    intro ms
    rw [List.forall_mem_map]
    exact fun e _ => isDecisive_mappingRow.neverSkips
  rw [onDeclarations, Agenda.isClean_evaluate isDecisive_relationsTableDeclared.neverSkips,
    relationsTableDeclared_eq_ok h,
    Agenda.isClean_evaluate isDecisive_mappingTablesDeclared.neverSkips,
    mappingTablesDeclared_eq_ok h,
    Agenda.isClean_gather (by decide) isDecisive_mappingRows.neverSkips]
  simp only [mappingRows_eq_ok h, Agenda.isClean_evaluateAll (rows _), List.forall_mem_map,
    mappingRow_eq_ok]
  constructor
  · intro given
    obtain ⟨⟨ds, declared, relations⟩, ⟨ds', declared', some, usable⟩, _,
      ⟨ds'', declared'', -, rfl⟩, flags, rest⟩ := given
    cases declared.unique declared'
    cases declared.unique declared''
    have mappings : DeclaresMappings c ds := by
      refine ⟨some, fun e he isFor => ⟨(usable e he isFor).2, ?_⟩⟩
      exact flags e (mem_mappingDeclarations.2 ⟨he, isFor⟩)
    exact ⟨⟨ds, declared, relations, mappings, fun e he isFor => (usable e he isFor).1⟩, rest⟩
  · intro given
    obtain ⟨⟨ds, declared, relations, mappings, usable⟩, rest⟩ := given
    obtain ⟨some, each⟩ := mappings
    have present : ∀ e ∈ ds, IsForMapping e → e.table.IsUsable ∧ c.Names e.table := by
      intro e he isFor
      exact ⟨usable e he isFor, (each e he isFor).1⟩
    refine ⟨⟨ds, declared, relations⟩, ⟨ds, declared, some, present⟩, _, ⟨ds, declared, some, rfl⟩,
      fun e he => ?_, rest⟩
    obtain ⟨he, isFor⟩ := mem_mappingDeclarations.1 he
    exact (each e he isFor).2

theorem courseIn_agenda (h : c.DeclaresExtension relatedTablesExtensions) :
    agenda.courseIn c d = onDeclarations.courseIn c d := by
  have applicable : isApplicable.resultIn c d = .ok true := extensionActive_eq_true h
  rw [agenda, Agenda.courseIn_gather, applicable]
  rfl

/-- Nothing is in order unless columns are listed. -/
theorem listsColumns_of_isClean (h : c.DeclaresExtension relatedTablesExtensions)
    (clean : (agenda.courseIn c d).IsClean) : c.ListsColumns := by
  rw [courseIn_agenda h, isClean_onDeclarations h.names, onRelationsTable,
    Agenda.isClean_evaluate isDecisive_relationsDefinition.neverSkips,
    relationsDefinition_eq_ok] at clean
  exact clean.2.1.1

theorem isClean_agenda (h : c.DeclaresExtension relatedTablesExtensions)
    (apart : KeepsIdsApart c) :
    (agenda.courseIn c d).IsClean ↔ c.ListsColumns ∧ Conforms c ∧ NamesUsable c := by
  rw [courseIn_agenda h, isClean_onDeclarations h.names, isClean_onRelationsTable apart]
  constructor
  · intro given
    obtain ⟨⟨ds, declared, relations, mappings, usable⟩, lists, table, rs, related,
      conformant⟩ := given
    have conforms : Conforms c := {
      declarations := ⟨ds, declared, relations, mappings⟩
      relationsTable := table
      relations := ⟨rs, related, fun r hr => (conformant r hr).1⟩ }
    refine ⟨lists, conforms, ?_, ?_⟩
    · intro ds' declared'
      rw [declared'.unique declared]
      exact usable
    · intro rs' related' r hr
      rw [related'.unique related] at hr
      exact (conformant r hr).2
  · intro given
    obtain ⟨lists, ⟨⟨ds, declared, relations, mappings⟩, table, rs, related, conformant⟩,
      usable⟩ := given
    exact ⟨⟨ds, declared, relations, mappings, usable.mappings ds declared⟩, lists, table, rs,
      related, fun r hr => ⟨conformant r hr, usable.relations rs related r hr⟩⟩

/-- Where the key columns can be looked up, nothing hinders the suite. -/
theorem KeysUsable.not_isHinderedBy (keys : KeysUsable c) (m : Misuse) : ¬ IsHinderedBy c m := by
  intro hindered
  cases hindered with
  | baseKey related member has refused =>
    exact Identifier.ofValue_eq_error refused ((keys _ related _ member).1 has)
  | relatedKey related member has refused =>
    exact Identifier.ofValue_eq_error refused ((keys _ related _ member).2 has)

/-- Where the extension is declared, the suite reports unless a key column cannot be looked up, and
the report is in order just for the packages that conform and name only what can be looked up. -/
theorem validate_related_tables (d : Deadline) (package : Option String)
    (declared : c.DeclaresExtension relatedTablesExtensions) :
    (KeysUsable c → ∃ r, Validation.validate (.undisturbed c) ["related_tables"] d
      (.empty package) = (.ok (), d, r)) ∧
    (c.ListsColumns → KeepsIdsApart c →
      ((∃ r, Validation.validate (.undisturbed c) ["related_tables"] d (.empty package) =
        (.ok (), d, r) ∧ r.isOk = true) ↔ Conforms c ∧ NamesUsable c)) := by
  have known : Suite.select ["related_tables"] = .ok [.relatedTables] := rfl
  constructor
  · intro keys
    rw [Validation.exists_report_iff known]
    have none : ∀ f ∈ ([] : List Fault), f.error.IsOperational := by simp
    exact (endsOnlyBy_agenda (d := d)).ending keys.not_isHinderedBy none [] d
  · intro lists apart
    rw [Validation.exists_clean_report_iff known]
    exact (isClean_agenda declared apart).trans (and_iff_right lists)

section Samples

def requiredColumn (name type : String) : Column := ⟨name, some type, true, .null, 0⟩

def keyColumn (name : String) : Column := ⟨name, some "INTEGER", false, .null, 1⟩

def relationsTableColumns : List Column :=
  let keyText (name : String) : Column :=
    { requiredColumn name "TEXT" with default := .text "'id'" }
  [keyColumn "id", requiredColumn "base_table_name" "TEXT", keyText "base_primary_column",
   requiredColumn "related_table_name" "TEXT", keyText "related_primary_column",
   requiredColumn "relation_name" "TEXT", requiredColumn "mapping_table_name" "TEXT"]

theorem areForRelations_relationsTableColumns : AreForRelations relationsTableColumns where
  key := ⟨keyColumn "id", by decide, rfl⟩
  texts := by decide
  keyTexts := by decide

def declarationRow (table : String) : Row :=
  [.text table, .null, .text "related_tables", .text "TBD", .text "read-write"]

/-- A package that declares one mapping table, with these contents, relations and tables. -/
def packageOf (mapping : String) (contents relations : List Row) (tables : Catalog) : Catalog :=
  [.table extensionsTable ⟨Declaration.columnNames.map (requiredColumn · "TEXT"),
    [declarationRow relationsTable, declarationRow mapping]⟩,
   .table contentsTable ⟨["table_name", "data_type"].map (requiredColumn · "TEXT"), contents⟩,
   .table relationsTable ⟨relationsTableColumns, relations⟩] ++ tables

/-- The declarations of the relations table and of one mapping table that exists. -/
theorem declares_mapping {mapping : String} (other : mapping ≠ relationsTable)
    (named : c.Names (.text mapping))
    (declared : c.Declares [Declaration.ofRow (declarationRow relationsTable),
      Declaration.ofRow (declarationRow mapping)]) :
    ∃ ds, c.Declares ds ∧ DeclaresRelations ds ∧ DeclaresMappings c ds := by
  have flags : ∀ table, HasAcceptedFlags (Declaration.ofRow (declarationRow table)) :=
    fun table => ⟨rfl, .inl rfl, rfl⟩
  refine ⟨_, declared, ⟨_, rfl, .inl rfl, flags _⟩, ?_, ?_⟩
  · refine ⟨Declaration.ofRow (declarationRow mapping), by simp, .inl rfl, ?_, ?_⟩
    · intro null
      cases null
    · exact fun same => other (Value.text.inj same)
  · simp only [List.forall_mem_cons, List.not_mem_nil, false_implies, implies_true, and_true]
    exact ⟨fun isFor => absurd rfl isFor.2.2, fun _ => ⟨named, flags _⟩⟩

/-- A package that declares a mapping table that exists may relate nothing. -/
theorem conforms_of_no_relations {mapping : String} (other : mapping ≠ relationsTable)
    (named : c.Names (.text mapping))
    (declared : c.Declares [Declaration.ofRow (declarationRow relationsTable),
      Declaration.ofRow (declarationRow mapping)])
    (stores : c.StoresColumns (.text relationsTable) relationsTableColumns)
    (related : c.Relates []) : Conforms c where
  declarations := declares_mapping other named declared
  relationsTable := ⟨_, stores, areForRelations_relationsTableColumns⟩
  relations := ⟨_, related, fun _ hr => nomatch hr⟩

theorem keepsIdsApart_of_no_relations (related : c.Relates []) : KeepsIdsApart c := by
  intro rs related' r hr
  rw [related'.unique related] at hr
  cases hr

/-- A mapping table without a name exists and is declared. -/
def namelessMapping : Catalog := packageOf "" [] [] [.table "" ⟨[keyColumn "id"], []⟩]

/-- A table is called as the function that lists columns. -/
def hiddenColumns : Catalog :=
  packageOf "visits" [] [] [.table "visits" ⟨[keyColumn "id"], []⟩,
    .table Catalog.columnLister ⟨[keyColumn "id"], []⟩]

theorem namelessMapping_declares :
    namelessMapping.Declares [Declaration.ofRow (declarationRow relationsTable),
      Declaration.ofRow (declarationRow "")] :=
  ⟨_, ⟨_, rfl, rfl⟩, rfl⟩

theorem namelessMapping_conforms : Conforms namelessMapping :=
  conforms_of_no_relations (by decide) ⟨"", rfl, by decide⟩ namelessMapping_declares
    ⟨relationsTable, _, rfl, rfl, rfl⟩ ⟨_, rfl, rfl⟩

theorem hiddenColumns_declares :
    hiddenColumns.Declares [Declaration.ofRow (declarationRow relationsTable),
      Declaration.ofRow (declarationRow "visits")] :=
  ⟨_, ⟨_, rfl, rfl⟩, rfl⟩

theorem hiddenColumns_conforms : Conforms hiddenColumns :=
  conforms_of_no_relations (by decide) ⟨"visits", rfl, by decide⟩ hiddenColumns_declares
    ⟨relationsTable, _, rfl, rfl, rfl⟩ ⟨_, rfl, rfl⟩

theorem hiddenColumns_namesUsable : NamesUsable hiddenColumns where
  mappings := by
    intro ds declared
    rw [declared.unique hiddenColumns_declares]
    simp only [List.forall_mem_cons, List.not_mem_nil, false_implies, implies_true, and_true]
    exact ⟨fun isFor => absurd rfl isFor.2.2, fun _ => Value.isUsable_text.2 (by decide)⟩
  relations := by
    intro rs related r hr
    rw [related.unique ⟨_, rfl, rfl⟩] at hr
    cases hr

/-- A table may exist under the empty name, but nothing can look it up. Behind a table that hides
the listing of columns nothing can be told of any column. -/
theorem namelessMapping_and_hiddenColumns_not_in_order :
    (namelessMapping.DeclaresExtension relatedTablesExtensions ∧ Conforms namelessMapping ∧
      ¬ ∃ r, Validation.validate (.undisturbed namelessMapping) ["related_tables"] ⟨none, false⟩
        (.empty none) = (.ok (), ⟨none, false⟩, r) ∧ r.isOk = true) ∧
    hiddenColumns.DeclaresExtension relatedTablesExtensions ∧ Conforms hiddenColumns ∧
      NamesUsable hiddenColumns ∧
      ¬ ∃ r, Validation.validate (.undisturbed hiddenColumns) ["related_tables"] ⟨none, false⟩
        (.empty none) = (.ok (), ⟨none, false⟩, r) ∧ r.isOk = true := by
  rw [Validation.exists_clean_report_iff rfl, Validation.exists_clean_report_iff rfl]
  constructor
  · have declared : namelessMapping.DeclaresExtension relatedTablesExtensions :=
      ⟨_, ⟨_, rfl, rfl⟩, _, List.mem_cons_self, "related_tables", by decide, rfl⟩
    refine ⟨declared, namelessMapping_conforms, fun clean => ?_⟩
    have apart := keepsIdsApart_of_no_relations (c := namelessMapping) ⟨_, rfl, rfl⟩
    have usable := ((isClean_agenda declared apart).1 clean).2.2.mappings _
      namelessMapping_declares (Declaration.ofRow (declarationRow "")) (by simp)
      ⟨.inl rfl, by decide, by decide⟩
    exact (Value.isUsable_text.1 usable).1 rfl
  · have declared : hiddenColumns.DeclaresExtension relatedTablesExtensions :=
      ⟨_, ⟨_, rfl, rfl⟩, _, List.mem_cons_self, "related_tables", by decide, rfl⟩
    refine ⟨declared, hiddenColumns_conforms, hiddenColumns_namesUsable, fun clean => ?_⟩
    have lists := listsColumns_of_isClean declared clean
    cases lists

/-- Photographs of places, joined by a mapping table. -/
def photographedPlaces : Catalog :=
  packageOf "places_photos"
    [[.text "places", .text "features"], [.text "photos", .text "attributes"]]
    [[.number (.int 1), .text "places", .text "id", .text "photos", .text "id", .text "media",
      .text "places_photos"]]
    [.table "places" ⟨[keyColumn "id"], [[.number (.int 7)]]⟩,
     .table "photos" ⟨[keyColumn "id", requiredColumn "data" "BLOB",
       requiredColumn "content_type" "TEXT"],
       [[.number (.int 3), .blob [0xff], .text "image/png"]]⟩,
     .table "places_photos" ⟨[requiredColumn "base_id" "INTEGER",
       requiredColumn "related_id" "INTEGER"], [[.number (.int 7), .number (.int 3)]]⟩]

theorem photographedPlaces_declares :
    photographedPlaces.Declares [Declaration.ofRow (declarationRow relationsTable),
      Declaration.ofRow (declarationRow "places_photos")] :=
  ⟨_, ⟨_, rfl, rfl⟩, rfl⟩

theorem photographedPlaces_conforms : Conforms photographedPlaces where
  declarations := declares_mapping (by decide) ⟨"places_photos", rfl, by decide⟩
    photographedPlaces_declares
  relationsTable := ⟨_, ⟨relationsTable, _, rfl, rfl, rfl⟩, areForRelations_relationsTableColumns⟩
  relations := by
    refine ⟨_, ⟨_, rfl, rfl⟩, fun r hr => ?_⟩
    cases List.mem_singleton.1 hr
    exact {
      baseTable := ⟨⟨"places", rfl, by decide⟩, _, rfl, _, List.mem_cons_self, rfl⟩
      relatedTable := ⟨⟨"photos", rfl, by decide⟩, _, rfl, _,
        List.mem_cons_of_mem _ List.mem_cons_self, rfl⟩
      name := ⟨"media", rfl, .inl (by decide)⟩
      mapping := ⟨_, ⟨"places_photos", _, rfl, rfl, rfl⟩, by unfold AreForMapping; decide⟩
      baseKey := ⟨_, ⟨"places", _, rfl, rfl, rfl⟩, keyColumn "id", by decide, rfl⟩
      relatedKey := ⟨_, ⟨"photos", _, rfl, rfl, rfl⟩, keyColumn "id", by decide, rfl⟩
      baseReferences := ⟨_, _, ⟨"places_photos", "base_id", _, 0, rfl, rfl, rfl, rfl, rfl⟩,
        ⟨"places", "id", _, 0, rfl, rfl, rfl, rfl, rfl⟩, by decide⟩
      relatedReferences := ⟨_, _, ⟨"places_photos", "related_id", _, 1, rfl, rfl, rfl, rfl, rfl⟩,
        ⟨"photos", "id", _, 0, rfl, rfl, rfl, rfl, rfl⟩, by decide⟩
      media := fun _ => ⟨_, ⟨⟨"photos", _, rfl, rfl, rfl⟩, by decide, _, _, rfl, rfl, rfl⟩,
        by decide, by decide⟩
      simpleAttributes := fun h => absurd h (by decide) }

theorem photographedPlaces_namesUsable : NamesUsable photographedPlaces where
  mappings := by
    intro ds declared
    rw [declared.unique photographedPlaces_declares]
    simp only [List.forall_mem_cons, List.not_mem_nil, false_implies, implies_true, and_true]
    exact ⟨fun isFor => absurd rfl isFor.2.2, fun _ => Value.isUsable_text.2 (by decide)⟩
  relations := by
    intro rs related r hr
    rw [related.unique ⟨_, rfl, rfl⟩] at hr
    cases List.mem_singleton.1 hr
    exact {
      baseTable := Value.isUsable_text.2 (by decide)
      baseColumn := Value.isUsable_text.2 (by decide)
      relatedTable := Value.isUsable_text.2 (by decide)
      relatedColumn := Value.isUsable_text.2 (by decide)
      mappingTable := Value.isUsable_text.2 (by decide) }

theorem photographedPlaces_keepsIdsApart : KeepsIdsApart photographedPlaces := by
  intro rs related r hr
  rw [related.unique ⟨_, rfl, rfl⟩] at hr
  cases List.mem_singleton.1 hr
  simp only [List.forall_mem_cons, List.not_mem_nil, false_implies, implies_true, and_true]
  exact ⟨Catalog.keepsApart_of_binary rfl, Catalog.keepsApart_of_binary rfl⟩

/-- A package with one relation of each kind of table that is in order. -/
theorem photographedPlaces_in_order :
    photographedPlaces.DeclaresExtension relatedTablesExtensions ∧
      photographedPlaces.ListsColumns ∧ KeepsIdsApart photographedPlaces ∧
      ∃ r, Validation.validate (.undisturbed photographedPlaces) ["related_tables"] ⟨none, false⟩
        (.empty none) = (.ok (), ⟨none, false⟩, r) ∧ r.isOk = true := by
  have declared : photographedPlaces.DeclaresExtension relatedTablesExtensions :=
    ⟨_, ⟨_, rfl, rfl⟩, _, List.mem_cons_self, "related_tables", by decide, rfl⟩
  exact ⟨declared, rfl, photographedPlaces_keepsIdsApart,
    ((validate_related_tables _ _ declared).2 rfl photographedPlaces_keepsIdsApart).2
      ⟨photographedPlaces_conforms, photographedPlaces_namesUsable⟩⟩

end Samples

end RelatedTables
end GeoConformance
