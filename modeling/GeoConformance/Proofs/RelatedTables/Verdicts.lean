import GeoConformance.Proofs.CleanCourse
import GeoConformance.Proofs.RelatedTables.Requirements

/-!
# The verdicts of the checks on related tables

Each check passes just where what it is about is as required, and otherwise, as long as the key
columns have usable names, speaks against the package.
-/

namespace GeoConformance
namespace RelatedTables

open Check

variable {c : Catalog} {d : Deadline}

theorem relationsTableDeclared_eq_ok (h : c.Names (.text extensionsTable)) :
    relationsTableDeclared.resultIn c d = .ok () ↔ ∃ ds, c.Declares ds ∧ DeclaresRelations ds := by
  have first : ∀ ds : List Declaration,
      ds.find? (fun d => d.table = .text relationsTable) =
        (ds.filter fun d => d.table.same (.text relationsTable)).head? := by
    intro ds
    rw [List.head?_filter]
    congr 1
    funext e
    rw [Bool.eq_iff_iff, decide_eq_true_eq, Value.same_text_iff]
  simp only [relationsTableDeclared, resultIn_bind_eq_ok, declarations_eq_ok h, DeclaresRelations,
    first]
  apply exists_congr
  intro ds
  apply and_congr_right
  intro _
  cases ds.filter fun d => d.table.same (.text relationsTable) with
  | nil => simp
  | cons e rest =>
    rw [resultIn_require_eq_ok, List.isEmpty_iff, flaws_eq_nil]
    simp [and_comm]

theorem isDecisive_relationsTableDeclared : IsDecisive c d relationsTableDeclared := by
  apply isDecisive_declarations.bind
  intro ds _
  cases ds.filter fun d => d.table.same (.text relationsTable) with
  | nil => exact isDecisive_violate _
  | cons e rest => exact isDecisive_require _ _

theorem isForMapping_iff {e : Declaration} :
    (e.isNamed relatedTablesExtensions && !e.table.isNull &&
      !e.table.same (.text relationsTable)) = true ↔ IsForMapping e := by
  rw [IsForMapping, ← isNamed_iff]
  simp only [Bool.and_eq_true, Bool.not_eq_true', ne_eq, ← Value.isNull_iff, ← Value.same_text_iff,
    Bool.not_eq_true, and_assoc]

theorem mem_mappingDeclarations {e : Declaration} {ds : List Declaration} :
    (e ∈ ds.filter fun d => d.isNamed relatedTablesExtensions && !d.table.isNull &&
      !d.table.same (.text relationsTable)) ↔ e ∈ ds ∧ IsForMapping e := by
  rw [List.mem_filter, isForMapping_iff]

/-- The rows that a check of mapping declarations goes through: all of them, and at least one. -/
theorem mappingRows_eq_ok (h : c.Names (.text extensionsTable)) {ms : List Declaration} :
    mappingRows.resultIn c d = .ok ms ↔
      ∃ ds, c.Declares ds ∧ (∃ e ∈ ds, IsForMapping e) ∧
        ms = ds.filter fun d => d.isNamed relatedTablesExtensions && !d.table.isNull &&
          !d.table.same (.text relationsTable) := by
  simp only [mappingRows, resultIn_bind_eq_ok, mappingDeclarations_eq_ok h]
  constructor
  · intro given
    obtain ⟨_, ⟨ds, declared, rfl⟩, _, passed, eq⟩ := given
    cases eq
    have notEmpty := resultIn_require_eq_ok.1 passed
    rw [Bool.not_eq_true', List.isEmpty_eq_false_iff] at notEmpty
    obtain ⟨e, he⟩ := List.exists_mem_of_ne_nil _ notEmpty
    exact ⟨ds, declared, ⟨e, mem_mappingDeclarations.1 he⟩, rfl⟩
  · intro given
    obtain ⟨ds, declared, ⟨e, he⟩, rfl⟩ := given
    have notEmpty := List.ne_nil_of_mem (mem_mappingDeclarations.2 he)
    rw [← List.isEmpty_eq_false_iff, ← Bool.not_eq_true'] at notEmpty
    exact ⟨_, ⟨ds, declared, rfl⟩, (), resultIn_require_eq_ok.2 notEmpty, rfl⟩

theorem isDecisive_mappingRows : IsDecisive c d mappingRows :=
  isDecisive_mappingDeclarations.bind fun _ _ =>
    (isDecisive_require _ _).bind fun _ _ => isDecisive_pure _

theorem mappingTablesDeclared_eq_ok (h : c.Names (.text extensionsTable)) :
    mappingTablesDeclared.resultIn c d = .ok () ↔
      ∃ ds, c.Declares ds ∧ (∃ e ∈ ds, IsForMapping e) ∧
        ∀ e ∈ ds, IsForMapping e → e.table.IsUsable ∧ c.Names e.table := by
  simp only [mappingTablesDeclared, resultIn_bind_eq_ok, mappingRows_eq_ok h,
    resultIn_forEach_eq_ok, requireTable_eq_ok]
  constructor
  · intro given
    obtain ⟨_, ⟨ds, declared, found, rfl⟩, passed⟩ := given
    have each : ∀ e ∈ ds, IsForMapping e → e.table.IsUsable ∧ c.Names e.table := by
      intro e he isFor
      exact passed e (mem_mappingDeclarations.2 ⟨he, isFor⟩)
    exact ⟨ds, declared, found, each⟩
  · intro given
    obtain ⟨ds, declared, found, passed⟩ := given
    refine ⟨_, ⟨ds, declared, found, rfl⟩, fun e he => ?_⟩
    obtain ⟨he, isFor⟩ := mem_mappingDeclarations.1 he
    exact passed e he isFor

theorem isDecisive_mappingTablesDeclared : IsDecisive c d mappingTablesDeclared :=
  isDecisive_mappingRows.bind fun _ _ => failsAs_forEach fun _ _ => isDecisive_requireTable

theorem mappingRow_eq_ok {e : Declaration} :
    (mappingRow e).resultIn c d = .ok () ↔ HasAcceptedFlags e := by
  rw [mappingRow, resultIn_ofViolation_eq_ok]
  unfold mappingRowViolation?
  split
  · rename_i none
    simp [(flaws_eq_nil.1 none).1]
  · rename_i some
    rw [flaws_eq_nil] at some
    simpa using some

theorem isDecisive_mappingRow {e : Declaration} : IsDecisive c d (mappingRow e) :=
  isDecisive_ofViolation _

theorem canonicalType_text : canonicalType "TEXT" = "TEXT" := by decide

theorem canonicalType_integer : canonicalType "INTEGER" = "INTEGER" := by decide

theorem canonicalType_blob : canonicalType "BLOB" = "BLOB" := by decide

theorem denotedDefault_id : denotedDefault (.text "'id'") = some "id" := by decide

/-- An expectation of a type and of no nulls, and perhaps of a default. -/
theorem isMetBy_typed {name type : String} {default : Option Value} {k : Column} :
    (ColumnExpectation.mk name (some (.text type)) (some true) default none).isMetBy k = true ↔
      k.HasType (canonicalType type) ∧ k.notNull = true ∧
        ∀ v, default = some v → denotedDefault k.default = denotedDefault v := by
  rw [ColumnExpectation.isMetBy_iff (by simp),
    ColumnExpectation.keyMismatch_eq_none_of_unconstrained rfl]
  simp

theorem relationsColumns_met {columns : List Column} (key : IsSoleKey columns (.text "id")) :
    (∀ e ∈ relationsColumns, ∃ k ∈ columns, k.name = e.name ∧ e.isMetBy k = true) ↔
      AreForRelations columns := by
  have id : ∃ k ∈ columns, k.name = "id" ∧ (ColumnExpectation.mk "id" none none none none).isMetBy k
      = true := by
    obtain ⟨k, member, named⟩ := key.mem
    have met : (ColumnExpectation.mk "id" none none none none).isMetBy k = true := by
      rw [ColumnExpectation.isMetBy_iff (by simp),
        ColumnExpectation.keyMismatch_eq_none_of_unconstrained rfl]
      simp
    exact ⟨k, member, (Value.text.inj named).symm, met⟩
  simp only [relationsColumns, List.forall_mem_cons, List.not_mem_nil, false_implies, implies_true,
    and_true, id, true_and, isMetBy_typed, canonicalType_text, reduceCtorEq, Option.some.injEq,
    forall_eq', denotedDefault_id]
  constructor
  · intro h
    obtain ⟨baseTable, baseColumn, relatedTable, relatedColumn, name, mappingTable⟩ := h
    constructor
    · exact key
    · simp only [List.forall_mem_cons, List.not_mem_nil, false_implies, implies_true, and_true]
      exact ⟨baseTable, relatedTable, name, mappingTable⟩
    · simp only [List.forall_mem_cons, List.not_mem_nil, false_implies, implies_true, and_true]
      exact ⟨baseColumn, relatedColumn⟩
  · intro h
    obtain ⟨-, texts, keyTexts⟩ := h
    simp only [List.forall_mem_cons, List.not_mem_nil, false_implies, implies_true, and_true]
      at texts keyTexts
    obtain ⟨baseTable, relatedTable, name, mappingTable⟩ := texts
    exact ⟨baseTable, keyTexts.1, relatedTable, keyTexts.2, name, mappingTable⟩

theorem AreForRelations.exists_mem {columns : List Column} (h : AreForRelations columns) :
    ∃ k, k ∈ columns := by
  obtain ⟨k, hk, -⟩ := h.key.mem
  exact ⟨k, hk⟩

theorem AreForMapping.exists_mem {columns : List Column} (h : AreForMapping columns) :
    ∃ k, k ∈ columns := by
  obtain ⟨k, hk, -⟩ := h "base_id" (by simp)
  exact ⟨k, hk⟩

theorem relationsDefinition_eq_ok :
    relationsDefinition.resultIn c d = .ok () ↔ c.ListsColumns ∧
      ∃ columns, c.StoresColumns (.text relationsTable) columns ∧ AreForRelations columns := by
  rw [← Catalog.exists_hasColumns_iff fun _ => AreForRelations.exists_mem]
  simp only [relationsDefinition, resultIn_bind_eq_ok]
  constructor
  · intro h
    obtain ⟨_, -, _, isKey, met⟩ := h
    obtain ⟨-, columns, has, key⟩ := requirePrimaryKey_eq_ok.1 isKey
    obtain ⟨-, columns', has', met⟩ := (requireColumns_eq_ok (by decide) (by decide)).1 met
    rw [has'.unique has] at met
    exact ⟨columns, has, (relationsColumns_met key).1 met⟩
  · intro h
    obtain ⟨columns, has, are⟩ := h
    obtain ⟨k, member, -⟩ := are.key.mem
    have named := Catalog.names_of_mem_columns has member
    have isTable := requireTable_eq_ok (d := d).2 ⟨isUsable_relationsTable, named⟩
    have isKey := requirePrimaryKey_eq_ok (d := d).2
      ⟨isUsable_relationsTable, columns, has, are.key⟩
    have met := (requireColumns_eq_ok (d := d) (by decide) (by decide)).2
      ⟨isUsable_relationsTable, columns, has, (relationsColumns_met are.key).2 are⟩
    exact ⟨(), isTable, (), isKey, met⟩

theorem isDecisive_relationsDefinition : IsDecisive c d relationsDefinition := by
  apply isDecisive_requireTable.bind
  intro _ _
  apply isDecisive_requirePrimaryKey.bind
  intro _ _
  exact isDecisive_requireColumns isUsable_relationsTable (by decide)

theorem relationName_eq_ok {r : Relation} :
    (relationName r).resultIn c d = .ok () ↔ RelationName.IsAccepted r.name := by
  rw [relationName, resultIn_ofViolation_eq_ok, relationNameViolation?, ← RelationName.isValid_iff]
  cases RelationName.isValid r.name <;> simp

theorem mappingColumns_met {columns : List Column} :
    (∀ e ∈ mappingColumns, ∃ k ∈ columns, k.name = e.name ∧ e.isMetBy k = true) ↔
      AreForMapping columns := by
  have met : ∀ (name : String) (k : Column),
      (ColumnExpectation.mk name (some (.text "INTEGER")) (some true) (some .null)
        (some (.position (.number (.int 0))))).isMetBy k = true ↔
      k.HasType "INTEGER" ∧ k.notNull = true ∧ k.default = .null ∧ k.keyPosition = 0 := by
    intro name k
    rw [ColumnExpectation.isMetBy_iff (by simp), ColumnExpectation.keyMismatch_position rfl]
    simp only [Option.some.injEq, Value.text.injEq, forall_eq', canonicalType_integer]
    rw [denotedDefault_eq_none.2 rfl, denotedDefault_eq_none]
  simp only [mappingColumns, List.map_cons, List.map_nil, List.forall_mem_cons, List.not_mem_nil,
    false_implies, implies_true, and_true, met, AreForMapping]

theorem mappingTable_eq_ok {v : Value} :
    (mappingTable v).resultIn c d = .ok () ↔ v.IsUsable ∧ c.ListsColumns ∧
      ∃ columns, c.StoresColumns v columns ∧ AreForMapping columns := by
  rw [← Catalog.exists_hasColumns_iff fun _ => AreForMapping.exists_mem]
  simp only [mappingTable, resultIn_bind_eq_ok]
  constructor
  · intro h
    obtain ⟨_, -, met⟩ := h
    obtain ⟨usable, columns, has, met⟩ := (requireColumns_eq_ok (by decide) (by decide)).1 met
    exact ⟨usable, columns, has, mappingColumns_met.1 met⟩
  · intro h
    obtain ⟨usable, columns, has, are⟩ := h
    obtain ⟨k, member, -⟩ := are "base_id" (by simp)
    have named := Catalog.names_of_mem_columns has member
    have met := (requireColumns_eq_ok (d := d) (by decide) (by decide)).2
      ⟨usable, columns, has, mappingColumns_met.2 are⟩
    exact ⟨(), requireTable_eq_ok.2 ⟨usable, named⟩, met⟩

theorem isDecisive_mappingTable {v : Value} : IsDecisive c d (mappingTable v) :=
  isDecisive_requireTable.bind fun _ found =>
    isDecisive_requireColumns (requireTable_eq_ok.1 found).1 (by decide)

theorem requireInContents_eq_ok {v role : Value} (usable : v.IsUsable) :
    (requireInContents v role).resultIn c d = .ok () ↔ c.ListsContents v := by
  obtain ⟨s, rfl, -⟩ := usable
  simp only [requireInContents, resultIn_bind_eq_ok, ← inContents_eq_true (d := d)]
  constructor
  · intro h
    obtain ⟨found, listed, passed⟩ := h
    rw [resultIn_require_eq_ok.1 passed] at listed
    exact listed
  · intro listed
    exact ⟨true, listed, resultIn_require_eq_ok.2 rfl⟩

theorem isDecisive_requireInContents {v role : Value} : IsDecisive c d (requireInContents v role) :=
  isDecisive_inContents.bind fun _ _ => isDecisive_require _ _

/-- The columns of a table of attributes are listed, for it has a key. -/
theorem HoldsAttributes.hasColumns {v : Value} {columns : List Column}
    (h : HoldsAttributes c v columns) (lists : c.ListsColumns) : c.HasColumns v columns := by
  obtain ⟨k, member, -⟩ := h.key
  exact (Catalog.hasColumns_iff member).2 ⟨lists, h.present⟩

/-- The two checks on a column of identifiers: it refers to a column, and that is the key. -/
def joins (mapping id table column : Value) : Check Unit := do
  requireReferences mapping id table column
  requirePrimaryKey table column

theorem joins_eq_ok {mapping id table column : Value} (apart : c.KeepsApart mapping id) :
    (joins mapping id table column).resultIn c d = .ok () ↔
      (mapping.IsUsable ∧ table.IsUsable ∧ id.IsUsable ∧ column.IsUsable) ∧
        c.HasColumn mapping id ∧ c.References mapping id table column ∧ c.ListsColumns ∧
        ∃ columns, c.StoresColumns table columns ∧ IsSoleKey columns column := by
  have some : ∀ columns, IsSoleKey columns column → ∃ k, k ∈ columns := by
    intro columns key
    obtain ⟨k, hk, -⟩ := key.mem
    exact ⟨k, hk⟩
  rw [← Catalog.exists_hasColumns_iff some]
  simp only [joins, resultIn_bind_eq_ok]
  constructor
  · intro h
    obtain ⟨_, refers, isKey⟩ := h
    obtain ⟨usable, hasId, -, references⟩ := (requireReferences_eq_ok apart).1 refers
    exact ⟨usable, hasId, references, (requirePrimaryKey_eq_ok.1 isKey).2⟩
  · intro h
    obtain ⟨usable, hasId, references, columns, has, key⟩ := h
    obtain ⟨k, member, named⟩ := key.mem
    have hasColumn : c.HasColumn table column := ⟨columns, has, k, member, named⟩
    have refers := (requireReferences_eq_ok (d := d) apart).2 ⟨usable, hasId, hasColumn, references⟩
    have isKey := requirePrimaryKey_eq_ok (d := d).2 ⟨usable.2.1, columns, has, key⟩
    exact ⟨(), refers, isKey⟩

theorem joins_failsAs {P : Failure → Prop} (adverse : ∀ f, f.IsAdverse → P f)
    {mapping id table column : Value} (usableId : id.IsUsable)
    (named : c.HasColumn table column → FailsAs P ((nameOf column).resultIn c d)) :
    FailsAs P ((joins mapping id table column).resultIn c d) :=
  failsAs_bind (requireReferences_failsAs adverse usableId named)
    fun _ _ => isDecisive_requirePrimaryKey.mono adverse

theorem attributesTable_eq_ok {v : Value} :
    (attributesTable v).resultIn c d = .ok () ↔
      v.IsUsable ∧ c.ListsColumns ∧ ∃ columns, HoldsAttributes c v columns := by
  simp only [attributesTable, resultIn_bind_eq_ok, primaryKey_eq_ok]
  constructor
  · intro h
    obtain ⟨_, -, key, ⟨usable, columns, has, rfl⟩, _, keyed, type, typed, isExpected⟩ := h
    have notEmpty := resultIn_require_eq_ok.1 keyed
    rw [Bool.not_eq_true', List.isEmpty_eq_false_iff] at notEmpty
    obtain ⟨s, rfl, -⟩ := id usable
    rw [Value.same_text_iff.1 (resultIn_require_eq_ok.1 isExpected)] at typed
    obtain ⟨k, member, inKey⟩ := keyOf_ne_nil.1 notEmpty
    obtain ⟨lists, stores⟩ := (Catalog.hasColumns_iff member).1 has
    exact ⟨usable, lists, columns, stores, ⟨k, member, inKey⟩, contentsType_eq_text.1 typed⟩
  · intro h
    obtain ⟨usable, lists, columns, stores, key, listed⟩ := h
    obtain ⟨k, member, -⟩ := id key
    have has := (Catalog.hasColumns_iff member).2 ⟨lists, stores⟩
    obtain ⟨s, rfl, -⟩ := id usable
    have named := Catalog.names_of_mem_columns has member
    have notEmpty := keyOf_ne_nil.2 key
    rw [← List.isEmpty_eq_false_iff, ← Bool.not_eq_true'] at notEmpty
    exact ⟨(), requireTable_eq_ok.2 ⟨usable, named⟩, _, ⟨usable, columns, has, rfl⟩, (),
      resultIn_require_eq_ok.2 notEmpty, _, contentsType_eq_text.2 listed,
      resultIn_require_eq_ok.2 (Value.same_text_iff.2 rfl)⟩

theorem isDecisive_attributesTable {v : Value} : IsDecisive c d (attributesTable v) := by
  apply isDecisive_requireTable.bind
  intro _ found
  apply (isDecisive_primaryKey (requireTable_eq_ok.1 found).1).bind
  intro _ _
  apply (isDecisive_require _ _).bind
  intro _ _
  exact isDecisive_contentsType.bind fun _ _ => isDecisive_require _ _

theorem mediaColumns_met {columns : List Column} :
    (∀ e ∈ mediaColumns, ∃ k ∈ columns, k.name = e.name ∧ e.isMetBy k = true) ↔
      (∃ k ∈ columns, k.name = "data" ∧ k.HasType "BLOB" ∧ k.notNull = true) ∧
        ∃ k ∈ columns, k.name = "content_type" ∧ k.HasType "TEXT" ∧ k.notNull = true := by
  simp only [mediaColumns, List.map_cons, List.map_nil, List.forall_mem_cons, List.not_mem_nil,
    false_implies, implies_true, and_true, isMetBy_typed, canonicalType_text, canonicalType_blob,
    reduceCtorEq]

theorem mediaTable_eq_ok {v : Value} :
    (mediaTable v).resultIn c d = .ok () ↔ v.IsUsable ∧ c.ListsColumns ∧ HoldsMedia c v := by
  simp only [mediaTable, resultIn_bind_eq_ok]
  constructor
  · intro h
    obtain ⟨_, isTable, met⟩ := h
    obtain ⟨usable, lists, columns, attributes⟩ := attributesTable_eq_ok.1 isTable
    obtain ⟨-, columns', has', met⟩ := (requireColumns_eq_ok (by decide) (by decide)).1 met
    rw [has'.unique (attributes.hasColumns lists)] at met
    exact ⟨usable, lists, columns, attributes, mediaColumns_met.1 met⟩
  · intro h
    obtain ⟨usable, lists, columns, attributes, are⟩ := h
    have isTable := attributesTable_eq_ok (d := d).2 ⟨usable, lists, columns, attributes⟩
    have met := (requireColumns_eq_ok (d := d) (by decide) (by decide)).2
      ⟨usable, columns, attributes.hasColumns lists, mediaColumns_met.2 are⟩
    exact ⟨(), isTable, met⟩

theorem isDecisive_mediaTable {v : Value} : IsDecisive c d (mediaTable v) :=
  isDecisive_attributesTable.bind fun _ found =>
    isDecisive_requireColumns (attributesTable_eq_ok.1 found).1 (by decide)

theorem simpleColumn_eq_ok {v : Value} {k : Column} :
    (simpleColumn v k).resultIn c d = .ok () ↔
      (k.keyPosition = 0 → ¬ k.HasType "BLOB" ∧ ¬ k.HasType "NULL" ∧ ¬ k.HasType "") := by
  unfold simpleColumn
  rw [resultIn_require_eq_ok]
  simp only [Bool.or_eq_true, bne_iff_ne, ne_eq, Bool.not_eq_true', ← Bool.not_eq_true,
    List.contains_iff_mem, disallowedTypes, List.mem_cons, List.not_mem_nil, or_false, not_or,
    Column.HasType]
  by_cases inKey : k.keyPosition = 0 <;> simp [inKey]

theorem simpleAttributesTable_eq_ok {v : Value} :
    (simpleAttributesTable v).resultIn c d = .ok () ↔
      v.IsUsable ∧ c.ListsColumns ∧ HoldsSimpleAttributes c v := by
  simp only [simpleAttributesTable, resultIn_bind_eq_ok, columns_eq_ok, resultIn_forEach_eq_ok,
    simpleColumn_eq_ok]
  constructor
  · intro h
    obtain ⟨_, isTable, columns', ⟨-, has'⟩, simple⟩ := h
    obtain ⟨usable, lists, columns, attributes⟩ := attributesTable_eq_ok.1 isTable
    rw [has'.unique (attributes.hasColumns lists)] at simple
    exact ⟨usable, lists, columns, attributes, simple⟩
  · intro h
    obtain ⟨usable, lists, columns, attributes, simple⟩ := h
    exact ⟨(), attributesTable_eq_ok.2 ⟨usable, lists, columns, attributes⟩, columns,
      ⟨usable, attributes.hasColumns lists⟩, simple⟩

theorem isDecisive_simpleAttributesTable {v : Value} :
    IsDecisive c d (simpleAttributesTable v) :=
  isDecisive_attributesTable.bind fun _ found =>
    (isDecisive_columns (attributesTable_eq_ok.1 found).1).bind fun _ _ =>
      failsAs_forEach fun _ _ => isDecisive_require _ _

end RelatedTables
end GeoConformance
