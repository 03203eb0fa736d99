import GeoConformance.Proofs.Bookkeeping
import GeoConformance.Proofs.Columns
import GeoConformance.Proofs.References
import GeoConformance.RelatedTables

/-!
# What is required of related tables

The requirements on the declarations, on the relations table and on the tables that a relation
names, as statements about the stored rows and the schema. Each check of the suite passes just where
its requirement holds and its tables and key columns have usable names.
-/

namespace GeoConformance

namespace RelationName

/-- `x-`, an author, a hyphen or an underscore, and a title; author and title are letters and
digits. -/
def IsExtended (name : List Char) : Prop :=
  ∃ author separator title, name = 'x' :: '-' :: (author ++ separator :: title) ∧
    isSegment author = true ∧ (separator = '-' ∨ separator = '_') ∧ isSegment title = true

def IsAccepted (v : Value) : Prop :=
  ∃ name, v = .text name ∧
    (name ∈ ["features", "simple_attributes", "media"] ∨ IsExtended name.toList)

theorem separator_not_alphanumeric {c : Char} (h : c = '-' ∨ c = '_') :
    Text.isAlphanumeric c = false := by
  rcases h with rfl | rfl <;> decide

/-- A separator cannot belong to the author, so the longest author is the only one. -/
theorem isExtended_iff {name : List Char} : isExtended name = true ↔ IsExtended name := by
  constructor
  · intro h
    unfold isExtended at h
    split at h
    · rename_i rest
      split at h
      · rename_i separator title ends
        simp only [Bool.and_eq_true, Bool.or_eq_true, beq_iff_eq] at h
        refine ⟨rest.takeWhile Text.isAlphanumeric, separator, title, ?_, ?_, h.1.2, h.2⟩
        · rw [← ends, List.takeWhile_append_dropWhile]
        · simp only [isSegment, Bool.and_eq_true]
          exact ⟨h.1.1, List.all_takeWhile⟩
      · cases h
    · cases h
  · intro h
    obtain ⟨author, separator, title, rfl, isAuthor, isSeparator, isTitle⟩ := h
    have letters := isAuthor
    simp only [isSegment, Bool.and_eq_true, List.all_eq_true] at letters
    have stops := separator_not_alphanumeric isSeparator
    have takes : (author ++ separator :: title).takeWhile Text.isAlphanumeric = author := by
      rw [List.takeWhile_append_of_pos letters.2]
      simp [stops]
    have drops : (author ++ separator :: title).dropWhile Text.isAlphanumeric =
        separator :: title := by
      rw [List.dropWhile_append_of_pos letters.2]
      simp [stops]
    simp only [isExtended, takes, drops, isTitle, letters.1, Bool.and_true, Bool.true_and,
      Bool.or_eq_true, beq_iff_eq]
    exact isSeparator

theorem isValid_iff {v : Value} : isValid v = true ↔ IsAccepted v := by
  cases v <;> simp [isValid, IsAccepted, known, isExtended_iff]

end RelationName

namespace RelatedTables

/-- What the declarations of the relations table and of the mapping tables have in common. -/
structure HasAcceptedFlags (d : Declaration) : Prop where
  column : d.column = .null
  definition : d.definition = .text "TBD" ∨
    d.definition = .text "http://docs.opengeospatial.org/is/18-000/18-000.html"
  scope : d.scope = .text "read-write"

def IsForRelatedTables (d : Declaration) : Prop :=
  d.extensionName = .text "related_tables" ∨ d.extensionName = .text "gpkg_related_tables"

def IsForMapping (d : Declaration) : Prop :=
  IsForRelatedTables d ∧ d.table ≠ .null ∧ d.table ≠ .text relationsTable

/-- The first declaration of the relations table is as required. -/
def DeclaresRelations (ds : List Declaration) : Prop :=
  ∃ d, ds.find? (fun d => d.table = .text relationsTable) = some d ∧ IsForRelatedTables d ∧
    HasAcceptedFlags d

/-- Some mapping table is declared, and every one that is exists and is declared as required. -/
def DeclaresMappings (c : Catalog) (ds : List Declaration) : Prop :=
  (∃ d ∈ ds, IsForMapping d) ∧ ∀ d ∈ ds, IsForMapping d → c.Names d.table ∧ HasAcceptedFlags d

/-- The columns of a relations table: a key and six texts, of which two refer to key columns. -/
structure AreForRelations (columns : List Column) : Prop where
  key : IsSoleKey columns (.text "id")
  texts : ∀ name ∈ ["base_table_name", "related_table_name", "relation_name",
    "mapping_table_name"],
    ∃ k ∈ columns, k.name = name ∧ k.HasType "TEXT" ∧ k.notNull = true
  keyTexts : ∀ name ∈ ["base_primary_column", "related_primary_column"],
    ∃ k ∈ columns, k.name = name ∧ k.HasType "TEXT" ∧ k.notNull = true ∧
      denotedDefault k.default = some "id"

/-- The two columns of identifiers that a mapping table joins. -/
def AreForMapping (columns : List Column) : Prop :=
  ∀ name ∈ ["base_id", "related_id"],
    ∃ k ∈ columns, k.name = name ∧ k.HasType "INTEGER" ∧ k.notNull = true ∧ k.default = .null ∧
      k.keyPosition = 0

/-- A table with a primary key that the contents table lists as one of attributes. -/
structure HoldsAttributes (c : Catalog) (table : Value) (columns : List Column) : Prop where
  present : c.StoresColumns table columns
  key : ∃ k ∈ columns, k.keyPosition ≠ 0
  listed : c.HasContentsType table (.text "attributes")

def HoldsMedia (c : Catalog) (table : Value) : Prop :=
  ∃ columns, HoldsAttributes c table columns ∧
    (∃ k ∈ columns, k.name = "data" ∧ k.HasType "BLOB" ∧ k.notNull = true) ∧
    ∃ k ∈ columns, k.name = "content_type" ∧ k.HasType "TEXT" ∧ k.notNull = true

def HoldsSimpleAttributes (c : Catalog) (table : Value) : Prop :=
  ∃ columns, HoldsAttributes c table columns ∧
    ∀ k ∈ columns, k.keyPosition = 0 → ¬ k.HasType "BLOB" ∧ ¬ k.HasType "NULL" ∧ ¬ k.HasType ""

/-- What is required of one relation. -/
structure IsConformant (c : Catalog) (r : Relation) : Prop where
  baseTable : c.Names r.baseTable ∧ c.ListsContents r.baseTable
  relatedTable : c.Names r.relatedTable ∧ c.ListsContents r.relatedTable
  name : RelationName.IsAccepted r.name
  mapping : ∃ columns, c.StoresColumns r.mappingTable columns ∧ AreForMapping columns
  baseKey : ∃ columns, c.StoresColumns r.baseTable columns ∧ IsSoleKey columns r.baseColumn
  relatedKey : ∃ columns, c.StoresColumns r.relatedTable columns ∧ IsSoleKey columns r.relatedColumn
  baseReferences : c.References r.mappingTable (.text "base_id") r.baseTable r.baseColumn
  relatedReferences :
    c.References r.mappingTable (.text "related_id") r.relatedTable r.relatedColumn
  media : r.name = .text "media" → HoldsMedia c r.relatedTable
  simpleAttributes : r.name = .text "simple_attributes" → HoldsSimpleAttributes c r.relatedTable

/-- The tables and key columns that a relation names can be looked up. -/
structure IsUsable (r : Relation) : Prop where
  baseTable : r.baseTable.IsUsable
  baseColumn : r.baseColumn.IsUsable
  relatedTable : r.relatedTable.IsUsable
  relatedColumn : r.relatedColumn.IsUsable
  mappingTable : r.mappingTable.IsUsable

/-- The identifiers that a mapping table joins are different for its collations if they are not
equal. -/
def KeepsIdsApart (c : Catalog) : Prop :=
  ∀ rs, c.Relates rs → ∀ r ∈ rs, ∀ id ∈ ["base_id", "related_id"],
    c.KeepsApart r.mappingTable (.text id)

variable {c : Catalog} {d : Deadline}

theorem flagged_eq_nil {a b c d : Bool} {w x y z : String} :
    ([(a, w), (b, x), (c, y), (d, z)].filterMap fun (isFlawed, name) =>
      if isFlawed then some name else none) = [] ↔
      a = false ∧ b = false ∧ c = false ∧ d = false := by
  cases a <;> cases b <;> cases c <;> cases d <;> simp

theorem isNamed_iff {e : Declaration} :
    e.isNamed relatedTablesExtensions = true ↔ IsForRelatedTables e := by
  rw [Declaration.isNamed, Value.isIn_texts]
  simp [relatedTablesExtensions, IsForRelatedTables]

theorem flaws_eq_nil {e : Declaration} {checkName : Bool} :
    flaws e checkName = [] ↔
      HasAcceptedFlags e ∧ (checkName = true → IsForRelatedTables e) := by
  have definition : e.definition.isIn (acceptedDefinitions.map Value.text) = true ↔
      e.definition = .text "TBD" ∨
        e.definition = .text "http://docs.opengeospatial.org/is/18-000/18-000.html" := by
    rw [Value.isIn_texts]
    simp [acceptedDefinitions]
  have scope : e.scope.isIn ([requiredScope].map Value.text) = true ↔
      e.scope = .text "read-write" := by
    rw [Value.isIn_texts]
    simp [requiredScope]
  simp only [flaws, flagged_eq_nil, Bool.not_eq_false', Bool.and_eq_false_imp, Value.isNull_iff,
    isNamed_iff, definition, scope]
  constructor
  · intro h
    obtain ⟨column, named, isDefinition, isScope⟩ := h
    exact ⟨⟨column, isDefinition, isScope⟩, named⟩
  · intro h
    obtain ⟨⟨column, isDefinition, isScope⟩, named⟩ := h
    exact ⟨column, named, isDefinition, isScope⟩

end RelatedTables
end GeoConformance
