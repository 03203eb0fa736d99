import GeoConformance.Proofs.Undisturbed
import GeoConformance.Reference

/-!
# Tables, columns and keys

What it means that a stored value names a table, that a table has a column under exactly some name,
and that a column is the whole of its primary key; and that the elementary checks ask just that.
-/

namespace GeoConformance

open Text

namespace Value

/-- A value that can name a schema object: a text that is not empty and holds no NUL. -/
def IsUsable (v : Value) : Prop := ∃ name, v = .text name ∧ name ≠ "" ∧ '\x00' ∉ name.toList

theorem isUsable_text {name : String} :
    (Value.text name).IsUsable ↔ name ≠ "" ∧ '\x00' ∉ name.toList := by
  simp [IsUsable]

theorem isNull_iff {v : Value} : v.isNull = true ↔ v = .null := by
  cases v <;> simp [isNull]

theorem isIn_texts {v : Value} {names : List String} :
    v.isIn (names.map Value.text) = true ↔ ∃ name ∈ names, v = .text name := by
  simp [isIn, same_text_iff]

end Value

theorem Identifier.ofValue_eq_ok {v : Value} {name : String} :
    ofValue v = .ok name ↔ v = .text name ∧ v.IsUsable := by
  cases v with
  | text s =>
    rw [Value.isUsable_text]
    by_cases empty : s = ""
    · simp [ofValue, empty]
    · by_cases nul : '\x00' ∈ s.toList
      · simp [ofValue, empty, nul]
      · simp [ofValue, empty, nul]
  | null => simp [ofValue]
  | number n => simp [ofValue]
  | blob bytes => simp [ofValue]

theorem Identifier.ofValue_eq_error {v : Value} {m : Misuse} (h : ofValue v = .error m) :
    ¬ v.IsUsable := by
  intro given
  obtain ⟨name, rfl, usable⟩ := given
  have ok := ofValue_eq_ok.2 ⟨rfl, Value.isUsable_text.2 usable⟩
  rw [h] at ok
  cases ok

/-- The value is the name of the one column of the primary key. -/
def IsSoleKey (columns : List Column) (v : Value) : Prop :=
  ∃ c, columns.filter (·.keyPosition != 0) = [c] ∧ v = .text c.name

theorem IsSoleKey.mem {columns : List Column} {v : Value} (h : IsSoleKey columns v) :
    ∃ k ∈ columns, v = .text k.name := by
  obtain ⟨k, only, named⟩ := h
  exact ⟨k, (List.mem_filter.1 (only ▸ List.mem_singleton_self k)).1, named⟩

namespace Catalog

variable {c : Catalog} {v : Value}

/-- A value names a table or view, ignoring the case of ASCII letters. -/
def Names (c : Catalog) (v : Value) : Prop :=
  ∃ name, v = .text name ∧
    ∃ o ∈ c, (o.kind = "table" ∨ o.kind = "view") ∧ sameName o.name name = true

/-- The columns that are listed for the table that a value names. -/
def HasColumns (c : Catalog) (v : Value) (columns : List Column) : Prop :=
  ∃ name, v = .text name ∧ c.columnsOf name = .ok columns

/-- The columns of the table that a value names, but for those that are generated, whether or not
they can be listed. -/
def StoresColumns (c : Catalog) (v : Value) (columns : List Column) : Prop :=
  ∃ name e, v = .text name ∧ c.fullExtent name = .ok e ∧ columns = e.listed

/-- A table has a column under exactly this name. -/
def HasColumn (c : Catalog) (table column : Value) : Prop :=
  ∃ columns, c.HasColumns table columns ∧ ∃ k ∈ columns, column = .text k.name

/-- A column, found by its name up to the case of ASCII letters, holds these values. -/
def Holds (c : Catalog) (table column : Value) (values : List Value) : Prop :=
  ∃ name label e i, table = .text name ∧ column = .text label ∧ c.extent name = .ok e ∧
    e.position? label = some i ∧ values = e.rows.map fun row => row.getD i .null

theorem HasColumns.unique {columns columns' : List Column} (h : c.HasColumns v columns)
    (h' : c.HasColumns v columns') : columns = columns' := by
  obtain ⟨name, rfl, eq⟩ := h
  obtain ⟨name', same, eq'⟩ := h'
  cases same
  rw [eq] at eq'
  cases eq'
  rfl

/-- Nothing takes the place of the function that lists the columns of tables. -/
def ListsColumns (c : Catalog) : Prop := c.listerError? = none

theorem extent_of_fullExtent {name : String} {e : FullExtent} (h : c.fullExtent name = .ok e) :
    c.extent name = .ok e.extent := by
  rw [extent, h]
  rfl

theorem readable_of_fullExtent {name : String} {e : FullExtent} (h : c.fullExtent name = .ok e) :
    (c.readable? name).isSome = true := by
  unfold fullExtent follow at h
  split at h
  · simp_all
  · simp_all
  · simp_all
  · cases h

theorem readable_of_extent {name : String} {e : Extent} (h : c.extent name = .ok e) :
    (c.readable? name).isSome = true := by
  cases behind : c.fullExtent name with
  | ok full => exact readable_of_fullExtent behind
  | error f =>
    rw [extent, behind] at h
    cases h

theorem columnsOf_of_fullExtent {name : String} {e : FullExtent} (lists : c.ListsColumns)
    (h : c.fullExtent name = .ok e) : c.columnsOf name = .ok e.listed := by
  unfold columnsOf
  rw [lists]
  simp only [if_pos (readable_of_fullExtent h), h]
  rfl

theorem HasColumns.listsColumns {columns : List Column} (h : c.HasColumns v columns) :
    c.ListsColumns := by
  obtain ⟨name, rfl, listed⟩ := h
  unfold columnsOf at listed
  unfold ListsColumns
  cases hindered : c.listerError? with
  | none => rfl
  | some e =>
    rw [hindered] at listed
    cases listed

theorem fullExtent_of_mem_columns {name : String} {columns : List Column} {k : Column}
    (h : c.columnsOf name = .ok columns) (hk : k ∈ columns) :
    ∃ e, c.fullExtent name = .ok e ∧ e.listed = columns := by
  unfold columnsOf at h
  split at h
  · cases h
  · split at h
    · cases behind : c.fullExtent name with
      | ok e =>
        rw [behind] at h
        cases h
        exact ⟨e, rfl, rfl⟩
      | error e =>
        rw [behind] at h
        cases h
    · cases h
      cases hk

theorem hasColumns_iff {columns : List Column} {k : Column} (hk : k ∈ columns) :
    c.HasColumns v columns ↔ c.ListsColumns ∧ c.StoresColumns v columns := by
  constructor
  · intro h
    have lists := h.listsColumns
    obtain ⟨name, rfl, listed⟩ := h
    obtain ⟨e, behind, rfl⟩ := fullExtent_of_mem_columns listed hk
    exact ⟨lists, name, e, rfl, behind, rfl⟩
  · intro h
    obtain ⟨lists, name, e, rfl, behind, rfl⟩ := h
    exact ⟨name, rfl, columnsOf_of_fullExtent lists behind⟩

/-- What holds only of a table with some column can be told from the columns that it stores. -/
theorem exists_hasColumns_iff {P : List Column → Prop} (some : ∀ ks, P ks → ∃ k, k ∈ ks) :
    (∃ columns, c.HasColumns v columns ∧ P columns) ↔
      c.ListsColumns ∧ ∃ columns, c.StoresColumns v columns ∧ P columns := by
  rw [← exists_and_left]
  apply exists_congr
  intro columns
  rw [← and_assoc]
  apply and_congr_left
  intro holds
  obtain ⟨k, hk⟩ := some columns holds
  exact hasColumns_iff hk

theorem names_of_readable {name : String} (h : (c.readable? name).isSome = true) :
    c.Names (.text name) := by
  obtain ⟨o, found⟩ := Option.isSome_iff_exists.1 h
  have member := List.mem_of_find?_eq_some found
  have fits := List.find?_some found
  simp only [Bool.and_eq_true] at fits
  refine ⟨name, rfl, o, member, ?_, fits.2⟩
  cases o with
  | table n e ks => exact .inl rfl
  | view n s => exact .inr rfl
  | computed n isView s e ks => cases isView <;> simp [SchemaObject.kind]
  | entry n k s => simp [SchemaObject.isReadable] at fits

theorem names_of_extent {name : String} {e : Extent} (h : c.extent name = .ok e) :
    c.Names (.text name) :=
  names_of_readable (readable_of_extent h)

theorem names_of_mem_columns {columns : List Column} {k : Column} (h : c.HasColumns v columns)
    (hk : k ∈ columns) : c.Names v := by
  obtain ⟨name, rfl, eq⟩ := h
  obtain ⟨e, behind, -⟩ := fullExtent_of_mem_columns eq hk
  exact names_of_extent (extent_of_fullExtent behind)

theorem namedTables_pos {name : String} :
    0 < (c.namedTables name).length ↔ c.Names (.text name) := by
  simp only [namedTables, List.length_pos_iff_exists_mem, List.mem_filter, Bool.and_eq_true,
    Bool.or_eq_true, beq_iff_eq, Names, Value.text.injEq, exists_eq_left']

end Catalog

namespace Check

variable {c : Catalog} {d : Deadline} {v table column : Value}

theorem tableExists_eq_ok {b : Bool} :
    (tableExists v).resultIn c d = .ok b ↔ (b = true ↔ v.IsUsable ∧ c.Names v) := by
  unfold tableExists
  cases identified : Identifier.ofValue v with
  | error m =>
    have unusable := Identifier.ofValue_eq_error identified
    cases b <;> simp [unusable]
  | ok name =>
    obtain ⟨rfl, usable⟩ := Identifier.ofValue_eq_ok.1 identified
    have counted : (reply (.tableCount name)).resultIn c d = .ok (c.namedTables name).length :=
      resultIn_reply_eq_ok.2 rfl
    rw [resultIn_bind, counted, ← Catalog.namedTables_pos]
    change Except.ok (decide (0 < (c.namedTables name).length)) = .ok b ↔ _
    cases b <;> simp [usable]

theorem tableExists_failsAs :
    FailsAs Failure.IsQueryFailure ((tableExists v).resultIn c d) := by
  unfold tableExists
  cases Identifier.ofValue v with
  | error m => exact failsAs_ok false
  | ok name => exact failsAs_bind (reply_failsAs _) fun _ _ => failsAs_ok _

theorem isDecisive_tableExists : IsDecisive c d (tableExists v) :=
  tableExists_failsAs.mono fun _ => Failure.IsQueryFailure.isAdverse

theorem requireTable_eq_ok :
    (requireTable v).resultIn c d = .ok () ↔ v.IsUsable ∧ c.Names v := by
  simp only [requireTable, resultIn_bind_eq_ok, tableExists_eq_ok, resultIn_require_eq_ok]
  constructor
  · intro h
    obtain ⟨b, exists_iff, rfl⟩ := h
    exact exists_iff.1 rfl
  · intro h
    exact ⟨true, by simp [h], rfl⟩

theorem isDecisive_requireTable : IsDecisive c d (requireTable v) :=
  isDecisive_tableExists.bind fun _ _ => isDecisive_require _ _

theorem nameOf_eq_ok {name : String} :
    (nameOf v).resultIn c d = .ok name ↔ v = .text name ∧ v.IsUsable := by
  rw [nameOf, resultIn_ofExcept_eq_ok, Identifier.ofValue_eq_ok]

theorem isDecisive_nameOf (usable : v.IsUsable) : IsDecisive c d (nameOf v) := by
  obtain ⟨name, rfl, h⟩ := usable
  exact isDecisive_ofExcept (Identifier.ofValue_eq_ok.2 ⟨rfl, Value.isUsable_text.2 h⟩)

theorem columns_eq_ok {cols : List Column} :
    (columns v).resultIn c d = .ok cols ↔ v.IsUsable ∧ c.HasColumns v cols := by
  simp only [columns, resultIn_bind_eq_ok, nameOf_eq_ok, Catalog.HasColumns]
  constructor
  · intro h
    obtain ⟨name, ⟨eq, usable⟩, found⟩ := h
    exact ⟨usable, name, eq, resultIn_reply_eq_ok.1 found⟩
  · intro h
    obtain ⟨usable, name, eq, found⟩ := h
    exact ⟨name, ⟨eq, usable⟩, resultIn_reply_eq_ok.2 found⟩

theorem isDecisive_columns (usable : v.IsUsable) : IsDecisive c d (columns v) :=
  (isDecisive_nameOf usable).bind fun _ _ => isDecisive_reply _

theorem requireColumn_eq_ok :
    (requireColumn table column).resultIn c d = .ok () ↔
      table.IsUsable ∧ c.HasColumn table column := by
  simp only [requireColumn, resultIn_bind_eq_ok, columns_eq_ok, resultIn_require_eq_ok,
    Value.isIn, List.any_map, List.any_eq_true, Function.comp_apply, Value.same_text_iff,
    Catalog.HasColumn]
  constructor
  · intro h
    obtain ⟨cols, ⟨usable, has⟩, k, hk, same⟩ := h
    exact ⟨usable, cols, has, k, hk, same⟩
  · intro h
    obtain ⟨usable, cols, has, k, hk, same⟩ := h
    exact ⟨cols, ⟨usable, has⟩, k, hk, same⟩

theorem isDecisive_requireColumn (usable : table.IsUsable) :
    IsDecisive c d (requireColumn table column) :=
  (isDecisive_columns usable).bind fun _ _ => isDecisive_require _ _

theorem primaryKey_eq_ok {key : List String} :
    (primaryKey table).resultIn c d = .ok key ↔
      table.IsUsable ∧ ∃ cols, c.HasColumns table cols ∧ key = keyOf cols := by
  simp only [primaryKey, resultIn_bind_eq_ok, columns_eq_ok, resultIn_pure, Except.ok.injEq]
  constructor
  · intro h
    obtain ⟨cols, ⟨usable, has⟩, rfl⟩ := h
    exact ⟨usable, cols, has, rfl⟩
  · intro h
    obtain ⟨usable, cols, has, rfl⟩ := h
    exact ⟨cols, ⟨usable, has⟩, rfl⟩

theorem isDecisive_primaryKey (usable : table.IsUsable) : IsDecisive c d (primaryKey table) :=
  (isDecisive_columns usable).bind fun _ _ => isDecisive_pure _

/-- The order inside a key does not matter for a key of one column. -/
theorem keyOf_eq_singleton {cols : List Column} {name : String} :
    keyOf cols = [name] ↔ IsSoleKey cols (.text name) := by
  simp only [keyOf, IsSoleKey, Value.text.injEq]
  constructor
  · intro h
    obtain ⟨k, sorted, named⟩ := List.map_eq_singleton_iff.1 h
    have perm := List.mergeSort_perm (cols.filter (·.keyPosition != 0))
      fun a b => decide (a.keyPosition ≤ b.keyPosition)
    rw [sorted] at perm
    exact ⟨k, (List.singleton_perm.1 perm).symm, named.symm⟩
  · intro h
    obtain ⟨k, sole, rfl⟩ := h
    rw [sole]
    simp

theorem keyOf_ne_nil {cols : List Column} :
    keyOf cols ≠ [] ↔ ∃ k ∈ cols, k.keyPosition ≠ 0 := by
  have perm := List.mergeSort_perm (cols.filter (·.keyPosition != 0))
    fun a b => decide (a.keyPosition ≤ b.keyPosition)
  have length := perm.length_eq
  simp only [keyOf, ne_eq, List.map_eq_nil_iff]
  rw [← List.length_eq_zero_iff, length, List.length_eq_zero_iff]
  simp

theorem requirePrimaryKey_eq_ok :
    (requirePrimaryKey table column).resultIn c d = .ok () ↔
      table.IsUsable ∧ ∃ cols, c.HasColumns table cols ∧ IsSoleKey cols column := by
  simp only [requirePrimaryKey, resultIn_bind_eq_ok, primaryKey_eq_ok, resultIn_require_eq_ok]
  constructor
  · intro h
    obtain ⟨-, -, key, ⟨usable, cols, has, rfl⟩, isKey⟩ := h
    refine ⟨usable, cols, has, ?_⟩
    split at isKey
    · rename_i name sole
      rw [Value.same_text_iff] at isKey
      rw [isKey]
      exact keyOf_eq_singleton.1 sole
    · cases isKey
  · intro h
    obtain ⟨usable, cols, has, sole⟩ := h
    obtain ⟨k, member, rfl⟩ := sole.mem
    have named := Catalog.names_of_mem_columns has member
    refine ⟨(), requireTable_eq_ok.2 ⟨usable, named⟩, _, ⟨usable, cols, has, rfl⟩, ?_⟩
    rw [keyOf_eq_singleton.2 sole]
    exact Value.same_text_iff.2 rfl

theorem isDecisive_requirePrimaryKey : IsDecisive c d (requirePrimaryKey table column) := by
  apply isDecisive_requireTable.bind
  intro _ found
  have usable := (requireTable_eq_ok.1 found).1
  exact (isDecisive_primaryKey usable).bind fun _ _ => isDecisive_require _ _

end Check
end GeoConformance
