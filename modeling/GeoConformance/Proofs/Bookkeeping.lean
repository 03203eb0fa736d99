import GeoConformance.Proofs.Schema
import GeoConformance.Declared

/-!
# What the bookkeeping tables say

The rows of the four bookkeeping tables as statements of the package about itself, and the look-ups
that read them. An absent table states nothing; the columns that a look-up selects have to exist. A
look-up by a value finds the rows that the column takes for equal to it, which for a text are all
that hold this text and, where the type or the collation of the column says so, some others.
-/

namespace GeoConformance

theorem Real64.ofRat_ne_nan (negative : Bool) (q : Rat) : ofRat negative q ≠ .nan := by
  unfold ofRat
  split
  · exact Real64.noConfusion
  · simp only
    split <;> exact Real64.noConfusion

namespace Numeral

theorem scaled_ne_nan (negative : Bool) (n : Nat) (e : Int) : scaled negative n e ≠ .nan := by
  unfold scaled
  simp only
  split
  · exact Real64.noConfusion
  · split
    · exact Real64.noConfusion
    · exact Real64.ofRat_ne_nan _ _

theorem readMagnitude?_ne_nan {negative : Bool} {digits : List Char} {x : Real64}
    (h : readMagnitude? negative digits = some x) : x ≠ .nan := by
  simp only [readMagnitude?, Option.bind_eq_bind, Option.bind_eq_some_iff] at h
  obtain ⟨e, -, n, -, eq⟩ := h
  cases eq
  exact scaled_ne_nan _ _ _

end Numeral

/-- No numeral denotes a number that is none. -/
theorem Affinity.value_ne_undefined {s : String} {n : Number} (h : number? s = some n) :
    n.value ≠ .undefined := by
  unfold number? at h
  simp only at h
  split at h
  · cases h
    simp [Number.value]
  · obtain ⟨x, magnitude, rfl⟩ := Option.map_eq_some_iff.1 h
    have isNumber := Numeral.readMagnitude?_ne_nan magnitude
    cases x with
    | nan => exact absurd rfl isNumber
    | infinity negative => cases negative <;> simp [Number.value]
    | finite negative q => simp [Number.value]

/-- A column takes a text that it holds for equal to the text itself. -/
theorem Column.takes_self (c : Column) (k : Collation) (s : String) :
    c.takes k (.text s) (.text s) = true := by
  rw [takes, Bool.and_eq_true]
  refine ⟨rfl, Value.sameUnder_of_same k ?_⟩
  cases c.affinity with
  | text => simp [Affinity.apply, Value.same]
  | blob => simp [Affinity.apply, Value.same]
  | numeric =>
    simp only [Affinity.apply]
    cases read : Affinity.number? s with
    | none => simp [Value.same]
    | some n => exact Extended.same_iff.2 ⟨rfl, Affinity.value_ne_undefined read⟩

/-- Where texts are not read as numbers and compared exactly, no other text is equal. -/
theorem Column.takes_text_iff {c : Column} (plain : c.affinity ≠ .numeric) {s t : String} :
    c.takes .binary (.text s) (.text t) = true ↔ s = t := by
  unfold takes
  cases affinity : c.affinity with
  | numeric => exact absurd affinity plain
  | text => simp [Affinity.apply, Value.same, Value.isNull]
  | blob => simp [Affinity.apply, Value.same, Value.isNull]

namespace Extent

/-- What a row holds in the column of a name, found up to the case of ASCII letters. -/
def cell (e : Extent) (row : Row) (name : String) : Value :=
  (e.position? name).elim .null fun i => row.getD i .null

theorem exists_of_position? {e : Extent} {name : String} {i : Nat} (h : e.position? name = some i) :
    ∃ k, e.columns[i]? = some k := by
  obtain ⟨lt, -⟩ := List.findIdx?_eq_some_iff_getElem.1 h
  exact ⟨_, List.getElem?_eq_getElem lt⟩

def relation (e : Extent) (row : Row) : Relation where
  id := e.cell row "id"
  baseTable := e.cell row "base_table_name"
  baseColumn := e.cell row "base_primary_column"
  relatedTable := e.cell row "related_table_name"
  relatedColumn := e.cell row "related_primary_column"
  name := e.cell row "relation_name"
  mappingTable := e.cell row "mapping_table_name"

end Extent

namespace Catalog

/-- A table has all of these columns, and these are its rows cut down to them. -/
def Shows (c : Catalog) (table : String) (names : List String) (rows : List Row) : Prop :=
  ∃ e, c.select table names = .ok e ∧ e.rows = rows

def Declares (c : Catalog) (ds : List Declaration) : Prop :=
  ∃ rows, c.Shows extensionsTable Declaration.columnNames rows ∧ ds = rows.map Declaration.ofRow

/-- Some row of the extensions table is for an extension of one of these names. -/
def DeclaresExtension (c : Catalog) (names : List String) : Prop :=
  ∃ rows, c.Shows extensionsTable ["extension_name"] rows ∧
    ∃ row ∈ rows, ∃ name ∈ names, row.getD 0 .null = .text name

def Relates (c : Catalog) (rs : List Relation) : Prop :=
  ∃ e, c.extent relationsTable = .ok e ∧ rs = e.rows.map e.relation

/-- Some row of the extensions table counts as one for an extension of one of these names. -/
def CountsExtension (c : Catalog) (names : List String) : Prop :=
  ∃ e, c.select extensionsTable ["extension_name"] = .ok e ∧ ∃ row ∈ e.rows, ∃ name ∈ names,
    e.takesAt (c.collationOf extensionsTable "extension_name") 0 row (.text name) = true

/-- The contents table has a row that counts as one for a table. -/
def ListsContents (c : Catalog) (table : Value) : Prop :=
  ∃ e, c.select contentsTable ["table_name"] = .ok e ∧
    ∃ row ∈ e.rows, e.takesAt (c.collationOf contentsTable "table_name") 0 row table = true

/-- The first row that counts as one for a table in the contents table gives it this data type. -/
def HasContentsType (c : Catalog) (table type : Value) : Prop :=
  ∃ e row, c.select contentsTable ["data_type", "table_name"] = .ok e ∧
    e.rows.find? (fun row => e.takesAt (c.collationOf contentsTable "table_name") 1 row table) =
      some row ∧ row.getD 0 .null = type

def Registers (c : Catalog) (pairs : List (Value × Value)) : Prop :=
  ∃ rows, c.Shows geometryColumnsTable ["table_name", "column_name"] rows ∧
    pairs = rows.map fun row => (row.getD 0 .null, row.getD 1 .null)

variable {c : Catalog} {table : String} {labels : List String} {rows : List Row}

theorem Shows.unique {rows' : List Row} (h : c.Shows table labels rows)
    (h' : c.Shows table labels rows') : rows = rows' := by
  obtain ⟨e, selected, rfl⟩ := h
  obtain ⟨e', selected', rfl⟩ := h'
  rw [selected] at selected'
  cases selected'
  rfl

theorem names_of_select {e : Extent} (h : c.select table labels = .ok e) :
    c.Names (.text table) := by
  obtain ⟨whole, behind, -⟩ := bind_eq_ok.1 h
  exact names_of_extent behind

theorem Shows.names (h : c.Shows table labels rows) : c.Names (.text table) := by
  obtain ⟨e, selected, -⟩ := h
  exact names_of_select selected

theorem Declares.unique {ds ds' : List Declaration} (h : c.Declares ds) (h' : c.Declares ds') :
    ds = ds' := by
  obtain ⟨rows, shown, rfl⟩ := h
  obtain ⟨rows', shown', rfl⟩ := h'
  rw [shown.unique shown']

theorem Relates.unique {rs rs' : List Relation} (h : c.Relates rs) (h' : c.Relates rs') :
    rs = rs' := by
  obtain ⟨e, behind, rfl⟩ := h
  obtain ⟨e', behind', rfl⟩ := h'
  rw [behind] at behind'
  cases behind'
  rfl

theorem Registers.unique {pairs pairs' : List (Value × Value)} (h : c.Registers pairs)
    (h' : c.Registers pairs') : pairs = pairs' := by
  obtain ⟨rows, shown, rfl⟩ := h
  obtain ⟨rows', shown', rfl⟩ := h'
  rw [shown.unique shown']

theorem DeclaresExtension.names (h : c.DeclaresExtension labels) :
    c.Names (.text extensionsTable) := by
  obtain ⟨rows, shown, -⟩ := h
  exact shown.names

theorem CountsExtension.names (h : c.CountsExtension labels) : c.Names (.text extensionsTable) := by
  obtain ⟨e, selected, -⟩ := h
  exact names_of_select selected

/-- Selecting one column gives one column. -/
theorem columns_of_select {label : String} {e : Extent} (h : c.select table [label] = .ok e) :
    ∃ k, e.columns = [k] := by
  obtain ⟨whole, -, selected⟩ := bind_eq_ok.1 h
  obtain ⟨positions, found, eq⟩ := bind_eq_ok.1 selected
  cases eq
  rw [List.mapM_cons, bind_eq_ok] at found
  obtain ⟨i, at_i, found⟩ := found
  cases found
  cases first : whole.position? label with
  | none =>
    rw [first] at at_i
    cases at_i
  | some j =>
    rw [first] at at_i
    cases at_i
    obtain ⟨k, there⟩ := Extent.exists_of_position? first
    exact ⟨k, by simp [Extent.project, there]⟩

/-- A declaration of an extension counts as one. -/
theorem DeclaresExtension.counts (h : c.DeclaresExtension labels) : c.CountsExtension labels := by
  obtain ⟨rows, ⟨e, selected, rfl⟩, row, hrow, name, hname, stored⟩ := h
  obtain ⟨k, only⟩ := columns_of_select selected
  refine ⟨e, selected, row, hrow, name, hname, ?_⟩
  rw [Extent.takesAt, only, stored]
  exact Column.takes_self k _ name

/-- Whoever can read all columns of the extensions table can read the names of the extensions. -/
theorem Declares.declaresExtension {ds : List Declaration} {e : Declaration} {name : String}
    (h : c.Declares ds) (member : e ∈ ds) (named : e.extensionName = .text name) :
    c.DeclaresExtension [name] := by
  obtain ⟨_, ⟨projected, selected, rfl⟩, rfl⟩ := h
  obtain ⟨whole, behind, selected⟩ := bind_eq_ok.1 selected
  obtain ⟨positions, found, eq⟩ := bind_eq_ok.1 selected
  cases eq
  simp only [Declaration.columnNames, List.mapM_cons, List.mapM_nil, bind_eq_ok] at found
  obtain ⟨i, -, _, ⟨j, -, _, ⟨k, third, _, ⟨l, -, _, ⟨m, -, _, last, ofM⟩, ofL⟩, ofK⟩, ofJ⟩, ofI⟩ :=
    found
  cases last
  cases ofM
  cases ofL
  cases ofK
  cases ofJ
  cases ofI
  obtain ⟨row, hrow, rfl⟩ := List.mem_map.1 member
  obtain ⟨stored, hstored, rfl⟩ := List.mem_map.1 hrow
  refine ⟨_, ⟨whole.project [k], ?_, rfl⟩, [stored.getD k .null],
    List.mem_map.2 ⟨stored, hstored, rfl⟩, name, List.mem_singleton_self name, named⟩
  refine bind_eq_ok.2 ⟨whole, behind, bind_eq_ok.2 ⟨[k], ?_, rfl⟩⟩
  rw [List.mapM_cons, third]
  rfl

end Catalog

/-- Where every column is present under its exact name, no default stands in for one. -/
theorem Relation.ofRow_eq {e : Extent}
    (complete : ∀ name ∈ ["id", "base_table_name", "base_primary_column", "related_table_name",
      "related_primary_column", "relation_name", "mapping_table_name"],
      ∃ k ∈ e.columns, k.name = name) (row : Row) :
    Relation.ofRow e.columns row = e.relation row := by
  have field_eq : ∀ name absent, (∃ k ∈ e.columns, k.name = name) →
      Relation.field e.columns row name absent = e.cell row name := by
    intro name absent h
    obtain ⟨k, hk, named⟩ := h
    unfold Relation.field
    rw [if_pos (List.any_eq_true.2 ⟨k, hk, by simp [named]⟩)]
    cases found : e.columns.findIdx? fun c => Text.sameName c.name name with
    | some i => simp [Extent.cell, Extent.position?, found]
    | none =>
      have unlike := List.findIdx?_eq_none_iff.1 found k hk
      simp [named] at unlike
  simp only [List.forall_mem_cons, List.not_mem_nil, false_implies, implies_true, and_true]
    at complete
  obtain ⟨id, baseTable, baseColumn, relatedTable, relatedColumn, name, mappingTable⟩ := complete
  simp only [Relation.ofRow, Extent.relation, field_eq _ _ id, field_eq _ _ baseTable,
    field_eq _ _ baseColumn, field_eq _ _ relatedTable, field_eq _ _ relatedColumn,
    field_eq _ _ name, field_eq _ _ mappingTable]

theorem Relation.field_eq_or (e : Extent) (row : Row) (name : String) (absent : Value) :
    Relation.field e.columns row name absent = e.cell row name ∨
      Relation.field e.columns row name absent = absent := by
  unfold Relation.field
  split
  · cases found : e.columns.findIdx? fun c => Text.sameName c.name name with
    | some i => exact .inl (by simp [Extent.cell, Extent.position?, found])
    | none => exact .inr rfl
  · exact .inr rfl

/-- A table that a relation is read to be about is stored in its row: nothing stands in for it. -/
theorem Relation.text_mem_tables {e : Extent} {row : Row} {table : String}
    (h : .text table ∈ [(ofRow e.columns row).baseTable, (ofRow e.columns row).relatedTable,
      (ofRow e.columns row).mappingTable]) :
    .text table ∈ [(e.relation row).baseTable, (e.relation row).relatedTable,
      (e.relation row).mappingTable] := by
  have stored : ∀ name, .text table = field e.columns row name .null →
      .text table = e.cell row name := by
    intro name read
    rcases field_eq_or e row name .null with eq | eq
    · rw [read, eq]
    · rw [eq] at read
      cases read
  simp only [List.mem_cons, List.not_mem_nil, or_false] at h ⊢
  exact h.imp (stored _) (Or.imp (stored _) (stored _))

namespace Check

variable {c : Catalog} {d : Deadline} {table : String}

theorem isUsable_extensionsTable : (Value.text extensionsTable).IsUsable :=
  Value.isUsable_text.2 (by decide)

theorem isUsable_relationsTable : (Value.text relationsTable).IsUsable :=
  Value.isUsable_text.2 (by decide)

theorem isUsable_contentsTable : (Value.text contentsTable).IsUsable :=
  Value.isUsable_text.2 (by decide)

theorem isUsable_geometryColumnsTable : (Value.text geometryColumnsTable).IsUsable :=
  Value.isUsable_text.2 (by decide)

theorem tableExists_eq_true (usable : (Value.text table).IsUsable) (h : c.Names (.text table)) :
    (tableExists (.text table)).resultIn c d = .ok true :=
  tableExists_eq_ok.2 (by simp [usable, h])

theorem tableExists_eq_false (h : ¬ c.Names (.text table)) :
    (tableExists (.text table)).resultIn c d = .ok false :=
  tableExists_eq_ok.2 (by simp [h])

theorem declarations_eq_ok {ds : List Declaration} (h : c.Names (.text extensionsTable)) :
    declarations.resultIn c d = .ok ds ↔ c.Declares ds := by
  rw [declarations, resultIn_bind, tableExists_eq_true isUsable_extensionsTable h]
  change (reply .declarations).resultIn c d = .ok ds ↔ _
  rw [resultIn_reply_eq_ok]
  constructor
  · intro answered
    obtain ⟨e, selected, eq⟩ := bind_eq_ok.1 answered
    cases eq
    exact ⟨_, ⟨e, selected, rfl⟩, rfl⟩
  · intro given
    obtain ⟨_, ⟨e, selected, rfl⟩, rfl⟩ := given
    exact bind_eq_ok.2 ⟨e, selected, rfl⟩

theorem isDecisive_declarations : IsDecisive c d declarations := by
  apply isDecisive_tableExists.bind
  intro found _
  cases found
  · exact isDecisive_pure _
  · exact isDecisive_reply _

theorem mem_sortedNames {name : String} {names : List String} :
    name ∈ sortedNames names ↔ name ∈ names := by
  simp [sortedNames]

/-- Whether an extension is declared is known unless the extensions table cannot be read. -/
theorem extensionActive_eq_ok {names : List String} (named : names ≠ []) {b : Bool} :
    (extensionActive names).resultIn c d = .ok b ↔
      (c.Names (.text extensionsTable) →
        ∃ rows, c.Shows extensionsTable ["extension_name"] rows) ∧
      (b = true ↔ c.CountsExtension names) := by
  have counted : ∀ e, c.select extensionsTable ["extension_name"] = .ok e →
      (0 < (e.rows.filter fun row => (sortedNames names).any fun name =>
        e.takesAt (c.collationOf extensionsTable "extension_name") 0 row (.text name)).length ↔
          c.CountsExtension names) := by
    intro e selected
    simp only [List.length_pos_iff_exists_mem, List.mem_filter, List.any_eq_true, mem_sortedNames]
    constructor
    · intro counted
      exact ⟨e, selected, counted⟩
    · intro counted
      obtain ⟨e', selected', counted⟩ := counted
      rw [selected] at selected'
      cases selected'
      exact counted
  rw [extensionActive, if_neg (by simpa using named)]
  by_cases present : c.Names (.text extensionsTable)
  · rw [resultIn_bind, tableExists_eq_true isUsable_extensionsTable present]
    change (reply _ >>= _ : Check Bool).resultIn c d = _ ↔ _
    rw [resultIn_bind_eq_ok]
    constructor
    · intro h
      obtain ⟨count, replied, eq⟩ := h
      obtain ⟨e, selected, same⟩ := bind_eq_ok.1 (resultIn_reply_eq_ok.1 replied)
      cases same
      cases eq
      exact ⟨fun _ => ⟨_, e, selected, rfl⟩, by rw [decide_eq_true_eq, counted e selected]⟩
    · intro h
      obtain ⟨readable, active⟩ := h
      obtain ⟨_, e, selected, rfl⟩ := readable present
      refine ⟨_, resultIn_reply_eq_ok.2 (bind_eq_ok.2 ⟨e, selected, rfl⟩), ?_⟩
      refine congrArg Except.ok (Bool.eq_iff_iff.2 ?_)
      rw [decide_eq_true_eq, counted e selected, active]
  · rw [resultIn_bind, tableExists_eq_false present]
    have uncounted : ¬ c.CountsExtension names := fun counts => present counts.names
    change Except.ok false = .ok b ↔ _
    cases b <;> simp [present, uncounted]

theorem extensionActive_eq_true {names : List String} (h : c.DeclaresExtension names) :
    (extensionActive names).resultIn c d = .ok true := by
  obtain ⟨rows, shown, row, hrow, name, hname, eq⟩ := id h
  have named : names ≠ [] := List.ne_nil_of_mem hname
  exact (extensionActive_eq_ok named).2 ⟨fun _ => ⟨rows, shown⟩, by simp [h.counts]⟩

theorem extensionActive_failsAs {names : List String} :
    FailsAs Failure.IsQueryFailure ((extensionActive names).resultIn c d) := by
  unfold extensionActive
  split
  · exact failsAs_ok false
  · refine failsAs_bind tableExists_failsAs fun found _ => ?_
    cases found
    · exact failsAs_ok false
    · exact failsAs_bind (reply_failsAs _) fun _ _ => failsAs_ok _

theorem isDecisive_extensionActive {names : List String} :
    IsDecisive c d (extensionActive names) :=
  extensionActive_failsAs.mono fun _ => Failure.IsQueryFailure.isAdverse

theorem mappingDeclarations_eq_ok {names : List String} {ms : List Declaration}
    (h : c.Names (.text extensionsTable)) :
    (mappingDeclarations names).resultIn c d = .ok ms ↔
      ∃ ds, c.Declares ds ∧ ms = ds.filter fun d =>
        d.isNamed names && !d.table.isNull && !d.table.same (.text relationsTable) := by
  simp only [mappingDeclarations, resultIn_bind_eq_ok, declarations_eq_ok h, resultIn_pure,
    Except.ok.injEq, @eq_comm _ ms]

theorem isDecisive_mappingDeclarations {names : List String} :
    IsDecisive c d (mappingDeclarations names) :=
  isDecisive_declarations.bind fun _ _ => isDecisive_pure _

theorem relations_eq_ok {rs : List Relation} :
    relations.resultIn c d = .ok rs ↔
      ∃ e, c.extent relationsTable = .ok e ∧ rs = e.rows.map (Relation.ofRow e.columns) := by
  simp only [relations, resultIn_bind_eq_ok]
  constructor
  · intro h
    obtain ⟨found, _, -, -, replied⟩ := h
    obtain ⟨e, behind, eq⟩ := bind_eq_ok.1 (resultIn_reply_eq_ok.1 replied)
    cases eq
    exact ⟨e, behind, rfl⟩
  · intro h
    obtain ⟨e, behind, rfl⟩ := h
    have named := Catalog.names_of_extent behind
    refine ⟨true, tableExists_eq_true isUsable_relationsTable named, (),
      resultIn_require_eq_ok.2 rfl, ?_⟩
    exact resultIn_reply_eq_ok.2 (bind_eq_ok.2 ⟨e, behind, rfl⟩)

theorem isDecisive_relations : IsDecisive c d relations :=
  isDecisive_tableExists.bind fun _ _ => (isDecisive_require _ _).bind fun _ _ => isDecisive_reply _

theorem inContents_eq_true {v : Value} :
    (inContents v).resultIn c d = .ok true ↔ c.ListsContents v := by
  rw [inContents]
  by_cases named : c.Names (.text contentsTable)
  · rw [resultIn_bind, tableExists_eq_true isUsable_contentsTable named]
    change (reply _ >>= _ : Check Bool).resultIn c d = _ ↔ _
    rw [resultIn_bind_eq_ok]
    constructor
    · intro h
      obtain ⟨count, replied, positive⟩ := h
      obtain ⟨e, selected, eq⟩ := bind_eq_ok.1 (resultIn_reply_eq_ok.1 replied)
      cases eq
      obtain ⟨row, hrow⟩ := List.exists_mem_of_length_pos
        (of_decide_eq_true (Except.ok.inj positive))
      obtain ⟨member, takes⟩ := List.mem_filter.1 hrow
      exact ⟨e, selected, row, member, takes⟩
    · intro h
      obtain ⟨e, selected, row, member, takes⟩ := h
      refine ⟨_, resultIn_reply_eq_ok.2 (bind_eq_ok.2 ⟨e, selected, rfl⟩), ?_⟩
      refine congrArg Except.ok (decide_eq_true (List.length_pos_of_mem (a := row) ?_))
      exact List.mem_filter.2 ⟨member, takes⟩
  · rw [resultIn_bind, tableExists_eq_false named]
    constructor
    · intro h
      cases h
    · intro h
      obtain ⟨e, selected, -⟩ := h
      exact absurd (Catalog.names_of_select selected) named

theorem isDecisive_inContents {v : Value} : IsDecisive c d (inContents v) := by
  apply isDecisive_tableExists.bind
  intro found _
  cases found
  · exact isDecisive_pure _
  · exact (isDecisive_reply _).bind fun _ _ => isDecisive_pure _

theorem contentsType_eq_text {v : Value} {type : String} :
    (contentsType v).resultIn c d = .ok (.text type) ↔ c.HasContentsType v (.text type) := by
  have first : ∀ (e : Extent) (k : Collation),
      (((e.rowsWith k 1 v).map fun row => row.getD 0 .null).head?).getD .null = .text type ↔
        ∃ row, e.rows.find? (fun row => e.takesAt k 1 row v) = some row ∧
          row.getD 0 .null = .text type := by
    intro e k
    rw [Extent.rowsWith, List.head?_map, List.head?_filter]
    cases e.rows.find? fun row => e.takesAt k 1 row v <;> simp
  rw [contentsType]
  by_cases named : c.Names (.text contentsTable)
  · rw [resultIn_bind, tableExists_eq_true isUsable_contentsTable named]
    change (reply _ >>= _ : Check Value).resultIn c d = _ ↔ _
    rw [resultIn_bind_eq_ok]
    constructor
    · intro h
      obtain ⟨types, replied, eq⟩ := h
      obtain ⟨e, selected, same⟩ := bind_eq_ok.1 (resultIn_reply_eq_ok.1 replied)
      cases same
      obtain ⟨row, found, eq⟩ := (first e _).1 (Except.ok.inj eq)
      exact ⟨e, row, selected, found, eq⟩
    · intro h
      obtain ⟨e, row, selected, found, eq⟩ := h
      refine ⟨_, resultIn_reply_eq_ok.2 (bind_eq_ok.2 ⟨e, selected, rfl⟩), ?_⟩
      exact congrArg Except.ok ((first e _).2 ⟨row, found, eq⟩)
  · rw [resultIn_bind, tableExists_eq_false named]
    constructor
    · intro h
      cases h
    · intro h
      obtain ⟨e, row, selected, -⟩ := h
      exact absurd (Catalog.names_of_select selected) named

theorem isDecisive_contentsType {v : Value} : IsDecisive c d (contentsType v) := by
  apply isDecisive_tableExists.bind
  intro found _
  cases found
  · exact isDecisive_pure _
  · exact (isDecisive_reply _).bind fun _ _ => isDecisive_pure _

theorem geometryColumns_eq_ok {pairs : List (Value × Value)} :
    geometryColumns.resultIn c d = .ok pairs ↔ c.Registers pairs := by
  simp only [geometryColumns, resultIn_bind_eq_ok]
  constructor
  · intro h
    obtain ⟨found, _, -, -, replied⟩ := h
    obtain ⟨e, selected, eq⟩ := bind_eq_ok.1 (resultIn_reply_eq_ok.1 replied)
    cases eq
    exact ⟨_, ⟨e, selected, rfl⟩, rfl⟩
  · intro h
    obtain ⟨_, ⟨e, selected, rfl⟩, rfl⟩ := h
    have shown : c.Shows geometryColumnsTable ["table_name", "column_name"] e.rows :=
      ⟨e, selected, rfl⟩
    refine ⟨true, tableExists_eq_true isUsable_geometryColumnsTable shown.names, (),
      resultIn_require_eq_ok.2 rfl, ?_⟩
    exact resultIn_reply_eq_ok.2 (bind_eq_ok.2 ⟨e, selected, rfl⟩)

theorem spatialIndexDeclarations_eq_ok {rows : List Declaration}
    (h : c.Names (.text extensionsTable)) :
    spatialIndexDeclarations.resultIn c d = .ok rows ↔
      ∃ ds, c.Declares ds ∧ rows = ds.filter (·.isNamed [spatialIndexExtension]) := by
  simp only [spatialIndexDeclarations, resultIn_bind_eq_ok, declarations_eq_ok h, resultIn_pure,
    Except.ok.injEq, @eq_comm _ rows]

theorem isDecisive_spatialIndexDeclarations : IsDecisive c d spatialIndexDeclarations :=
  isDecisive_declarations.bind fun _ _ => isDecisive_pure _

theorem indexedGeometryColumns_eq_ok {indexed : List (Value × Value)}
    (h : c.Names (.text extensionsTable)) :
    indexedGeometryColumns.resultIn c d = .ok indexed ↔
      ∃ ds pairs, c.Declares ds ∧ c.Registers pairs ∧ indexed = pairs.filter fun p =>
        p.1.isIn ((ds.filter (·.isNamed [spatialIndexExtension])).map (·.table)) := by
  simp only [indexedGeometryColumns, resultIn_bind_eq_ok, spatialIndexDeclarations_eq_ok h,
    geometryColumns_eq_ok, resultIn_pure, Except.ok.injEq]
  constructor
  · intro given
    obtain ⟨_, ⟨ds, declared, rfl⟩, pairs, registered, rfl⟩ := given
    exact ⟨ds, pairs, declared, registered, rfl⟩
  · intro given
    obtain ⟨ds, pairs, declared, registered, rfl⟩ := given
    exact ⟨_, ⟨ds, declared, rfl⟩, pairs, registered, rfl⟩

theorem isDecisive_geometryColumns : IsDecisive c d geometryColumns :=
  isDecisive_tableExists.bind fun _ _ => (isDecisive_require _ _).bind fun _ _ => isDecisive_reply _

theorem isDecisive_indexedGeometryColumns : IsDecisive c d indexedGeometryColumns :=
  isDecisive_spatialIndexDeclarations.bind fun _ _ =>
    isDecisive_geometryColumns.bind fun _ _ => isDecisive_pure _

end Check
end GeoConformance
