import Mathlib.Data.List.Forall2
import GeoConformance.Proofs.Bookkeeping

/-!
# Rows in another order

A database promises no order of its rows. Two databases with one schema and the same rows, stored in
any order, fail at the same queries with the same errors. Most queries have the same answer in both;
the others list the same things in some order.
-/

namespace GeoConformance

/-- The same columns, and the same rows in some order. -/
structure Extent.Reorders (e e' : Extent) : Prop where
  columns : e.columns = e'.columns
  rows : e.rows.Perm e'.rows

inductive SchemaObject.Reorders : SchemaObject → SchemaObject → Prop
  | table {name : String} {e e' : Extent} {ts : List Trait} :
    e.Reorders e' → Reorders (.table name e ts) (.table name e' ts)
  | view (name source : String) : Reorders (.view name source) (.view name source)
  | computed {name : String} {isView : Bool} {sql : Option String} {e e' : Extent}
      {ts : List Trait} :
    e.Reorders e' → Reorders (.computed name isView sql e ts) (.computed name isView sql e' ts)
  | entry (name kind : String) (sql : Option String) :
    Reorders (.entry name kind sql) (.entry name kind sql)

/-- The same schema, and in each table the same rows in some order. -/
def Catalog.Reorders (c c' : Catalog) : Prop := List.Forall₂ SchemaObject.Reorders c c'

namespace SchemaObject

variable {o o' : SchemaObject}

theorem Reorders.name (h : o.Reorders o') : o.name = o'.name := by
  cases h <;> rfl

theorem Reorders.kind (h : o.Reorders o') : o.kind = o'.kind := by
  cases h <;> rfl

theorem Reorders.isReadable (h : o.Reorders o') : o.isReadable = o'.isReadable := by
  cases h <;> rfl

/-- The generating text of a table is about its columns alone. -/
theorem Reorders.sql (h : o.Reorders o') : o.sql = o'.sql := by
  cases h with
  | table extents => simp only [SchemaObject.sql, extents.columns]
  | view name source => rfl
  | computed extents => rfl
  | entry name kind sql => rfl

end SchemaObject

namespace Extent

variable {e e' : Extent}

theorem Reorders.position? (h : e.Reorders e') (column : String) :
    e.position? column = e'.position? column := by
  simp only [Extent.position?, h.columns]

theorem Reorders.throughView (h : e.Reorders e') : e.throughView.Reorders e'.throughView :=
  ⟨by simp only [Extent.throughView, h.columns], h.rows⟩

theorem Reorders.project (h : e.Reorders e') (positions : List Nat) :
    (e.project positions).Reorders (e'.project positions) :=
  ⟨by simp only [Extent.project, h.columns], h.rows.map _⟩

theorem Reorders.takesAt (h : e.Reorders e') : e.takesAt = e'.takesAt := by
  unfold Extent.takesAt
  rw [h.columns]

theorem Reorders.rowsWith (h : e.Reorders e') (k : Collation) (position : Nat) (v : Value) :
    (e.rowsWith k position v).Perm (e'.rowsWith k position v) := by
  simp only [Extent.rowsWith, h.takesAt]
  exact h.rows.filter _

end Extent

namespace FullExtent

/-- The same columns with the same traits, and the same rows in some order. -/
structure Reorders (e e' : FullExtent) : Prop where
  extent : e.extent.Reorders e'.extent
  traits : e.traits = e'.traits

variable {e e' : FullExtent}

theorem Reorders.throughView (h : e.Reorders e') : e.throughView.Reorders e'.throughView :=
  ⟨h.extent.throughView, by simp only [FullExtent.throughView, h.traits]⟩

theorem Reorders.collationOf (h : e.Reorders e') (column : String) :
    e.collationOf column = e'.collationOf column := by
  simp only [FullExtent.collationOf, h.extent.position?, h.traits]

theorem Reorders.listed (h : e.Reorders e') : e.listed = e'.listed := by
  simp only [FullExtent.listed, h.extent.columns, h.traits]

end FullExtent

namespace Catalog

variable {c c' : Catalog}

/-- No look-up by a text finds more than one row of the contents table. -/
def ListsOnce (c : Catalog) : Prop :=
  ∀ e, c.select contentsTable ["table_name"] = .ok e → ∀ table : String,
    (e.rowsWith (c.collationOf contentsTable "table_name") 0 (.text table)).length ≤ 1

theorem Reorders.map_filter {α : Type} {p : SchemaObject → Bool} {f : SchemaObject → α}
    (h : c.Reorders c') (chosen : ∀ o o', o.Reorders o' → p o = p o')
    (seen : ∀ o o', o.Reorders o' → f o = f o') : (c.filter p).map f = (c'.filter p).map f := by
  induction h with
  | nil => rfl
  | @cons o o' _ _ same _ ih =>
    simp only [List.filter_cons, chosen o o' same]
    cases p o' with
    | true => simp only [if_true, List.map_cons, seen o o' same, ih]
    | false => exact ih

theorem Reorders.readable? (h : c.Reorders c') (name : String) :
    Option.Rel SchemaObject.Reorders (c.readable? name) (c'.readable? name) := by
  unfold Catalog.readable?
  induction h with
  | nil => exact .none
  | @cons o o' _ _ same _ ih =>
    simp only [List.find?_cons, same.isReadable, same.name]
    cases o'.isReadable && Text.sameName o'.name name with
    | true => exact .some same
    | false => exact ih

theorem Reorders.follow (h : c.Reorders c') (visited : List String) (depth : Nat)
    (name shown : String) :
    Agree Eq FullExtent.Reorders (c.follow visited depth name shown)
      (c'.follow visited depth name shown) := by
  induction depth generalizing visited name shown with
  | zero => exact .error rfl
  | succ depth ih =>
    have behind := h.readable? name
    unfold Catalog.follow
    generalize c.readable? name = found at behind
    generalize c'.readable? name = found' at behind
    cases behind with
    | none => exact .error rfl
    | some same =>
      cases same with
      | table extents => exact .ok ⟨extents, rfl⟩
      | computed extents => exact .ok ⟨extents, rfl⟩
      | entry _ _ _ => exact .error rfl
      | view view source =>
        simp only
        split
        · exact .error rfl
        · exact (ih _ _ _).map fun _ _ => FullExtent.Reorders.throughView

theorem Reorders.fullExtent (h : c.Reorders c') (name : String) :
    Agree Eq FullExtent.Reorders (c.fullExtent name) (c'.fullExtent name) := by
  unfold Catalog.fullExtent
  rw [List.Forall₂.length_eq h]
  exact h.follow _ _ _ _

theorem Reorders.extent (h : c.Reorders c') (name : String) :
    Agree Eq Extent.Reorders (c.extent name) (c'.extent name) :=
  (h.fullExtent name).map fun _ _ => FullExtent.Reorders.extent

theorem Reorders.collationOf (h : c.Reorders c') (table column : String) :
    c.collationOf table column = c'.collationOf table column := by
  have behind := h.fullExtent table
  unfold Catalog.collationOf
  generalize c.fullExtent table = e at behind
  generalize c'.fullExtent table = e' at behind
  cases behind with
  | ok same => exact same.collationOf column
  | error same => rfl

theorem Reorders.select (h : c.Reorders c') (table : String) (names : List String) :
    Agree Eq Extent.Reorders (c.select table names) (c'.select table names) := by
  refine (h.extent table).bind fun e e' _ _ extents => ?_
  simp only [extents.position?]
  refine (Agree.self _).bind fun positions _ _ _ same => ?_
  cases same
  exact .ok (extents.project positions)

theorem Reorders.quotedColumn (h : c.Reorders c') (table column : String) :
    Agree Eq List.Perm (c.quotedColumn table column) (c'.quotedColumn table column) := by
  refine (h.extent table).bind fun e e' _ _ extents => ?_
  rw [extents.position?]
  cases e'.position? column with
  | some i => exact .ok (extents.rows.map _)
  | none => exact .ok (extents.rows.map _)

theorem Reorders.listerError? (h : c.Reorders c') : c.listerError? = c'.listerError? := by
  have behind := h.readable? columnLister
  unfold Catalog.listerError?
  generalize c.readable? columnLister = found at behind
  generalize c'.readable? columnLister = found' at behind
  cases behind with
  | none => rfl
  | some same =>
    cases same with
    | @computed name isView sql e e' ts extents =>
      cases isView with
      | true => rfl
      | false => simp only [extents.position?]
    | _ => rfl

theorem Reorders.columnsOf (h : c.Reorders c') (table : String) :
    c.columnsOf table = c'.columnsOf table := by
  have readable : (c.readable? table).isSome = (c'.readable? table).isSome := by
    have behind := h.readable? table
    generalize c.readable? table = found at behind
    generalize c'.readable? table = found' at behind
    cases behind <;> rfl
  have listed := ((h.fullExtent table).map fun _ _ => FullExtent.Reorders.listed).eq
  unfold Catalog.columnsOf
  rw [readable, h.listerError?, listed]

theorem ListsOnce.length_rowsWith (once : c.ListsOnce) {e : Extent}
    (selected : c.select contentsTable ["data_type", "table_name"] = .ok e) (table : String) :
    (e.rowsWith (c.collationOf contentsTable "table_name") 1 (.text table)).length ≤ 1 := by
  obtain ⟨whole, behind, selected⟩ := bind_eq_ok.1 selected
  obtain ⟨positions, found, same⟩ := bind_eq_ok.1 selected
  cases same
  simp only [List.mapM_cons, List.mapM_nil, bind_eq_ok] at found
  obtain ⟨i, first, _, ⟨j, second, _, nil, ofJ⟩, ofI⟩ := found
  cases nil
  cases ofJ
  cases ofI
  have shown : c.select contentsTable ["table_name"] = .ok (whole.project [j]) := by
    refine bind_eq_ok.2 ⟨whole, behind, bind_eq_ok.2 ⟨[j], ?_, rfl⟩⟩
    rw [List.mapM_cons, second]
    rfl
  have listed := once _ shown table
  split at first
  case h_2 => cases first
  case h_1 i there =>
    cases first
    split at second
    case h_2 => cases second
    case h_1 j there' =>
      cases second
      obtain ⟨k, at_i⟩ := Extent.exists_of_position? there
      obtain ⟨l, at_j⟩ := Extent.exists_of_position? there'
      simpa [Extent.rowsWith, Extent.takesAt, Extent.project, at_i, at_j, List.filter_map,
        Function.comp_def] using listed

/-- Of at most one there is no other order. -/
theorem perm_eq_of_length_le_one {α : Type} {as bs : List α} (h : as.Perm bs)
    (one : as.length ≤ 1) : as = bs := by
  match as, one with
  | [], _ => exact h.nil_eq
  | [a], _ => exact (List.perm_singleton.1 h.symm).symm

end Catalog

namespace Query

/-- Whether the order of rows cannot show in the answer. -/
def IsOrderBlind : Query → Prop
  | .declarations | .relations | .geometryColumns | .distinctValues .. | .columnValues .. => False
  | .contentsTypes table => ∃ name, table = .text name
  | _ => True

variable {c c' : Catalog}

theorem answer_eq_of_reorders (h : c.Reorders c') (once : c.ListsOnce) {q : Query}
    (blind : q.IsOrderBlind) : q.answer c = q.answer c' := by
  have sameText : ∀ o o' : SchemaObject, o.Reorders o' → (o.name, o.sql) = (o'.name, o'.sql) :=
    fun o o' same => by rw [same.name, same.sql]
  cases q with
  | tableCount name =>
    have named : (c.namedTables name).map SchemaObject.name =
        (c'.namedTables name).map SchemaObject.name :=
      h.map_filter (fun o o' same => by rw [same.kind, same.name])
        fun _ _ => SchemaObject.Reorders.name
    have counted := congrArg List.length named
    rw [List.length_map, List.length_map] at counted
    exact congrArg Except.ok counted
  | definitions kind name =>
    exact congrArg Except.ok <| h.map_filter (fun o o' same => by rw [same.kind, same.name])
      fun _ _ => SchemaObject.Reorders.sql
  | definitionsFrom kind start =>
    exact congrArg Except.ok <| h.map_filter (fun o o' same => by rw [same.kind, same.name])
      sameText
  | columns table => exact h.columnsOf table
  | declarationCount names =>
    refine ((h.select _ _).bind fun e e' _ _ extents => .ok ?_).eq
    simp only [extents.takesAt, h.collationOf]
    exact (extents.rows.filter _).length_eq
  | contentsCount table =>
    refine ((h.select _ _).bind fun e e' _ _ extents => .ok ?_).eq
    rw [h.collationOf]
    exact (extents.rowsWith _ 0 table).length_eq
  | contentsTypes table =>
    obtain ⟨name, rfl⟩ := blind
    refine ((h.select _ _).bind fun e e' selected _ extents => .ok ?_).eq
    have one := once.length_rowsWith selected name
    rw [Catalog.perm_eq_of_length_le_one (extents.rowsWith _ 1 (.text name)) one, h.collationOf]
  | declarations => exact blind.elim
  | relations => exact blind.elim
  | geometryColumns => exact blind.elim
  | distinctValues table column => exact blind.elim
  | columnValues table column => exact blind.elim

theorem declarations_perm (h : c.Reorders c') :
    Agree Eq List.Perm (declarations.answer c) (declarations.answer c') :=
  (h.select _ _).bind fun _ _ _ _ extents => .ok (extents.rows.map _)

theorem relations_perm (h : c.Reorders c') :
    Agree Eq List.Perm (relations.answer c) (relations.answer c') := by
  refine (h.extent _).bind fun e e' _ _ extents => .ok ?_
  rw [extents.columns]
  exact extents.rows.map _

theorem geometryColumns_perm (h : c.Reorders c') :
    Agree Eq List.Perm (geometryColumns.answer c) (geometryColumns.answer c') :=
  (h.select _ _).bind fun _ _ _ _ extents => .ok (extents.rows.map _)

end Query
end GeoConformance
