import GeoConformance.Column
import GeoConformance.Failure
import GeoConformance.Identifier

/-!
# The content of a database

A database is the list of its schema objects in the order of their creation. A table has columns
and rows; a view shows the rows of another table or view; the columns and rows of a virtual table,
and of a view of any other kind, are computed; an entry is known to the schema by name, kind and
text alone, as triggers and indexes are. Rows are read in the order in which they were stored. A
column has a collation, and it may be generated from others; then it is read as they are, but not
listed with them.
-/

namespace GeoConformance

open Text

abbrev Row := List Value

/-- The columns of a table or view together with its rows. -/
structure Extent where
  columns : List Column
  rows : List Row
deriving DecidableEq

/-- What a column is beyond its declared shape. -/
structure Trait where
  collation : Collation := .binary
  isGenerated : Bool := false
deriving DecidableEq

/-- The traits are those of the columns in their order; a column without any has the usual ones. -/
inductive SchemaObject
  | table (name : String) (extent : Extent) (traits : List Trait := [])
  | view (name source : String)
  | computed (name : String) (isView : Bool) (sql : Option String) (extent : Extent)
    (traits : List Trait := [])
  | entry (name kind : String) (sql : Option String)
deriving DecidableEq

namespace SchemaObject

def name : SchemaObject → String
  | .table name .. => name
  | .view name _ => name
  | .computed name .. => name
  | .entry name _ _ => name

def kind : SchemaObject → String
  | .table .. => "table"
  | .view .. => "view"
  | .computed _ isView .. => if isView then "view" else "table"
  | .entry _ kind _ => kind

/-- The text that generates the object. -/
def sql : SchemaObject → Option String
  | .table name extent _ =>
    let columns := ", ".intercalate (extent.columns.map fun c => Identifier.quoted c.name)
    some s!"CREATE TABLE {Identifier.quoted name} ({columns})"
  | .view name source =>
    some s!"CREATE VIEW {Identifier.quoted name} AS SELECT * FROM {Identifier.quoted source}"
  | .computed _ _ sql .. => sql
  | .entry _ _ sql => sql

/-- Whether rows can be selected from the object. -/
def isReadable : SchemaObject → Bool
  | .entry .. => false
  | _ => true

end SchemaObject

namespace Extent

/-- The type under which a view shows a column. A column without a type is one of blobs there. -/
def typeThroughView (type : Option String) : Option String :=
  if (type.getD "").isEmpty then some "BLOB" else type

/-- A view has the columns of its source without their constraints. -/
def throughView (e : Extent) : Extent :=
  { e with columns := e.columns.map fun c =>
      { name := c.name, type := typeThroughView c.type, notNull := false, default := .null,
        keyPosition := 0 } }

def position? (e : Extent) (column : String) : Option Nat :=
  e.columns.findIdx? fun c => sameName c.name column

/-- The columns at some positions; a row that is too short holds null there. -/
def project (e : Extent) (positions : List Nat) : Extent where
  columns := positions.filterMap fun i => e.columns[i]?
  rows := e.rows.map fun row => positions.map fun i => row.getD i .null

/-- Whether the column at a position takes what a row holds there for equal to a value. -/
def takesAt (e : Extent) (k : Collation) (position : Nat) (row : Row) (v : Value) : Bool :=
  (e.columns[position]?).any fun c => c.takes k (row.getD position .null) v

/-- The rows in which the column at a position equals the parameter. -/
def rowsWith (e : Extent) (k : Collation) (position : Nat) (v : Value) : List Row :=
  e.rows.filter fun row => e.takesAt k position row v

end Extent

/-- The columns without those that are generated. -/
def listedColumns : List Column → List Trait → List Column
  | column :: columns, t :: traits =>
    if t.isGenerated then listedColumns columns traits else column :: listedColumns columns traits
  | columns, _ => columns

theorem listedColumns_sublist (columns : List Column) (traits : List Trait) :
    (listedColumns columns traits).Sublist columns := by
  induction columns generalizing traits with
  | nil => cases traits <;> exact .slnil
  | cons column columns ih =>
    cases traits with
    | nil => exact .refl _
    | cons t traits =>
      rw [listedColumns]
      split
      · exact (ih traits).cons column
      · exact (ih traits).cons_cons column

/-- Columns and rows together with the traits of the columns. -/
structure FullExtent where
  extent : Extent
  traits : List Trait

namespace FullExtent

/-- In a view every column is listed. -/
def throughView (e : FullExtent) : FullExtent where
  extent := e.extent.throughView
  traits := e.traits.map fun t => { t with isGenerated := false }

/-- The collation of a column. What is no column is compared exactly. -/
def collationOf (e : FullExtent) (column : String) : Collation :=
  (((e.extent.position? column).bind fun i => e.traits[i]?).map Trait.collation).getD .binary

def listed (e : FullExtent) : List Column := listedColumns e.extent.columns e.traits

theorem mem_of_mem_listed {e : FullExtent} {k : Column} (h : k ∈ e.listed) :
    k ∈ e.extent.columns :=
  (listedColumns_sublist _ _).subset h

end FullExtent

abbrev Catalog := List SchemaObject

namespace Catalog

def noSuchTable (name : String) : EngineError := ⟨.operational, s!"no such table: {name}"⟩

def noSuchColumn (name : String) : EngineError := ⟨.operational, s!"no such column: {name}"⟩

def circularView (name : String) : EngineError :=
  ⟨.operational, s!"view {name} is circularly defined"⟩

def readable? (c : Catalog) (name : String) : Option SchemaObject :=
  c.find? fun o => o.isReadable && sameName o.name name

/-- Follows at most `depth` views, none of them twice; `shown` is how the name stands in an error. -/
def follow (c : Catalog) (visited : List String) :
    (depth : Nat) → (name shown : String) → Except EngineError FullExtent
  | 0, name, _ => .error (circularView name)
  | depth + 1, name, shown =>
    match c.readable? name with
    | some (.table _ extent traits) => .ok ⟨extent, traits⟩
    | some (.computed _ _ _ extent traits) => .ok ⟨extent, traits⟩
    | some (.view view source) =>
      if visited.contains view then .error (circularView view)
      else (follow c (view :: visited) depth source s!"main.{source}").map FullExtent.throughView
    | _ => .error (noSuchTable shown)

/-- What is behind a name. No chain of different views is longer than the catalog. -/
def fullExtent (c : Catalog) (name : String) : Except EngineError FullExtent :=
  c.follow [] (c.length + 1) name name

/-- The columns and rows behind a name. -/
def extent (c : Catalog) (name : String) : Except EngineError Extent :=
  (c.fullExtent name).map FullExtent.extent

/-- How the texts of a column are compared. -/
def collationOf (c : Catalog) (table column : String) : Collation :=
  match c.fullExtent table with
  | .ok e => e.collationOf column
  | .error _ => .binary

/-- The rows of a table, cut down to the columns named. -/
def select (c : Catalog) (table : String) (names : List String) : Except EngineError Extent := do
  let e ← c.extent table
  let positions ← names.mapM fun name =>
    match e.position? name with
    | some i => .ok i
    | none => .error (noSuchColumn name)
  return e.project positions

/-- The values of a column whose name is quoted; if there is none, the name is read as a text. -/
def quotedColumn (c : Catalog) (table column : String) : Except EngineError (List Value) := do
  let e ← c.extent table
  match e.position? column with
  | some i => return e.rows.map fun row => row.getD i .null
  | none => return e.rows.map fun _ => .text column

/-- Columns are listed by a function that is called as if it were a table. Any table or view of its
name takes its place. -/
def columnLister : String := "pragma_table_info"

/-- Why no columns can be listed, if something takes the place of the function. -/
def listerError? (c : Catalog) : Option EngineError :=
  match c.readable? columnLister with
  | none => none
  | some (.computed name false _ extent _) =>
    if (extent.position? "cid").isNone then some (noSuchColumn "cid")
    else some ⟨.operational, s!"too many arguments on {name}() - max 0"⟩
  | some _ => some ⟨.operational, s!"'{columnLister}' is not a function"⟩

def columnsOf (c : Catalog) (table : String) : Except EngineError (List Column) :=
  match c.listerError? with
  | some e => .error e
  | none =>
    if (c.readable? table).isSome then (c.fullExtent table).map FullExtent.listed else .ok []

/-- The tables and views of a name, ignoring the case of ASCII letters. -/
def namedTables (c : Catalog) (name : String) : List SchemaObject :=
  c.filter fun o => (o.kind == "table" || o.kind == "view") && sameName o.name name

/-- The generating texts of the objects of exactly this kind and name. -/
def definitions (c : Catalog) (kind name : String) : List (Option String) :=
  (c.filter fun o => o.kind == kind && o.name == name).map SchemaObject.sql

/-- The names and generating texts of the objects of a kind whose name matches a pattern. -/
def definitionsLike (c : Catalog) (kind pattern : String) : List (String × Option String) :=
  (c.filter fun o => o.kind == kind &&
    Identifier.matchesPattern '\\' pattern.toList o.name.toList).map fun o => (o.name, o.sql)

end Catalog
end GeoConformance
