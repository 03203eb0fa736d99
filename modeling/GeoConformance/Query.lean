import GeoConformance.Bookkeeping

/-!
# Queries

Everything that a check asks of a database is one of these queries. A query has a text, which names
it in failures, and an answer in every catalog.
-/

namespace GeoConformance

inductive Query
  /-- How many tables and views have this name. -/
  | tableCount (name : String)
  /-- The generating texts of the objects of this kind and name. -/
  | definitions (kind name : String)
  /-- Names and generating texts of the objects of this kind whose name starts like this. -/
  | definitionsFrom (kind start : String)
  | columns (table : String)
  /-- How many declarations are of one of these extensions. -/
  | declarationCount (names : List String)
  | declarations
  | relations
  /-- How many rows of the contents table are for this table. -/
  | contentsCount (table : Value)
  | contentsTypes (table : Value)
  | geometryColumns
  | distinctValues (table column : String)
  | columnValues (table column : String)
deriving DecidableEq

/-- The places at which queries can be told apart from outside, and each query by itself. -/
inductive QueryPoint
  | existence
  | schema
  | triggers
  | columns
  | rows
  | only (q : Query)
deriving DecidableEq

namespace Query

abbrev Reply : Query → Type
  | .tableCount _ => Nat
  | .definitions _ _ => List (Option String)
  | .definitionsFrom _ _ => List (String × Option String)
  | .columns _ => List Column
  | .declarationCount _ => Nat
  | .declarations => List Declaration
  | .relations => List Relation
  | .contentsCount _ => Nat
  | .contentsTypes _ => List Value
  | .geometryColumns => List (Value × Value)
  | .distinctValues _ _ => List Value
  | .columnValues _ _ => List Value

def point : Query → QueryPoint
  | .tableCount _ => .existence
  | .definitions _ _ => .schema
  | .definitionsFrom _ _ => .triggers
  | .columns _ => .columns
  | _ => .rows

/-- The name that a query is about: the object, the start of the names, or the table it reads. -/
def subject : Query → String
  | .tableCount name => name
  | .definitions _ name => name
  | .definitionsFrom _ start => start
  | .columns table => table
  | .declarationCount _ => extensionsTable
  | .declarations => extensionsTable
  | .relations => relationsTable
  | .contentsCount _ => contentsTable
  | .contentsTypes _ => contentsTable
  | .geometryColumns => geometryColumnsTable
  | .distinctValues table _ => table
  | .columnValues table _ => table

/-- The text of a query, with a question mark for each parameter. -/
def sql : Query → String
  | .tableCount _ =>
    "SELECT COUNT(*) FROM sqlite_master " ++
      "WHERE type IN ('table', 'view') AND name = ? COLLATE NOCASE"
  | .definitions _ _ => "SELECT sql FROM sqlite_master WHERE type = ? AND name = ?"
  | .definitionsFrom _ _ =>
    "SELECT name, sql FROM sqlite_master WHERE type = ? AND name LIKE ? ESCAPE '\\'"
  | .columns _ => "SELECT * FROM pragma_table_info(?) ORDER BY cid"
  | .declarationCount names =>
    let marks := ", ".intercalate (names.map fun _ => "?")
    s!"SELECT COUNT(*) FROM {extensionsTable} WHERE extension_name IN ({marks})"
  | .declarations =>
    let columns := ", ".intercalate Declaration.columnNames
    s!"SELECT {columns} FROM {extensionsTable}"
  | .relations => s!"SELECT * FROM {relationsTable}"
  | .contentsCount _ => s!"SELECT COUNT(*) FROM {contentsTable} WHERE table_name = ?"
  | .contentsTypes _ => s!"SELECT data_type FROM {contentsTable} WHERE table_name = ?"
  | .geometryColumns => s!"SELECT table_name, column_name FROM {geometryColumnsTable}"
  | .distinctValues table column =>
    s!"SELECT DISTINCT {Identifier.quoted column} FROM {Identifier.quoted table}"
  | .columnValues table column =>
    s!"SELECT {Identifier.quoted column} FROM {Identifier.quoted table}"

/-- The answer of a database whose engine raises nothing of its own. -/
def answer (c : Catalog) : (q : Query) → Except EngineError q.Reply
  | .tableCount name => .ok (c.namedTables name).length
  | .definitions kind name => .ok (c.definitions kind name)
  | .definitionsFrom kind start =>
    .ok (c.definitionsLike kind (Identifier.escapeWildcards "\\" start ++ "%"))
  | .columns table => c.columnsOf table
  | .declarationCount names => do
    let e ← c.select extensionsTable ["extension_name"]
    let k := c.collationOf extensionsTable "extension_name"
    return (e.rows.filter fun row => names.any fun name => e.takesAt k 0 row (.text name)).length
  | .declarations => do
    let e ← c.select extensionsTable Declaration.columnNames
    return e.rows.map Declaration.ofRow
  | .relations => do
    let e ← c.extent relationsTable
    return e.rows.map (Relation.ofRow e.columns)
  | .contentsCount table => do
    let e ← c.select contentsTable ["table_name"]
    return (e.rowsWith (c.collationOf contentsTable "table_name") 0 table).length
  | .contentsTypes table => do
    let e ← c.select contentsTable ["data_type", "table_name"]
    let k := c.collationOf contentsTable "table_name"
    return (e.rowsWith k 1 table).map fun row => row.getD 0 .null
  | .geometryColumns => do
    let e ← c.select geometryColumnsTable ["table_name", "column_name"]
    return e.rows.map fun row => (row.getD 0 .null, row.getD 1 .null)
  | .distinctValues table column =>
    (c.quotedColumn table column).map (Value.distinctUnder (c.collationOf table column))
  | .columnValues table column => c.quotedColumn table column

end Query

/-- Some queries: those at a point, or of these only the ones about one name. -/
structure QueryPattern where
  point : QueryPoint
  name : Option String
deriving DecidableEq

def QueryPattern.covers (p : QueryPattern) (q : Query) : Bool :=
  (p.point == q.point || p.point == .only q) && p.name.all (· == q.subject)

end GeoConformance
