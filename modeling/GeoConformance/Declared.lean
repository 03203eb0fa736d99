import GeoConformance.Inspection

/-!
# What a package declares

Reading the bookkeeping tables. An absent extensions or contents table declares nothing; the absence
of the relations table or of the geometry columns table is a violation where they are needed.
-/

namespace GeoConformance

def relatedTablesExtensions : List String := ["related_tables", "gpkg_related_tables"]

def spatialIndexExtension : String := "gpkg_rtree_index"

namespace Check

/-- The names without repetitions, in increasing order. -/
def sortedNames (names : List String) : List String :=
  names.eraseDups.mergeSort fun a b => !(b < a)

/-- Whether any of the extensions is declared. -/
def extensionActive (names : List String) : Check Bool := do
  if names.isEmpty then return false
  if !(← tableExists (.text extensionsTable)) then return false
  let count : Nat ← reply (.declarationCount (sortedNames names))
  return 0 < count

def declarations : Check (List Declaration) := do
  if ← tableExists (.text extensionsTable) then reply .declarations else return []

def declarationsFor (table : Value) (names : List String) : Check (List Declaration) := do
  return (← declarations).filter fun d => d.table.same table && d.isNamed names

/-- The declarations under some names of a table other than the relations table. -/
def mappingDeclarations (names : List String) : Check (List Declaration) := do
  return (← declarations).filter fun d =>
    d.isNamed names && !d.table.isNull && !d.table.same (.text relationsTable)

def relations : Check (List Relation) := do
  require (← tableExists (.text relationsTable)) (.missingTable (.text relationsTable))
  reply .relations

def inContents (table : Value) : Check Bool := do
  if !(← tableExists (.text contentsTable)) then return false
  let count : Nat ← reply (.contentsCount table)
  return 0 < count

/-- The data type of a table in the contents table, null if it has none. -/
def contentsType (table : Value) : Check Value := do
  if !(← tableExists (.text contentsTable)) then return .null
  let types : List Value ← reply (.contentsTypes table)
  return types.head?.getD .null

def geometryColumns : Check (List (Value × Value)) := do
  require (← tableExists (.text geometryColumnsTable)) (.missingTable (.text geometryColumnsTable))
  reply .geometryColumns

def spatialIndexDeclarations : Check (List Declaration) := do
  return (← declarations).filter (·.isNamed [spatialIndexExtension])

/-- The geometry columns of the tables that a spatial index is declared for. -/
def indexedGeometryColumns : Check (List (Value × Value)) := do
  let tables := (← spatialIndexDeclarations).map (·.table)
  return (← geometryColumns).filter fun (table, _) => table.isIn tables

end Check
end GeoConformance
