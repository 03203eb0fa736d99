import GeoConformance.Reference
import GeoConformance.RelationName
import GeoConformance.RelatedTables.Rule

/-!
# Checks on related tables

One check for each rule. The relations table and every mapping table have to be declared as
extensions, the relations table names base, related and mapping tables, and each mapping table joins
the primary keys of the other two.
-/

namespace GeoConformance
namespace RelatedTables

open Check

def isApplicable : Check Bool := extensionActive relatedTablesExtensions

/-- Only the first declaration of the relations table counts. -/
def relationsTableDeclared : Check Unit := do
  let rows := (← declarations).filter fun d => d.table.same (.text relationsTable)
  match rows with
  | [] => violate (missingRow relationsTable)
  | d :: _ =>
    let wrong := flaws d true
    require wrong.isEmpty (flawedRow relationsTable wrong)

def mappingRows : Check (List Declaration) := do
  let rows ← mappingDeclarations relatedTablesExtensions
  require (!rows.isEmpty) (missingRow "at least one mapping table row")
  return rows

def mappingTablesDeclared : Check Unit := do
  forEach (fun d => requireTable d.table) (← mappingRows)

def mappingRow (d : Declaration) : Check Unit := ofViolation? (mappingRowViolation? d)

def relationsDefinition : Check Unit := do
  let table := Value.text relationsTable
  requireTable table
  requirePrimaryKey table (.text "id")
  requireColumns table relationsColumns

def relationNameViolation? (r : Relation) : Option Violation :=
  if RelationName.isValid r.name then none else some (.relationName r.name r.baseTable)

def relationName (r : Relation) : Check Unit := ofViolation? (relationNameViolation? r)

def mappingTable (table : Value) : Check Unit := do
  requireTable table
  requireColumns table mappingColumns

def mappingBase (r : Relation) : Check Unit := do
  requireReferences r.mappingTable (.text "base_id") r.baseTable r.baseColumn
  requirePrimaryKey r.baseTable r.baseColumn

def mappingRelated (r : Relation) : Check Unit := do
  requireReferences r.mappingTable (.text "related_id") r.relatedTable r.relatedColumn
  requirePrimaryKey r.relatedTable r.relatedColumn

/-- A related table with attributes has a primary key and is listed as such in the contents. -/
def attributesTable (table : Value) : Check Unit := do
  requireTable table
  let key ← primaryKey table
  require (!key.isEmpty)
    (.columnShape table (.text "(primary key)") (.text "table has no primary key"))
  let type ← contentsType table
  require (type.same (.text "attributes")) (.contentsType table (.text "attributes") type)

def mediaTable (table : Value) : Check Unit := do
  attributesTable table
  requireColumns table mediaColumns

def simpleColumn (table : Value) (c : Column) : Check Unit :=
  let type := c.type.getD ""
  let shown := if type.isEmpty then "none" else type
  require (c.keyPosition != 0 || !disallowedTypes.contains (canonicalType type))
    (.columnShape table (.text c.name) (.text s!"type {shown} is not allowed"))

def simpleAttributesTable (table : Value) : Check Unit := do
  attributesTable table
  forEach (simpleColumn table) (← columns table)

end RelatedTables
end GeoConformance
