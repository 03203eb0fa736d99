import GeoConformance.Catalog

/-!
# The bookkeeping tables

Four tables say what a package claims about itself: the extensions it declares, its contents, its
geometry columns and its relations. Their rows are taken as stored; nothing obliges them to hold
texts.
-/

namespace GeoConformance

def extensionsTable : String := "gpkg_extensions"
def contentsTable : String := "gpkg_contents"
def geometryColumnsTable : String := "gpkg_geometry_columns"
def relationsTable : String := "gpkgext_relations"

/-- A row of the extensions table. -/
structure Declaration where
  table : Value
  column : Value
  extensionName : Value
  definition : Value
  scope : Value
deriving DecidableEq

namespace Declaration

def columnNames : List String :=
  ["table_name", "column_name", "extension_name", "definition", "scope"]

def ofRow (row : Row) : Declaration where
  table := row.getD 0 .null
  column := row.getD 1 .null
  extensionName := row.getD 2 .null
  definition := row.getD 3 .null
  scope := row.getD 4 .null

def isNamed (d : Declaration) (names : List String) : Bool :=
  d.extensionName.isIn (names.map Value.text)

end Declaration

/-- A row of the relations table. -/
structure Relation where
  id : Value
  baseTable : Value
  baseColumn : Value
  relatedTable : Value
  relatedColumn : Value
  name : Value
  mappingTable : Value
deriving DecidableEq

namespace Relation

/-- A column counts as present only under its exact name, but is read up to ASCII case. -/
def field (columns : List Column) (row : Row) (name : String) (absent : Value) : Value :=
  if columns.any (·.name == name) then
    match columns.findIdx? fun c => Text.sameName c.name name with
    | some i => row.getD i .null
    | none => absent
  else absent

/-- The two key columns default to `id`. -/
def ofRow (columns : List Column) (row : Row) : Relation :=
  let get (name : String) (absent : Value) : Value := field columns row name absent
  { id := get "id" .null
    baseTable := get "base_table_name" .null
    baseColumn := get "base_primary_column" (.text "id")
    relatedTable := get "related_table_name" .null
    relatedColumn := get "related_primary_column" (.text "id")
    name := get "relation_name" .null
    mappingTable := get "mapping_table_name" .null }

end Relation
end GeoConformance
