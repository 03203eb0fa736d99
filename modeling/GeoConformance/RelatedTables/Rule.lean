import GeoConformance.Declared

/-!
# The rules on related tables

The identifiers of the rules in the order in which skipped ones are reported, and what the rules
expect of declarations and columns.
-/

namespace GeoConformance
namespace RelatedTables

namespace Rule

def relationsDeclared : String := "/conf/table-defs/ger"
def mappingsDeclared : String := "/conf/table-defs/extensions-gerr"
def mappingRows : String := "/conf/table-defs/extensions-udmt"
def relationsTable : String := "/conf/table-defs/relations"
def baseTables : String := "/conf/table-defs/ger-base"
def baseContents : String := "/conf/table-defs/ger-base-contents"
def relatedTables : String := "/conf/table-defs/ger-related"
def relatedContents : String := "/conf/table-defs/ger-related-contents"
def mappingTables : String := "/conf/table-defs/ger-udmt"
def relationNames : String := "/conf/table-defs/ger-relname"
def mappingSchema : String := "/conf/table-defs/udmt"
def mappingBase : String := "/conf/table-defs/udmt-base"
def mappingRelated : String := "/conf/table-defs/udmt-related"
def mediaTables : String := "/conf/media/table-def"
def simpleAttributes : String := "/conf/simple-attributes/table-def"

/-- The rules that are evaluated on the relations or on the tables that they name. -/
def onRelations : List String :=
  [baseTables, baseContents, relatedTables, relatedContents, mappingTables, relationNames,
   mappingSchema, mappingBase, mappingRelated, mediaTables, simpleAttributes]

def all : List String :=
  [relationsDeclared, mappingsDeclared, mappingRows, relationsTable] ++ onRelations

end Rule

def conformanceClass : String := "Related Tables Extension"

def acceptedDefinitions : List String :=
  ["TBD", "http://docs.opengeospatial.org/is/18-000/18-000.html"]

def requiredScope : String := "read-write"

def relationsColumns : List ColumnExpectation :=
  let text (name : String) : ColumnExpectation :=
    { name, type := some (.text "TEXT"), notNull := some true }
  let key (name : String) : ColumnExpectation :=
    { text name with default := some (.text "'id'") }
  [{ name := "id" }, text "base_table_name", key "base_primary_column",
   text "related_table_name", key "related_primary_column", text "relation_name",
   text "mapping_table_name"]

def mappingColumns : List ColumnExpectation :=
  ["base_id", "related_id"].map fun name =>
    { name, type := some (.text "INTEGER"), notNull := some true, default := some .null
      key := some (.position (.number (.int 0))) }

def mediaColumns : List ColumnExpectation :=
  [("data", "BLOB"), ("content_type", "TEXT")].map fun (name, type) =>
    { name, type := some (.text type), notNull := some true }

/-- Canonical column types that a table of simple attributes has no use for. -/
def disallowedTypes : List String := ["BLOB", "NULL", ""]

/-- The attributes that a declaration gets wrong. The name of the extension is known already where
the declaration was found under it. -/
def flaws (d : Declaration) (checkName : Bool) : List String :=
  let accepts (values : List String) (v : Value) : Bool := v.isIn (values.map Value.text)
  [(!d.column.isNull, "column_name"),
   (checkName && !d.isNamed relatedTablesExtensions, "extension_name"),
   (!accepts acceptedDefinitions d.definition, "definition"),
   (!accepts [requiredScope] d.scope, "scope")].filterMap fun (isFlawed, name) =>
    if isFlawed then some name else none

def missingRow (what : String) : Violation := .extensionRow (.text what) (.text conformanceClass)

def flawedRow (table : String) (flaws : List String) : Violation :=
  let names := ", ".intercalate flaws
  missingRow s!"{table} - missing row flag(s) {names}"

/-- What is wrong with the declaration of a mapping table. -/
def mappingRowViolation? (d : Declaration) : Option Violation :=
  match flaws d false with
  | [] => none
  | wrong => some (flawedRow d.table.shown wrong)

end RelatedTables
end GeoConformance
