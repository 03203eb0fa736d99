import GeoConformance.Declared

/-!
# References between tables

A package declares no foreign keys, so references are followed value by value. A null refers to
nothing. The columns are known to exist before any value is read, since the engine would take an
unknown quoted column for a text.
-/

namespace GeoConformance
namespace Check

def requireTable (table : Value) : Check Unit := do
  require (← tableExists table) (.missingTable table)

def requireColumn (table column : Value) : Check Unit := do
  let names := (← columns table).map fun c => Value.text c.name
  require (column.isIn names) (.columnShape table column (.text "column does not exist"))

/-- The names of a key as one value, null if there are none. -/
def keyText (key : List String) : Value :=
  if key.isEmpty then .null else .text (", ".intercalate key)

/-- The primary key consists of exactly one column, the expected one. -/
def requirePrimaryKey (table column : Value) : Check Unit := do
  requireTable table
  let key ← primaryKey table
  let isKey := match key with
    | [name] => column.same (.text name)
    | _ => false
  require isKey (.notPrimaryKey table column (keyText key))

/-- The values that are null or occur nowhere among the referenced ones. -/
def orphans (referenced values : List Value) : List Value :=
  Value.sort (values.filter fun v => v.isNull || !v.isIn referenced)

/-- Every value of a column of the mapping table occurs in the referenced column. -/
def requireReferences (mappingTable idColumn table column : Value) : Check Unit := do
  requireTable mappingTable
  requireTable table
  requireColumn mappingTable idColumn
  requireColumn table column
  let referenced ← columnValues table column
  match orphans referenced (← distinctValues mappingTable idColumn) with
  | [] => return
  | v :: rest => violate (.orphanReference mappingTable idColumn v table (v :: rest))

def requireInContents (table role : Value) : Check Unit := do
  require (← inContents table) (.notInContents table role (.text relationsTable))

end Check
end GeoConformance
