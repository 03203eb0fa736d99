import GeoConformance.Declared
import GeoConformance.SpatialIndex.Artifact

/-!
# Checks on spatial indexes

A declaration of a spatial index names a registered geometry column. Every registered column of a
table so declared must have all seven artifacts. The four update triggers are told apart by the
order of their names alone, so a missing one shifts those after it.
-/

namespace GeoConformance
namespace SpatialIndex

open Check

namespace Rule

def declarations : String := "/extensions/rtree/extensions-rows"
def implementation : String := "/extensions/rtree/implementation"

def all : List String := [declarations, implementation]

end Rule

def conformanceClass : String := "RTree Spatial Index Extension"

def requiredScope : String := "write-only"

def isApplicable : Check Bool := extensionActive [spatialIndexExtension]

/-- What is wrong with a declaration, given the registered geometry columns. -/
def declarationViolation? (d : Declaration) (registered : List (Value × Value)) :
    Option Violation :=
  let isRegistered := registered.any fun (table, column) =>
    d.table.same table && d.column.same column
  if d.column.isNull || !isRegistered then some (.invalidReference d.table d.column)
  else if d.scope.same (.text requiredScope) then none
  else some (.illegalScope (.text spatialIndexExtension) (.text requiredScope) d.scope)

def declaration (registered : List (Value × Value)) (d : Declaration) : Check Unit :=
  ofViolation? (declarationViolation? d registered)

/-- A required artifact and the generating text that the package has for it. -/
structure Installed where
  requirement : Requirement
  sql : Option String
deriving DecidableEq

namespace Installed

def violation? (i : Installed) : Option Violation := i.requirement.violation? i.sql

end Installed

/-- All seven artifacts of the index on a column. -/
def installed (table column : Value) : Check (List Installed) :=
  match table, column with
  | .text table, .text column => do
    let base := Template.indexName table column
    let found (a : Artifact) (sql : Option String) : Installed := ⟨⟨a, table, column⟩, sql⟩
    let virtualTable ← definition (.text base) "table"
    let insert ← definition (.text s!"{base}_insert") "trigger"
    let updates ← definitionsFrom (.text s!"{base}_update") "trigger"
    let delete ← definition (.text s!"{base}_delete") "trigger"
    let texts := updates.map fun (_, sql) => sql
    return [found .virtualTable virtualTable, found .insertTrigger insert,
      found .updateTrigger1 texts[0]?.join, found .updateTrigger2 texts[1]?.join,
      found .updateTrigger3 texts[2]?.join, found .updateTrigger4 texts[3]?.join,
      found .deleteTrigger delete]
  | table, column => violate (.invalidReference table column)

def artifact (i : Installed) : Check Unit := ofViolation? i.violation?

/-- Everything that is wrong with the index on a column. -/
def violations (table column : Value) : Check (List Violation) := do
  return (← installed table column).filterMap Installed.violation?

end SpatialIndex
end GeoConformance
