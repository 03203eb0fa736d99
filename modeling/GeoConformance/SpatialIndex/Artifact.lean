import GeoConformance.Template
import GeoConformance.Violation

/-!
# The artifacts of a spatial index

A spatial index on a geometry column is a virtual table kept up to date by six triggers. Each of the
seven is required to have a generating text that fits its template.
-/

namespace GeoConformance
namespace SpatialIndex

open Template

inductive Artifact
  | virtualTable
  | insertTrigger
  /-- The geometry of a row changes and is not empty afterwards. -/
  | updateTrigger1
  /-- The geometry of a row becomes empty. -/
  | updateTrigger2
  /-- A row takes another key and its geometry is not empty. -/
  | updateTrigger3
  /-- A row takes another key and its geometry is empty. -/
  | updateTrigger4
  | deleteTrigger
deriving DecidableEq

namespace Artifact

def all : List Artifact :=
  [.virtualTable, .insertTrigger, .updateTrigger1, .updateTrigger2, .updateTrigger3,
   .updateTrigger4, .deleteTrigger]

def updateTriggers : List Artifact :=
  [.updateTrigger1, .updateTrigger2, .updateTrigger3, .updateTrigger4]

def title : Artifact → String
  | .virtualTable => "virtual table"
  | .insertTrigger => "insert trigger"
  | .updateTrigger1 => "update trigger 1"
  | .updateTrigger2 => "update trigger 2"
  | .updateTrigger3 => "update trigger 3"
  | .updateTrigger4 => "update trigger 4"
  | .deleteTrigger => "delete trigger"

def ofTitle (title : String) : Except Misuse Artifact :=
  match all.find? (·.title == title) with
  | some a => .ok a
  | none => .error (.unknownArtifact title)

/-- What follows the name of the index in the name of a trigger. -/
def suffix? : Artifact → Option String
  | .virtualTable => none
  | .insertTrigger => some "insert"
  | .updateTrigger1 => some "update1"
  | .updateTrigger2 => some "update2"
  | .updateTrigger3 => some "update3"
  | .updateTrigger4 => some "update4"
  | .deleteTrigger => some "delete"

def timing? (a : Artifact) : Option String := a.suffix?.map fun _ => "AFTER"

/-- The event of a trigger, with a placeholder for the column. -/
def event? : Artifact → Option String
  | .virtualTable => none
  | .insertTrigger => some "INSERT"
  | .updateTrigger1 => some "UPDATE OF {c}"
  | .updateTrigger2 => some "UPDATE OF {c}"
  | .updateTrigger3 => some "UPDATE OF {c}"
  | .updateTrigger4 => some "UPDATE"
  | .deleteTrigger => some "DELETE"

def bounds : String := "ST_MinX(NEW.{c}), ST_MaxX(NEW.{c}), ST_MinY(NEW.{c}), ST_MaxY(NEW.{c})"

def text : Artifact → String
  | .virtualTable => "CREATE VIRTUAL TABLE {rtree} USING rtree(id, minx, maxx, miny, maxy)"
  | .insertTrigger =>
    "CREATE TRIGGER {trigger} AFTER INSERT ON {t} " ++
    "WHEN (NEW.{c} NOT NULL AND NOT ST_IsEmpty(NEW.{c})) " ++
    "BEGIN INSERT OR REPLACE INTO {rtree} VALUES (NEW.{i}, " ++ bounds ++ "); END"
  | .updateTrigger1 =>
    "CREATE TRIGGER {trigger} AFTER UPDATE OF {c} ON {t} " ++
    "WHEN OLD.{i} = NEW.{i} AND (NEW.{c} NOT NULL AND NOT ST_IsEmpty(NEW.{c})) " ++
    "BEGIN INSERT OR REPLACE INTO {rtree} VALUES (NEW.{i}, " ++ bounds ++ "); END"
  | .updateTrigger2 =>
    "CREATE TRIGGER {trigger} AFTER UPDATE OF {c} ON {t} " ++
    "WHEN OLD.{i} = NEW.{i} AND (NEW.{c} IS NULL OR ST_IsEmpty(NEW.{c})) " ++
    "BEGIN DELETE FROM {rtree} WHERE {i} = OLD.{i}; END"
  | .updateTrigger3 =>
    "CREATE TRIGGER {trigger} AFTER UPDATE OF {c} ON {t} " ++
    "WHEN OLD.{i} != NEW.{i} AND (NEW.{c} NOT NULL AND NOT ST_IsEmpty(NEW.{c})) " ++
    "BEGIN DELETE FROM {rtree} WHERE {i} = OLD.{i}; " ++
    "INSERT OR REPLACE INTO {rtree} VALUES (NEW.{i}, " ++ bounds ++ "); END"
  | .updateTrigger4 =>
    "CREATE TRIGGER {trigger} AFTER UPDATE ON {t} " ++
    "WHEN OLD.{i} != NEW.{i} AND (NEW.{c} IS NULL OR ST_IsEmpty(NEW.{c})) " ++
    "BEGIN DELETE FROM {rtree} WHERE {i} IN (OLD.{i}, NEW.{i}); END"
  | .deleteTrigger =>
    "CREATE TRIGGER {trigger} AFTER DELETE ON {t} WHEN OLD.{c} NOT NULL " ++
    "BEGIN DELETE FROM {rtree} WHERE {i} = OLD.{i}; END"

end Artifact

/-- An artifact of the index on one column. -/
structure Requirement where
  artifact : Artifact
  table : String
  column : String
deriving DecidableEq

namespace Requirement

/-- The name of the schema object. -/
def name (r : Requirement) : String :=
  let base := indexName r.table r.column
  match r.artifact.suffix? with
  | some suffix => s!"{base}_{suffix}"
  | none => base

def event? (r : Requirement) : Option String :=
  r.artifact.event?.map fun event =>
    String.ofList (Text.replaceAll ['{', 'c', '}'] r.column.toList event.toList)

/-- Only a trigger has its own name among its placeholders. -/
def binding (r : Requirement) : Binding where
  table := r.table
  column := r.column
  trigger := r.artifact.suffix?.map fun _ => r.name

/-- Whether a generating text is as required; one that is absent is not. -/
def isMetBy (r : Requirement) (sql : Option String) : Bool :=
  sql.any fun text => fits r.artifact.text r.binding (Text.trim text)

def violation? (r : Requirement) (sql : Option String) : Option Violation :=
  if r.isMetBy sql then none
  else some (.triggerDefinition (.text r.artifact.title) (.text r.table)
    (sql.elim .null Value.text))

end Requirement
end SpatialIndex
end GeoConformance
