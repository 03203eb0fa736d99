import GeoConformance.Value

/-!
# Violations

The ways in which a package can fail to conform. A violation keeps what was found, as stored, and
its wording is a function of that.
-/

namespace GeoConformance

inductive Violation
  | general (message : String) (expected actual : Value)
  | missingTable (table : Value)
  /-- `missing` has one bit for every expected column that is absent or of the wrong shape. -/
  | schema (table : Value) (missing : Int) (reasons : List (String × String))
  | notPrimaryKey (table expected actual : Value)
  | orphanReference (mappingTable idColumn value referencedTable : Value) (orphans : List Value)
  | notInContents (table role source : Value)
  | triggerDefinition (artifact table sql : Value)
  | extensionRow (what extension : Value)
  | relationName (name baseTable : Value)
  | invalidReference (table column : Value)
  | illegalScope (extension expected actual : Value)
  | columnShape (table column reason : Value)
  | contentsType (table expected actual : Value)
deriving DecidableEq

namespace Violation

def kind : Violation → String
  | .general .. => "Violation"
  | .missingTable .. => "MissingTable"
  | .schema .. => "SchemaViolation"
  | .notPrimaryKey .. => "NotPrimaryKey"
  | .orphanReference .. => "OrphanReference"
  | .notInContents .. => "NotInContents"
  | .triggerDefinition .. => "TriggerDefinitionInvalid"
  | .extensionRow .. => "ExtensionRowInvalid"
  | .relationName .. => "RelationNameInvalid"
  | .invalidReference .. => "InvalidReference"
  | .illegalScope .. => "IllegalScope"
  | .columnShape .. => "ColumnInvalid"
  | .contentsType .. => "ContentsTypeInvalid"

/-- Binary digits, with the mark that says so. -/
def maskText (mask : Int) : String :=
  (if mask < 0 then "-0b" else "0b") ++ String.ofList (Nat.toDigits 2 mask.natAbs)

def message : Violation → String
  | .general message .. => message
  | .missingTable table => s!"The {table.shown} table is missing."
  | .schema table missing reasons =>
    let parts := "; ".intercalate (reasons.map fun (name, why) => s!"{name}: {why}")
    s!"The table {table.shown} failed column checks (missing mask {maskText missing}): {parts}"
  | .notPrimaryKey table expected _ =>
    s!"The column {expected.shown} is not the primary key of table {table.shown}."
  | .orphanReference mappingTable idColumn value _ orphans =>
    let role := if idColumn.same (.text "base_id") then "base" else "related"
    let first := s!"There is no {role} table row for mapping table {mappingTable.shown}" ++
      s!" id {value.shown}."
    if 1 < orphans.length then
      first ++ s!" ({orphans.length} unmatched values in {idColumn.shown})"
    else first
  | .notInContents table role source =>
    let subject := if role.isPresent then s!"The {role.shown} table" else "The table"
    s!"{subject} {table.shown} from {source.shown} does not exist in the contents table."
  | .triggerDefinition artifact table _ =>
    s!"The RTree {artifact.shown} definition for table {table.shown} is invalid."
  | .extensionRow what extension =>
    s!"Required row ({what.shown}) for the {extension.shown} is missing from gpkg_extensions."
  | .relationName name baseTable =>
    s!"The relation name ({name.shown}) in gpkgext_relations" ++
      s!" for base table name {baseTable.shown} is not valid."
  | .invalidReference table column =>
    s!"The gpkg_rtree_index extension row for {table.shown}.{column.shown}" ++
      " does not reference a registered geometry column."
  | .illegalScope extension expected _ =>
    s!"The {extension.shown} extension must use scope {expected.shown}."
  | .columnShape table column reason =>
    s!"The column {column.shown} of table {table.shown} is invalid: {reason.shown}."
  | .contentsType table _ _ =>
    s!"The table {table.shown} has the wrong data_type in gpkg_contents."

/-- The expected and the actual value, where the violation is about one. -/
def comparison : Violation → Value × Value
  | .general _ expected actual => (expected, actual)
  | .notPrimaryKey _ expected actual => (expected, actual)
  | .illegalScope _ expected actual => (expected, actual)
  | .contentsType _ expected actual => (expected, actual)
  | _ => (.null, .null)

def detail (v : Violation) : String :=
  match v.comparison with
  | (.null, .null) => v.message
  | (expected, actual) =>
    v.message ++ s!" expected [{expected.shown}] but found [{actual.shown}]"

end Violation
end GeoConformance
