import GeoConformance.Agenda
import GeoConformance.RelatedTables.Checks

/-!
# The suite for related tables

The declarations come first, then the definition of the relations table, then what its rows say.
Each table is looked at once for each rule, however many relations name it.
-/

namespace GeoConformance
namespace RelatedTables

/-- The evaluations that follow from the rows of the relations table. -/
def relationEvaluations (relations : List Relation) : List Evaluation :=
  let tables (name : Relation → Value) : List Value := Value.distinct (relations.map name)
  let ofKind (kind : String) : List Value :=
    Value.distinct ((relations.filter fun r => r.name.same (.text kind)).map Relation.relatedTable)
  let onTables (rule : String) (check : Value → Check Unit) (tables : List Value) :=
    tables.map fun table => Evaluation.mk rule table (check table)
  let onRelations (rule : String) (subject : Relation → Value) (check : Relation → Check Unit) :=
    relations.map fun r => Evaluation.mk rule (subject r) (check r)
  onTables Rule.baseTables Check.requireTable (tables Relation.baseTable) ++
  onTables Rule.baseContents (Check.requireInContents · (.text "base"))
    (tables Relation.baseTable) ++
  onTables Rule.relatedTables Check.requireTable (tables Relation.relatedTable) ++
  onTables Rule.relatedContents (Check.requireInContents · (.text "related"))
    (tables Relation.relatedTable) ++
  onTables Rule.mappingTables Check.requireTable (tables Relation.mappingTable) ++
  onRelations Rule.relationNames Relation.baseTable relationName ++
  onTables Rule.mappingSchema mappingTable (tables Relation.mappingTable) ++
  onRelations Rule.mappingBase Relation.mappingTable mappingBase ++
  onRelations Rule.mappingRelated Relation.mappingTable mappingRelated ++
  onTables Rule.mediaTables mediaTable (ofKind "media") ++
  onTables Rule.simpleAttributes simpleAttributesTable (ofKind "simple_attributes")

def onRelations : Agenda :=
  .gather Rule.onRelations (.text relationsTable) Check.relations
    (fun relations => .evaluateAll (relationEvaluations relations) .done) .done

def onRelationsTable : Agenda :=
  .evaluate Rule.relationsTable (.text relationsTable) relationsDefinition onRelations

def onDeclarations : Agenda :=
  .evaluate Rule.relationsDeclared (.text relationsTable) relationsTableDeclared <|
  .evaluate Rule.mappingsDeclared (.text extensionsTable) mappingTablesDeclared <|
  .gather [Rule.mappingRows] (.text extensionsTable) mappingRows
    (fun rows => .evaluateAll (rows.map fun d => ⟨Rule.mappingRows, d.table, mappingRow d⟩)
      onRelationsTable)
    onRelationsTable

def agenda : Agenda :=
  .gather Rule.all (.text extensionsTable) isApplicable
    (fun applicable =>
      if applicable then onDeclarations
      else .skipAll Rule.all (Failure.inapplicable (.text conformanceClass)).message)
    .done

end RelatedTables
end GeoConformance
