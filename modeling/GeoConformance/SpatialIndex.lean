import GeoConformance.Agenda
import GeoConformance.SpatialIndex.Checks

/-!
# The suite for spatial indexes

First the declarations are held against the registered geometry columns, then the artifacts of each
indexed column against their templates. A declaration without a registered column leaves nothing to
index, which the first rule reports.
-/

namespace GeoConformance
namespace SpatialIndex

/-- How a column of a table is named as a subject. -/
def subject (table column : Value) : String := s!"{table.shown}.{column.shown}"

/-- The evaluations of all artifacts of each column in turn. -/
def onColumns : List (Value × Value) → Agenda
  | [] => .done
  | (table, column) :: rest =>
    .gather [Rule.implementation] (.text (subject table column)) (installed table column)
      (fun artifacts => .evaluateAll (artifacts.map fun i =>
          ⟨Rule.implementation,
            .text s!"{subject table column} ({i.requirement.artifact.title})", artifact i⟩)
        (onColumns rest))
      (onColumns rest)

def onImplementation : Agenda :=
  .gather [Rule.implementation] (.text geometryColumnsTable) Check.indexedGeometryColumns
    onColumns .done

def onDeclarations (registered : List (Value × Value)) : Agenda :=
  .gather [Rule.declarations] (.text extensionsTable) Check.spatialIndexDeclarations
    (fun rows => .evaluateAll (rows.map fun d =>
        ⟨Rule.declarations, .text (subject d.table d.column), declaration registered d⟩)
      onImplementation)
    onImplementation

def agenda : Agenda :=
  .gather Rule.all (.text extensionsTable) isApplicable
    (fun applicable =>
      if applicable then
        .gather [Rule.declarations] (.text geometryColumnsTable) Check.geometryColumns
          onDeclarations onImplementation
      else .skipAll Rule.all (Failure.inapplicable (.text conformanceClass)).message)
    .done

end SpatialIndex
end GeoConformance
