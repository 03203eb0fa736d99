import GeoConformance.Proofs.RelatedTables.Endings
import GeoConformance.Proofs.SpatialIndex.Endings

/-!
# How a validation ends

A validation of known suites reports, or ends with a fatal failure because the database broke at one
of the queries, or ends with a misuse because a stored name made one. The last happens only where a
suite is hindered, and then the package has kept itself from being reported on.
-/

namespace GeoConformance

/-- What a package holds keeps a suite from being carried to its end. -/
def Suite.IsHinderedBy (c : Catalog) (m : Misuse) : Suite → Prop
  | .relatedTables => RelatedTables.IsHinderedBy c m
  | .spatialIndex => SpatialIndex.IsHinderedBy c m

theorem Suite.endsOnlyBy_agenda {c : Catalog} {d : Deadline} (suite : Suite) :
    suite.agenda.EndsOnlyBy (fun m => suite.IsHinderedBy c m) c d := by
  cases suite with
  | relatedTables => exact RelatedTables.endsOnlyBy_agenda
  | spatialIndex => exact SpatialIndex.endsOnlyBy_agenda

namespace Validation

variable {c : Catalog} {looks : List QueryPattern} {faults : List Fault}

/-- The look-up of the extensions table finds the database malformed. -/
def corruption : Fault :=
  ⟨.existence, some extensionsTable, ⟨.database, "database disk image is malformed"⟩, false⟩

/-- The index on the geometry column of a table whose name holds a NUL. -/
def truncatedRoads : Catalog :=
  [.table extensionsTable ⟨Declaration.columnNames.map SpatialIndex.textColumn,
     [[.text "ro\x00ads", .text "geom", .text spatialIndexExtension, .text "Annex L",
       .text "write-only"]]⟩,
   .table geometryColumnsTable ⟨["table_name", "column_name"].map SpatialIndex.textColumn,
     [[.text "ro\x00ads", .text "geom"]]⟩]

end Validation
end GeoConformance
