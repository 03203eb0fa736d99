import GeoConformance.Affinity
import GeoConformance.Agenda
import GeoConformance.Arrangement
import GeoConformance.Arrangement.Insertion
import GeoConformance.Arrangement.Merge
import GeoConformance.Bookkeeping
import GeoConformance.Catalog
import GeoConformance.Check
import GeoConformance.Collation
import GeoConformance.Column
import GeoConformance.Column.Expectation
import GeoConformance.CommandLine
import GeoConformance.CommandLine.Grammar
import GeoConformance.Deadline
import GeoConformance.Declared
import GeoConformance.Environment
import GeoConformance.Exchange
import GeoConformance.Failure
import GeoConformance.FileSystem
import GeoConformance.Identifier
import GeoConformance.Inspection
import GeoConformance.Launch
import GeoConformance.Main
import GeoConformance.Number
import GeoConformance.Number.Decimal
import GeoConformance.Number.Numeral
import GeoConformance.Number.Real64
import GeoConformance.Outcome
import GeoConformance.Package
import GeoConformance.Path
import GeoConformance.Query
import GeoConformance.Reference
import GeoConformance.RelatedTables
import GeoConformance.RelatedTables.Checks
import GeoConformance.RelatedTables.Rule
import GeoConformance.RelationName
import GeoConformance.Report
import GeoConformance.Service
import GeoConformance.Session
import GeoConformance.SpatialIndex
import GeoConformance.SpatialIndex.Artifact
import GeoConformance.SpatialIndex.Checks
import GeoConformance.Template
import GeoConformance.Template.Lexeme
import GeoConformance.Template.Token
import GeoConformance.Text.Alphanumeric
import GeoConformance.Text.AsciiCase
import GeoConformance.Text.Blank
import GeoConformance.Text.CaseFolding
import GeoConformance.Text.CodePoint
import GeoConformance.Text.Digit
import GeoConformance.Text.Literal
import GeoConformance.Text.Printable
import GeoConformance.Text.Substitution
import GeoConformance.Text.UpperCase
import GeoConformance.Validation
import GeoConformance.Value
import GeoConformance.Value.Integer
import GeoConformance.Violation
import GeoConformance.Proofs.Agreement
import GeoConformance.Proofs.Bookkeeping
import GeoConformance.Proofs.CleanCourse
import GeoConformance.Proofs.Columns
import GeoConformance.Proofs.Endings
import GeoConformance.Proofs.Faults
import GeoConformance.Proofs.PrefixLookup
import GeoConformance.Proofs.References
import GeoConformance.Proofs.RelatedTables.Conformance
import GeoConformance.Proofs.RelatedTables.Shape
import GeoConformance.Proofs.RowOrder
import GeoConformance.Proofs.SpatialIndex.Conformance
import GeoConformance.Proofs.Template.Grammar
import GeoConformance.Proofs.Asked
import GeoConformance.Proofs.Cancellation
import GeoConformance.Proofs.Composition
import GeoConformance.Proofs.BreakingOff
import GeoConformance.Proofs.Subjects
import GeoConformance.Proofs.AddedTable
import GeoConformance.Proofs.Orphans
import GeoConformance.Proofs.Mismatches
import GeoConformance.Proofs.UnmetExpectations
import GeoConformance.Proofs.Template.Parts
import GeoConformance.Proofs.SpatialIndex.Recognition
import GeoConformance.Proofs.Template.Readings
import GeoConformance.Proofs.SpatialIndex.Keys
import GeoConformance.Proofs.Template.Respacing
import GeoConformance.Proofs.Template.Respelling
import GeoConformance.Proofs.SpatialIndex.Respelling
import GeoConformance.Proofs.Arrangement
import GeoConformance.Proofs.NamedTexts
import GeoConformance.Proofs.SpatialIndex.Index
import GeoConformance.Proofs.SpatialIndex.Removal
import GeoConformance.Proofs.SpatialIndex.Neighbours
import GeoConformance.Proofs.RelationNames
import GeoConformance.Proofs.Defaults
import GeoConformance.Proofs.Recording
import GeoConformance.Proofs.Quoting
import GeoConformance.Proofs.Numerals
import GeoConformance.Proofs.Failing
import GeoConformance.Proofs.CommandLine.Values
import GeoConformance.Proofs.Launch
import GeoConformance.Proofs.Wording.Lines
import GeoConformance.Proofs.Wording.Checks
import GeoConformance.Proofs.Wording.Outcomes
import GeoConformance.Proofs.CommandLine.Output
