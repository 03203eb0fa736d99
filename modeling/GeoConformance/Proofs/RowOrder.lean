import GeoConformance.Proofs.RelatedTables.Conformance
import GeoConformance.Proofs.RelatedTables.RowOrder
import GeoConformance.Proofs.SpatialIndex.RowOrder

/-!
# The order of rows and the verdicts

Databases whose tables hold the same rows in different orders are reported on alike, rule by rule
and subject by subject. What must not be left to the order is which of several declarations of the
relations table comes first, since the others are never looked at.
-/

namespace GeoConformance
namespace Validation

variable {c c' : Catalog}

theorem ledger_perm (h : c.Reorders c') (once : c.ListsOnce)
    (alike : RelatedTables.RelationsDeclaredAlike c) (names : RelatedTables.RelatesNames c)
    (apart : RelatedTables.KeepsIdsApart c) (d : Deadline) (suites : List Suite) :
    (ledger c d suites).Perm (ledger c' d suites) := by
  refine List.Perm.flatMap_left _ fun suite _ => ?_
  cases suite with
  | relatedTables => exact RelatedTables.agenda_perm h once alike names apart
  | spatialIndex => exact SpatialIndex.agenda_perm h once

/-- Where the declarations of the relations table are all as required or none is, no table is listed
twice in the contents, relations name tables by texts and different identifiers are kept apart, the
order of rows decides neither whether there is a report nor what it says of any rule on any subject.
-/
theorem validate_reordered (h : c.Reorders c') (once : c.ListsOnce)
    (alike : RelatedTables.RelationsDeclaredAlike c) (names : RelatedTables.RelatesNames c)
    (apart : RelatedTables.KeepsIdsApart c) (suites : List String) (d : Deadline)
    (package : Option String) :
    ((∃ left r, validate (.undisturbed c) suites d (.empty package) = (.ok (), left, r)) ↔
      ∃ left r, validate (.undisturbed c') suites d (.empty package) = (.ok (), left, r)) ∧
    ∀ left left' r r',
      validate (.undisturbed c) suites d (.empty package) = (.ok (), left, r) →
      validate (.undisturbed c') suites d (.empty package) = (.ok (), left', r') →
      (r.outcomes.map fun o => (o.rule, o.subject, o.status)).Perm
        (r'.outcomes.map fun o => (o.rule, o.subject, o.status)) := by
  cases selected : Suite.select suites with
  | error m => simp [validate, selected]
  | ok chosen =>
    rw [validate_eq selected, validate_eq selected, Course.onto, Course.onto]
    obtain ⟨together, perm⟩ := (follows_ledger chosen).perm (follows_ledger chosen)
      (ledger_perm h once alike names apart d chosen)
    constructor
    · constructor
      · rintro ⟨left, r, report⟩
        rw [Prod.mk.injEq] at report
        exact ⟨_, _, Prod.ext (together.1 report.1) rfl⟩
      · rintro ⟨left, r, report⟩
        rw [Prod.mk.injEq] at report
        exact ⟨_, _, Prod.ext (together.2 report.1) rfl⟩
    · intro left left' r r' report report'
      rw [Prod.mk.injEq, Prod.mk.injEq] at report report'
      obtain ⟨ended, -, rfl⟩ := report
      obtain ⟨-, -, rfl⟩ := report'
      exact perm ended

section Samples

open RelatedTables

/-- The rows of every table the other way round. -/
def reversed (c : Catalog) : Catalog :=
  c.map fun
    | .table name extent traits => .table name { extent with rows := extent.rows.reverse } traits
    | .computed name isView sql extent traits =>
      .computed name isView sql { extent with rows := extent.rows.reverse } traits
    | o => o

theorem reorders_reversed (c : Catalog) : c.Reorders (reversed c) := by
  unfold Catalog.Reorders reversed
  rw [List.forall₂_map_right_iff, List.forall₂_same]
  intro o _
  cases o with
  | table name extent traits => exact .table ⟨rfl, extent.rows.reverse_perm.symm⟩
  | computed name isView sql extent traits => exact .computed ⟨rfl, extent.rows.reverse_perm.symm⟩
  | view name source => exact .view name source
  | entry name kind sql => exact .entry name kind sql

theorem photographedPlaces_listsOnce : photographedPlaces.ListsOnce := by
  intro e selected table
  have listed : photographedPlaces.select contentsTable ["table_name"] =
      .ok ⟨[requiredColumn "table_name" "TEXT"], [[.text "places"], [.text "photos"]]⟩ := rfl
  have binary : photographedPlaces.collationOf contentsTable "table_name" = .binary := rfl
  have isText : (requiredColumn "table_name" "TEXT").affinity ≠ .numeric := by decide
  rw [listed] at selected
  cases selected
  rw [binary]
  by_cases first : "places" = table
  · rw [← first]
    decide
  · have other : ¬ (requiredColumn "table_name" "TEXT").takes .binary (.text "places")
        (.text table) = true := fun takes => first ((Column.takes_text_iff isText).1 takes)
    rw [Extent.rowsWith, List.filter_cons_of_neg (by simpa [Extent.takesAt] using other)]
    exact List.length_filter_le _ _

theorem photographedPlaces_alike : RelationsDeclaredAlike photographedPlaces := by
  intro ds declared e he e' he' table table'
  rw [declared.unique photographedPlaces_declares] at he'
  simp only [List.mem_cons, List.not_mem_nil, or_false] at he'
  rcases he' with rfl | rfl
  · exact fun _ _ => ⟨.inl rfl, rfl, .inl rfl, rfl⟩
  · exact fun _ _ => ⟨.inl rfl, rfl, .inl rfl, rfl⟩

theorem photographedPlaces_names : RelatesNames photographedPlaces := by
  intro rs related r hr
  have usable := photographedPlaces_namesUsable.relations rs related r hr
  have isName : ∀ {v : Value}, v.IsUsable → v.IsName := fun ⟨s, eq, _⟩ => .inr ⟨s, eq⟩
  exact ⟨isName usable.baseTable, isName usable.relatedTable, isName usable.mappingTable⟩

/-- A package is reported on alike when the rows of all its tables are the other way round. -/
theorem photographedPlaces_reversed :
    photographedPlaces.Reorders (reversed photographedPlaces) ∧ photographedPlaces.ListsOnce ∧
      RelationsDeclaredAlike photographedPlaces ∧ RelatesNames photographedPlaces ∧
      KeepsIdsApart photographedPlaces ∧
      ∃ left left' r r', validate (.undisturbed photographedPlaces) ["related_tables"] ⟨none, false⟩
          (.empty none) = (.ok (), left, r) ∧
        validate (.undisturbed (reversed photographedPlaces)) ["related_tables"] ⟨none, false⟩
          (.empty none) = (.ok (), left', r') ∧
        (r.outcomes.map fun o => (o.rule, o.subject, o.status)).Perm
          (r'.outcomes.map fun o => (o.rule, o.subject, o.status)) := by
  have reorders := reorders_reversed photographedPlaces
  obtain ⟨together, perm⟩ := validate_reordered reorders photographedPlaces_listsOnce
    photographedPlaces_alike photographedPlaces_names photographedPlaces_keepsIdsApart
    ["related_tables"] ⟨none, false⟩ none
  have declared : photographedPlaces.DeclaresExtension relatedTablesExtensions :=
    ⟨_, ⟨_, rfl, rfl⟩, _, List.mem_cons_self, "related_tables", by decide, rfl⟩
  have clean := (isClean_agenda (d := ⟨none, false⟩) declared photographedPlaces_keepsIdsApart).2
    ⟨rfl, photographedPlaces_conforms, photographedPlaces_namesUsable⟩
  have known : Suite.select ["related_tables"] = .ok [.relatedTables] := rfl
  obtain ⟨r, report, -⟩ := (exists_clean_report_iff known none).2 clean
  obtain ⟨left', r', report'⟩ := together.1 ⟨_, r, report⟩
  exact ⟨reorders, photographedPlaces_listsOnce, photographedPlaces_alike, photographedPlaces_names,
    photographedPlaces_keepsIdsApart, _, left', r, r', report, report',
    perm _ _ r r' report report'⟩

/-- The relations table declared twice, under both names of the extension and once as required. -/
def twiceDeclared : Catalog :=
  [.table extensionsTable ⟨Declaration.columnNames.map (requiredColumn · "TEXT"),
    [declarationRow relationsTable,
     [.text relationsTable, .null, .text "gpkg_related_tables", .text "TBD", .text "read-only"]]⟩]

/-- Which of two declarations of the relations table is stored first decides a verdict. -/
theorem twiceDeclared_reversed :
    twiceDeclared.Reorders (reversed twiceDeclared) ∧ twiceDeclared.ListsOnce ∧
      RelatesNames twiceDeclared ∧
      (∀ ds, twiceDeclared.Declares ds →
        (ds.map fun e => (e.table, e.column, e.extensionName)).Nodup) ∧
      ∃ left left' r r', validate (.undisturbed twiceDeclared) ["related_tables"] ⟨none, false⟩
          (.empty none) = (.ok (), left, r) ∧
        validate (.undisturbed (reversed twiceDeclared)) ["related_tables"] ⟨none, false⟩
          (.empty none) = (.ok (), left', r') ∧
        ¬ (r.outcomes.map fun o => (o.rule, o.subject, o.status)).Perm
          (r'.outcomes.map fun o => (o.rule, o.subject, o.status)) := by
  have declared : ∀ c : Catalog, ∀ rows, c.Shows extensionsTable ["extension_name"] rows →
      [.text "related_tables"] ∈ rows → c.DeclaresExtension relatedTablesExtensions :=
    fun c rows shown member => ⟨rows, shown, _, member, "related_tables", by decide, rfl⟩
  have first : Suite.relatedTables.agenda.courseIn twiceDeclared ⟨none, false⟩ = _ :=
    courseIn_agenda (declared _ _ ⟨_, rfl, rfl⟩ (by decide))
  have second : Suite.relatedTables.agenda.courseIn (reversed twiceDeclared) ⟨none, false⟩ = _ :=
    courseIn_agenda (declared _ _ ⟨_, rfl, rfl⟩ (by decide))
  refine ⟨reorders_reversed _, ?_, ?_, ?_, ?_⟩
  · intro e selected
    cases selected
  · rintro rs ⟨e, behind, -⟩
    cases behind
  · intro ds given
    rw [given.unique ⟨_, ⟨_, rfl, rfl⟩, rfl⟩]
    decide
  · rw [validate_singleton rfl, validate_singleton rfl, first, second]
    refine ⟨_, _, _, _, rfl, rfl, fun perm => ?_⟩
    have kept := perm.mem_iff (a := (Rule.relationsDeclared, .text relationsTable, .pass))
    exact absurd (kept.1 (by decide)) (by decide)

end Samples

end Validation
end GeoConformance
