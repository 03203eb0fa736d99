import GeoConformance.RelatedTables
import GeoConformance.SpatialIndex

/-!
# Validation

A validation performs suites on a session one after another, all with one deadline and into one
report. An unknown suite is refused before anything is performed.
-/

namespace GeoConformance

inductive Suite
  | relatedTables
  | spatialIndex
deriving DecidableEq

namespace Suite

def all : List Suite := [.relatedTables, .spatialIndex]

def name : Suite → String
  | .relatedTables => "related_tables"
  | .spatialIndex => "rtree_index"

def rules : Suite → List String
  | .relatedTables => RelatedTables.Rule.all
  | .spatialIndex => SpatialIndex.Rule.all

def agenda : Suite → Agenda
  | .relatedTables => RelatedTables.agenda
  | .spatialIndex => SpatialIndex.agenda

def ofName (name : String) : Except Misuse Suite :=
  match all.find? (·.name == name) with
  | some s => .ok s
  | none => .error (.unknownSuite name)

/-- The suites of a list of names; an empty list means all of them. -/
def select (names : List String) : Except Misuse (List Suite) :=
  if names.isEmpty then .ok all else names.mapM ofName

theorem ofName_name (suite : Suite) : ofName suite.name = .ok suite := by
  cases suite <;> rfl

theorem mapM_ofName (suites : List Suite) : (suites.map name).mapM ofName = .ok suites := by
  induction suites with
  | nil => rfl
  | cons suite rest ih =>
    rw [List.map_cons, List.mapM_cons, ofName_name, ih]
    rfl

/-- Names that are all known are the names of some suites. -/
theorem exists_map_name {names : List String}
    (known : ∀ name ∈ names, ∃ suite : Suite, suite.name = name) :
    ∃ suites : List Suite, suites.map name = names := by
  induction names with
  | nil => exact ⟨[], rfl⟩
  | cons first rest ih =>
    obtain ⟨⟨suite, rfl⟩, others⟩ := List.forall_mem_cons.1 known
    obtain ⟨suites, rfl⟩ := ih others
    exact ⟨suite :: suites, rfl⟩

theorem exists_of_mem_names (suites : List Suite) :
    ∀ n ∈ suites.map name, ∃ suite : Suite, suite.name = n :=
  List.forall_mem_map.2 fun suite _ => ⟨suite, rfl⟩

theorem exists_select {names : List String}
    (known : ∀ name ∈ names, ∃ suite : Suite, suite.name = name) :
    ∃ suites, select names = .ok suites := by
  obtain ⟨suites, rfl⟩ := exists_map_name known
  unfold select
  split
  · exact ⟨_, rfl⟩
  · exact ⟨suites, mapM_ofName suites⟩

end Suite

namespace Validation

def performAll (s : Session) :
    List Suite → Deadline → Report → Except Failure Unit × Deadline × Report
  | [], d, r => (.ok (), d, r)
  | suite :: rest, d, r =>
    match suite.agenda.perform s d r with
    | (.ok (), d, r) => performAll s rest d r
    | (.error f, d, r) => (.error f, d, r)

/-- Performs the suites with these names. -/
def validate (s : Session) (names : List String) (d : Deadline) (r : Report) :
    Except Failure Unit × Deadline × Report :=
  match Suite.select names with
  | .ok suites => performAll s suites d r
  | .error m => (.error (.misuse m), d, r)

end Validation
end GeoConformance
