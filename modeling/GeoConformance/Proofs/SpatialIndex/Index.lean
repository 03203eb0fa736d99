import GeoConformance.Proofs.NamedTexts
import GeoConformance.Proofs.SpatialIndex.Installation
import GeoConformance.Proofs.SpatialIndex.Keys

/-!
# The index on a column

Three of the artifacts are looked up by their names, and the four update triggers by their places
among all triggers whose names begin as theirs do. An index is complete where each text found in
this way is as required. For any two names such an index can be written down.
-/

namespace GeoConformance
namespace SpatialIndex

open Check Template Text

namespace Artifact

/-- The kind of schema object that an artifact is. -/
def kind (a : Artifact) : String := if a = .virtualTable then "table" else "trigger"

theorem mem_all (a : Artifact) : a ∈ all := by
  cases a <;> decide

/-- What the name of an artifact has behind that of the index. -/
def ending (a : Artifact) : String := a.suffix?.elim "" ("_" ++ ·)

theorem ending_injective {a b : Artifact} (h : a.ending = b.ending) : a = b := by
  revert h
  cases a <;> cases b <;> decide

theorem isPrefix_ending {a : Artifact} :
    "_update".toList <+: a.ending.toList ↔ a ∈ updateTriggers := by
  cases a <;> decide

/-- The artifacts that are looked up by their own names. -/
def named : List Artifact := [.virtualTable, .insertTrigger, .deleteTrigger]

/-- The place of an artifact among the update triggers. -/
def slot (a : Artifact) : Nat := updateTriggers.idxOf a

end Artifact

namespace Requirement

theorem name_eq {a : Artifact} {table column : String} :
    (⟨a, table, column⟩ : Requirement).name = indexName table column ++ a.ending := by
  cases a
  case virtualTable => exact (String.append_empty).symm
  all_goals
    change indexName table column ++ "_" ++ _ = indexName table column ++ ("_" ++ _)
    exact String.append_assoc

theorem name_injective {a b : Artifact} {table column : String}
    (h : (⟨a, table, column⟩ : Requirement).name = (⟨b, table, column⟩ : Requirement).name) :
    a = b := by
  rw [name_eq, name_eq, ← String.toList_inj, String.toList_append, String.toList_append] at h
  exact Artifact.ending_injective (String.toList_inj.1 (List.append_cancel_left h))

/-- The update triggers are those whose names begin in one way. -/
theorem isPrefix_name_iff {a : Artifact} {table column : String} :
    (indexName table column ++ "_update").toList <+:
      (⟨a, table, column⟩ : Requirement).name.toList ↔ a ∈ Artifact.updateTriggers := by
  rw [name_eq, String.toList_append, String.toList_append, List.prefix_append_right_inj]
  exact Artifact.isPrefix_ending

theorem name_lt_name {a b : Artifact} {table column : String}
    (h : a.ending.toList < b.ending.toList) :
    (⟨a, table, column⟩ : Requirement).name < (⟨b, table, column⟩ : Requirement).name := by
  rw [name_eq, name_eq, String.lt_iff_toList_lt, String.toList_append, String.toList_append]
  exact List.append_left_lt h

end Requirement

/-- The text that is found for an artifact, given the triggers that are found for updates. -/
def foundFor (c : Catalog) (table column : String) (updates : List NamedText) (a : Artifact) :
    Option String :=
  if a ∈ Artifact.named then c.textOf a.kind (⟨a, table, column⟩ : Requirement).name
  else (updates.map Prod.snd)[a.slot]?.join

/-- Each artifact of an index is as required. -/
def IsComplete (c : Catalog) (table column : String) (updates : List NamedText) : Prop :=
  ∀ a, (⟨a, table, column⟩ : Requirement).isMetBy (foundFor c table column updates a) = true

variable {c : Catalog} {d : Deadline} {table column : String} {updates : List NamedText}

theorem artifactsOf_eq : artifactsOf c table column updates =
    Artifact.all.map fun a => ⟨⟨a, table, column⟩, foundFor c table column updates a⟩ := by
  have index : indexName table column ++ Artifact.virtualTable.ending = indexName table column :=
    String.append_empty
  simp only [Artifact.all, List.map_cons, List.map_nil, foundFor, Requirement.name_eq, index]
  rfl

/-- What is reported of an artifact that has another text than required, or none. -/
def misfit (table : String) (a : Artifact) (sql : Option String) : Violation :=
  .triggerDefinition (.text a.title) (.text table) (sql.elim .null Value.text)

theorem violation?_eq_none {a : Artifact} {sql : Option String} :
    (⟨a, table, column⟩ : Requirement).violation? sql = none ↔
      (⟨a, table, column⟩ : Requirement).isMetBy sql = true := by
  rw [Requirement.violation?]
  split
  case isTrue met => exact iff_of_true rfl met
  case isFalse unmet => exact iff_of_false (Option.some_ne_none _) unmet

theorem violation?_of_unmet {a : Artifact} {sql : Option String}
    (unmet : (⟨a, table, column⟩ : Requirement).isMetBy sql = false) :
    (⟨a, table, column⟩ : Requirement).violation? sql = some (misfit table a sql) :=
  if_neg (by simp [unmet])

section Violations

variable (nulTable : '\x00' ∉ table.toList) (nulColumn : '\x00' ∉ column.toList)

include nulTable nulColumn

theorem resultIn_violations
    (ordered : inOrder (c.textsFrom "trigger" (indexName table column ++ "_update")) =
      .ok updates) :
    (violations (.text table) (.text column)).resultIn c d =
      .ok (Artifact.all.filterMap fun a =>
        (⟨a, table, column⟩ : Requirement).violation? (foundFor c table column updates a)) := by
  have found := (installed_eq_ok (d := d) nulTable nulColumn).2 ⟨updates, ordered, rfl⟩
  rw [violations, resultIn_bind, found, artifactsOf_eq, ok_bind, resultIn_pure, List.filterMap_map]
  rfl

/-- An index without violations is complete. -/
theorem violations_eq_nil : (violations (.text table) (.text column)).resultIn c d = .ok [] ↔
    ∃ updates, inOrder (c.textsFrom "trigger" (indexName table column ++ "_update")) = .ok updates ∧
      IsComplete c table column updates := by
  constructor
  · intro h
    obtain ⟨found, isInstalled, -⟩ := resultIn_bind_eq_ok.1 h
    obtain ⟨updates, ordered, -⟩ := (installed_eq_ok nulTable nulColumn).1 isInstalled
    rw [resultIn_violations nulTable nulColumn ordered, Except.ok.injEq,
      List.filterMap_eq_nil_iff] at h
    exact ⟨updates, ordered, fun a => violation?_eq_none.1 (h a a.mem_all)⟩
  · intro h
    obtain ⟨updates, ordered, met⟩ := h
    rw [resultIn_violations nulTable nulColumn ordered]
    exact congrArg _ (List.filterMap_eq_nil_iff.2 fun a _ => violation?_eq_none.2 (met a))

end Violations

section Entries

variable {texts : Artifact → String}

/-- The objects that make up an index, given a generating text for each. -/
def entriesOf (table column : String) (texts : Artifact → String) : Catalog :=
  Artifact.all.map fun a => .entry (⟨a, table, column⟩ : Requirement).name a.kind (some (texts a))

theorem textOf_entriesOf (a : Artifact) :
    (entriesOf table column texts).textOf a.kind (⟨a, table, column⟩ : Requirement).name =
      some (texts a) := by
  have first : Artifact.all.find? (· == a) = some a := by cases a <;> rfl
  rw [Catalog.textOf, entriesOf, List.find?_map]
  have named : ((fun o : SchemaObject => o.kind == a.kind &&
      o.name == (⟨a, table, column⟩ : Requirement).name) ∘ fun b => SchemaObject.entry
      (⟨b, table, column⟩ : Requirement).name b.kind (some (texts b))) = (· == a) := by
    funext b
    rw [Bool.eq_iff_iff, Function.comp_apply, Bool.and_eq_true, beq_iff_eq, beq_iff_eq, beq_iff_eq]
    exact ⟨fun h => Requirement.name_injective h.2, fun h => by rw [h]; exact ⟨rfl, rfl⟩⟩
  rw [named, first]
  rfl

theorem textsFrom_entriesOf :
    (entriesOf table column texts).textsFrom "trigger" (indexName table column ++ "_update") =
      Artifact.updateTriggers.map fun a =>
        ((⟨a, table, column⟩ : Requirement).name, some (texts a)) := by
  rw [Catalog.textsFrom, entriesOf, List.filter_map, List.map_map]
  have updates : Artifact.all.filter (fun a => a.kind == "trigger" &&
      decide (a ∈ Artifact.updateTriggers)) = Artifact.updateTriggers := by decide
  have begins : ∀ a, (indexName table column ++ "_update").toList.isPrefixOf
      (⟨a, table, column⟩ : Requirement).name.toList = decide (a ∈ Artifact.updateTriggers) := by
    intro a
    rw [Bool.eq_iff_iff, List.isPrefixOf_iff_prefix, Requirement.isPrefix_name_iff,
      decide_eq_true_iff]
  rw [← updates]
  simp only [Function.comp_def, SchemaObject.kind, SchemaObject.name, SchemaObject.sql, begins]

/-- The update triggers stand in the order of their names. -/
theorem pairwise_names : (Artifact.updateTriggers.map fun a =>
    ((⟨a, table, column⟩ : Requirement).name, some (texts a))).Pairwise fun a b => a.1 < b.1 := by
  have increasing : Artifact.updateTriggers.Pairwise fun a b =>
    a.ending.toList < b.ending.toList := by decide
  exact List.pairwise_map.2 (increasing.imp Requirement.name_lt_name)

/-- An index is complete where each of its texts is as required. -/
theorem violations_entriesOf (nulTable : '\x00' ∉ table.toList) (nulColumn : '\x00' ∉ column.toList)
    (met : ∀ a, (⟨a, table, column⟩ : Requirement).isMetBy (some (texts a)) = true) :
    (violations (.text table) (.text column)).resultIn (entriesOf table column texts) d =
      .ok [] := by
  rw [violations_eq_nil nulTable nulColumn, textsFrom_entriesOf]
  refine ⟨_, inOrder_eq_ok.2 ⟨List.Perm.refl _, pairwise_names.imp .inl⟩, fun a => ?_⟩
  have found : foundFor (entriesOf table column texts) table column (Artifact.updateTriggers.map
      fun a => ((⟨a, table, column⟩ : Requirement).name, some (texts a))) a = some (texts a) := by
    rw [foundFor, textOf_entriesOf]
    cases a <;> rfl
  rw [found]
  exact met a

end Entries

end SpatialIndex
end GeoConformance
