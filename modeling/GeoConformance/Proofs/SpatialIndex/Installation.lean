import GeoConformance.Proofs.Asking
import GeoConformance.Proofs.Bookkeeping
import GeoConformance.Proofs.CleanCourse
import GeoConformance.Proofs.PrefixLookup
import GeoConformance.Proofs.References
import GeoConformance.SpatialIndex

/-!
# What is installed for a spatial index

The seven artifacts that a package has for a column, and what the checks on them and on the
declarations ask. Only names without NUL are looked up; none of them is empty, since each begins
with the name of the index.
-/

namespace GeoConformance
namespace SpatialIndex

open Check

/-- Nothing but the virtual table of the index is looked up among the tables. -/
theorem asksOnly_installed {P : Query → Prop} {t k : Value}
    (virtualTable : ∀ table column, t = .text table → k = .text column →
      P (.definitions "table" (Template.indexName table column)))
    (trigger : ∀ name, P (.definitions "trigger" name))
    (triggers : ∀ start, P (.definitionsFrom "trigger" start)) : (installed t k).AsksOnly P := by
  unfold installed
  split
  · refine (asksOnly_definition fun _ named => ?_).bind fun _ =>
      (asksOnly_definition fun _ _ => trigger _).bind fun _ =>
      (asksOnly_definitionsFrom fun _ _ => triggers _).bind fun _ =>
      (asksOnly_definition fun _ _ => trigger _).bind fun _ => asksOnly_pure _
    exact Value.text.inj named ▸ virtualTable _ _ rfl rfl
  · exact asksOnly_violate _

/-- The seven artifacts that a package has for a column, given its update triggers in order. -/
def artifactsOf (c : Catalog) (table column : String) (updates : List NamedText) :
    List Installed :=
  let base := Template.indexName table column
  let update (i : Nat) : Option String := (updates.map Prod.snd)[i]?.join
  [⟨⟨.virtualTable, table, column⟩, c.textOf "table" base⟩,
   ⟨⟨.insertTrigger, table, column⟩, c.textOf "trigger" (base ++ "_insert")⟩,
   ⟨⟨.updateTrigger1, table, column⟩, update 0⟩,
   ⟨⟨.updateTrigger2, table, column⟩, update 1⟩,
   ⟨⟨.updateTrigger3, table, column⟩, update 2⟩,
   ⟨⟨.updateTrigger4, table, column⟩, update 3⟩,
   ⟨⟨.deleteTrigger, table, column⟩, c.textOf "trigger" (base ++ "_delete")⟩]

/-- What a package has for a column. The update triggers are all those whose names begin as theirs
do, in the order of their names. -/
def Installs (c : Catalog) (table column : String) (found : List Installed) : Prop :=
  ∃ updates, inOrder (c.textsFrom "trigger" (Template.indexName table column ++ "_update")) =
    .ok updates ∧ found = artifactsOf c table column updates

/-- A text without NUL, if it is a text at all. -/
def IsNulFree (v : Value) : Prop := ∀ s, v = .text s → '\x00' ∉ s.toList

def IsForSpatialIndex (e : Declaration) : Prop := e.extensionName = .text "gpkg_rtree_index"

/-- A declaration that names a registered column and has the right scope. -/
structure IsInOrder (registered : List (Value × Value)) (e : Declaration) : Prop where
  column : e.column ≠ .null
  registered : ∃ p ∈ registered, e.table.same p.1 = true ∧ e.column.same p.2 = true
  scope : e.scope = .text "write-only"

variable {c : Catalog} {d : Deadline} {table column : String}

theorem Installs.unique {found found' : List Installed} (h : Installs c table column found)
    (h' : Installs c table column found') : found = found' := by
  obtain ⟨updates, inOrder, rfl⟩ := h
  obtain ⟨updates', inOrder', rfl⟩ := h'
  rw [inOrder] at inOrder'
  cases inOrder'
  rfl

theorem Installs.length {found : List Installed} (h : Installs c table column found) :
    found.length = 7 := by
  obtain ⟨updates, -, rfl⟩ := h
  rfl

theorem toList_indexName : (Template.indexName table column).toList =
    "rtree_".toList ++ table.toList ++ "_".toList ++ column.toList := by
  change ("rtree_" ++ table ++ "_" ++ column).toList = _
  simp only [String.toList_append]

theorem indexName_ne_empty : Template.indexName table column ≠ "" := by
  intro empty
  have chars := congrArg String.toList empty
  rw [toList_indexName] at chars
  simp at chars

theorem isUsable_indexName : (Value.text (Template.indexName table column)).IsUsable ↔
    '\x00' ∉ table.toList ∧ '\x00' ∉ column.toList := by
  rw [Value.isUsable_text, toList_indexName]
  simp [indexName_ne_empty]

/-- Whoever can look up the name of an index can look up those of its triggers. -/
theorem isUsable_append {name suffix : String} (h : (Value.text name).IsUsable)
    (nulSuffix : '\x00' ∉ suffix.toList) : (Value.text (name ++ suffix)).IsUsable := by
  obtain ⟨nonempty, nulName⟩ := Value.isUsable_text.1 h
  refine Value.isUsable_text.2 ⟨fun empty => nonempty ?_, ?_⟩
  · rw [String.append_eq_empty_iff] at empty
    exact empty.1
  · simp [nulName, nulSuffix]

section Names

variable (nulTable : '\x00' ∉ table.toList) (nulColumn : '\x00' ∉ column.toList)

include nulTable nulColumn

theorem resultIn_installed :
    (installed (.text table) (.text column)).resultIn c d =
      (ofExcept (inOrder (c.textsFrom "trigger"
        (Template.indexName table column ++ "_update")))).resultIn c d >>= fun updates =>
        .ok (artifactsOf c table column updates) := by
  have usable : (Value.text (Template.indexName table column)).IsUsable :=
    isUsable_indexName.2 ⟨nulTable, nulColumn⟩
  have lookUp : ∀ {name kind} {next : Option String → Check (List Installed)},
      (Value.text name).IsUsable →
      (definition (.text name) kind >>= next).resultIn c d =
        (next (c.textOf kind name)).resultIn c d := by
    intro name kind next usable
    rw [resultIn_bind, resultIn_definition usable]
    rfl
  change (definition (.text (Template.indexName table column)) "table" >>= fun _ =>
    definition (.text (Template.indexName table column ++ "_insert")) "trigger" >>= fun _ =>
    definitionsFrom (.text (Template.indexName table column ++ "_update")) "trigger" >>= fun _ =>
    definition (.text (Template.indexName table column ++ "_delete")) "trigger" >>=
      _).resultIn c d = _
  rw [lookUp usable, lookUp (isUsable_append usable (by decide)), resultIn_bind,
    resultIn_definitionsFrom (isUsable_append usable (by decide))]
  congr 1
  funext updates
  exact lookUp (isUsable_append usable (by decide))

theorem installed_eq_ok {found : List Installed} :
    (installed (.text table) (.text column)).resultIn c d = .ok found ↔
      Installs c table column found := by
  rw [resultIn_installed nulTable nulColumn, bind_eq_ok, Installs]
  simp only [resultIn_ofExcept_eq_ok, Except.ok.injEq, @eq_comm _ found]

/-- Looking the artifacts up fails only where the update triggers cannot be put in order, and then
without a verdict. -/
theorem exists_installs_iff :
    (∃ found, Installs c table column found) ↔
      FailsAs Failure.HasVerdict ((installed (.text table) (.text column)).resultIn c d) := by
  rw [resultIn_installed nulTable nulColumn]
  unfold Installs
  cases inOrder (c.textsFrom "trigger" (Template.indexName table column ++ "_update")) with
  | ok updates => exact ⟨fun _ => failsAs_ok _, fun _ => ⟨_, updates, rfl, rfl⟩⟩
  | error m =>
    constructor
    · intro h
      obtain ⟨_, _, ordered, -⟩ := h
      cases ordered
    · intro h
      obtain ⟨v, hv⟩ := h (.misuse m) rfl
      cases hv

end Names

theorem installed_eq_ok_text {t k : Value} {found : List Installed}
    (h : (installed t k).resultIn c d = .ok found) :
    ∃ table column, t = .text table ∧ k = .text column := by
  cases t <;> cases k <;> first | exact ⟨_, _, rfl, rfl⟩ | cases h

/-- What is no pair of names has no artifacts, and that is a verdict. -/
theorem hasVerdict_installed {t k : Value}
    (h : ∀ table column, t = .text table → k ≠ .text column) :
    FailsAs Failure.HasVerdict ((installed t k).resultIn c d) := by
  unfold installed
  split
  · exact absurd rfl (h _ _ rfl)
  · exact (isDecisive_violate _).hasVerdict

theorem definition_failsAs {P : Failure → Prop} (adverse : ∀ f, f.IsAdverse → P f) {v : Value}
    {kind : String} (named : FailsAs P ((nameOf v).resultIn c d)) :
    FailsAs P ((definition v kind).resultIn c d) :=
  failsAs_bind named fun _ _ => failsAs_bind ((isDecisive_reply _).mono adverse) fun _ _ =>
    (isDecisive_pure _).mono adverse

/-- Looking up the artifacts comes to a verdict unless the name of the index cannot be looked up or
its update triggers cannot be put in order. -/
theorem installed_failsAs {P : Failure → Prop} (adverse : ∀ f, f.IsAdverse → P f) {t k : Value}
    (named : ∀ table column, t = .text table → k = .text column →
      FailsAs P ((nameOf (.text (Template.indexName table column))).resultIn c d) ∧
      FailsAs P ((ofExcept (inOrder (c.textsFrom "trigger"
        (Template.indexName table column ++ "_update")))).resultIn c d)) :
    FailsAs P ((installed t k).resultIn c d) := by
  unfold installed
  split
  · rename_i table column
    obtain ⟨named, ordered⟩ := named table column rfl rfl
    refine failsAs_bind (definition_failsAs adverse named) fun _ found => ?_
    have usable : (Value.text (Template.indexName table column)).IsUsable := by
      obtain ⟨name, identified, -⟩ := resultIn_bind_eq_ok.1 found
      exact (nameOf_eq_ok.1 identified).2
    have lookUp : ∀ suffix : String, '\x00' ∉ suffix.toList → FailsAs P ((definition
        (.text (Template.indexName table column ++ suffix)) "trigger").resultIn c d) := by
      intro suffix nulSuffix
      rw [resultIn_definition (isUsable_append usable nulSuffix)]
      exact failsAs_ok _
    refine failsAs_bind (lookUp "_insert" (by decide)) fun _ _ => failsAs_bind ?_ fun _ _ =>
      failsAs_bind (lookUp "_delete" (by decide)) fun _ _ => failsAs_ok _
    change FailsAs P ((definitionsFrom (.text (Template.indexName table column ++ "_update"))
      "trigger").resultIn c d)
    rw [resultIn_definitionsFrom (isUsable_append usable (by decide))]
    exact ordered
  · exact (isDecisive_violate _).mono adverse

theorem neverSkips_installed {t k : Value} : NeverSkips c d (installed t k) :=
  installed_failsAs (fun _ => Failure.IsAdverse.neverSkips) fun _ _ _ _ =>
    ⟨neverSkips_ofExcept _, neverSkips_ofExcept _⟩

theorem artifact_eq_ok {i : Installed} :
    (artifact i).resultIn c d = .ok () ↔ i.requirement.isMetBy i.sql = true := by
  rw [artifact, resultIn_ofViolation_eq_ok, Installed.violation?, Requirement.violation?]
  cases i.requirement.isMetBy i.sql <;> simp

theorem declarationViolation_eq_none {registered : List (Value × Value)} {e : Declaration} :
    declarationViolation? e registered = none ↔ IsInOrder registered e := by
  have inOrder : IsInOrder registered e ↔ e.column.isNull = false ∧
      (registered.any fun p => e.table.same p.1 && e.column.same p.2) = true ∧
      e.scope.same (.text requiredScope) = true := by
    rw [← Bool.not_eq_true, Value.isNull_iff, List.any_eq_true, Value.same_text_iff]
    simp only [Bool.and_eq_true]
    exact ⟨fun h => ⟨h.column, h.registered, h.scope⟩, fun h => ⟨h.1, h.2.1, h.2.2⟩⟩
  have violation : declarationViolation? e registered =
      if e.column.isNull || !(registered.any fun p => e.table.same p.1 && e.column.same p.2) then
        some (.invalidReference e.table e.column)
      else if e.scope.same (.text requiredScope) then none
      else some (.illegalScope (.text spatialIndexExtension) (.text requiredScope) e.scope) := rfl
  rw [inOrder, violation]
  cases e.column.isNull <;>
    cases registered.any (fun p => e.table.same p.1 && e.column.same p.2) <;>
    cases e.scope.same (.text requiredScope) <;> simp

end SpatialIndex
end GeoConformance
