import GeoConformance.Proofs.SpatialIndex.Index
import Mathlib.Data.List.InsertIdx

/-!
# Losing an artifact

When one of the artifacts that are looked up by name is removed from a complete index, it alone is
reported. When an update trigger is removed, those behind it move up by one place, and since none of
them is as required in the place before its own, all from there on are reported.
-/

namespace GeoConformance

open Check

namespace Catalog

/-- What is left of a catalog without the objects of a name, of which there is mostly one. -/
def without (c : Catalog) (name : String) : Catalog := c.filter fun o => o.name != name

variable {c : Catalog} {kind name other start : String}

theorem textOf_without (different : name ≠ other) :
    (c.without other).textOf kind name = c.textOf kind name := by
  rw [textOf, textOf, without, List.find?_filter]
  congr 2
  funext o
  by_cases named : o.name = name
  · simp [named, different, Bool.beq_eq_decide_eq]
  · simp [named]

theorem textOf_without_self : (c.without name).textOf kind name = none := by
  rw [textOf, without, List.find?_filter, Option.bind_eq_none_iff]
  intro o found
  have here := List.find?_some found
  simp only [bne_iff_ne, Bool.and_eq_true, beq_iff_eq, decide_eq_true_eq] at here
  exact absurd here.2.2 here.1

theorem textsFrom_without : (c.without name).textsFrom kind start =
    (c.textsFrom kind start).filter fun o => o.1 != name := by
  rw [textsFrom, textsFrom, without, List.filter_map, List.filter_filter, List.filter_filter]
  congr 2
  funext o
  exact Bool.and_comm _ _

theorem isPrefix_of_mem_textsFrom {o : NamedText} (h : o ∈ c.textsFrom kind start) :
    start.toList <+: o.1.toList := by
  obtain ⟨object, found, rfl⟩ := List.mem_map.1 h
  have begins := (List.mem_filter.1 found).2
  rw [Bool.and_eq_true] at begins
  exact List.isPrefixOf_iff_prefix.1 begins.2

end Catalog

namespace SpatialIndex

open Template

variable {c : Catalog} {d : Deadline} {table column : String} {updates : List NamedText}

/-- No artifact that is looked up by its name is among those found by the beginning of theirs. -/
theorem not_isPrefix_name {a : Artifact} (named : a ∈ Artifact.named) :
    ¬ (indexName table column ++ "_update").toList <+:
      (⟨a, table, column⟩ : Requirement).name.toList := by
  have apart : ∀ a ∈ Artifact.named, a ∉ Artifact.updateTriggers := by decide
  exact fun begins => apart a named (Requirement.isPrefix_name_iff.1 begins)

theorem filter_eq_eraseIdx {k : Nat} (increasing : updates.Pairwise fun a b => a.1 < b.1)
    (h : k < updates.length) : updates.filter (·.1 != updates[k].1) = updates.eraseIdx k := by
  induction updates generalizing k with
  | nil => cases h
  | cons u us ih =>
    obtain ⟨first, rest⟩ := List.pairwise_cons.1 increasing
    cases k with
    | zero =>
      have kept : ∀ o ∈ us, (o.1 != u.1) = true := fun o ho => by simpa using (first o ho).ne'
      simp [List.filter_eq_self.2 kept]
    | succ k =>
      have inside : k < us.length := Nat.lt_of_succ_lt_succ h
      have kept : (u.1 != us[k].1) = true := by simpa using (first _ (List.getElem_mem inside)).ne
      simp [kept, ih rest inside]

theorem filterMap_all_eq_singleton {β : Type} {f : Artifact → Option β} {a : Artifact} {v : β}
    (here : f a = some v) (others : ∀ b, b ≠ a → f b = none) : Artifact.all.filterMap f = [v] := by
  cases a <;> simp [Artifact.all, here, others]

theorem filterMap_all_eq {β : Type} {f : Artifact → Option β}
    (others : ∀ a ∈ Artifact.named, f a = none) :
    Artifact.all.filterMap f = Artifact.updateTriggers.filterMap f := by
  have virtualTable := others .virtualTable (by decide)
  have insertTrigger := others .insertTrigger (by decide)
  have deleteTrigger := others .deleteTrigger (by decide)
  have split : Artifact.all = .virtualTable :: .insertTrigger ::
    (Artifact.updateTriggers ++ [.deleteTrigger]) := rfl
  simp [split, virtualTable, insertTrigger, deleteTrigger]

/-- What is as required in one place is not so in the place before. -/
theorem isMetBy_shifted {places : List Artifact} {texts : List (Option String)} {a : Artifact}
    {sql : Option String} (distinct : (a :: places).Nodup)
    (fits : List.Forall₂ (fun b sql => (⟨b, table, column⟩ : Requirement).isMetBy sql = true)
      (a :: places) (sql :: texts)) :
    ∀ p ∈ (a :: places).zip (texts ++ [none]),
      (⟨p.1, table, column⟩ : Requirement).isMetBy p.2 = false := by
  induction places generalizing a sql texts with
  | nil =>
    cases fits with
    | cons _ nothing =>
      cases nothing
      exact List.forall_mem_singleton.2 rfl
  | cons b places ih =>
    obtain ⟨other, distinct⟩ := List.nodup_cons.1 distinct
    cases fits with
    | cons _ fits =>
      cases fits with
      | @cons _ sql _ texts next fits =>
        refine List.forall_mem_cons.2 ⟨?_, ih distinct (.cons next fits)⟩
        rw [← Bool.not_eq_true]
        intro here
        exact other (artifact_unique here next ▸ List.mem_cons_self)

/-- When one of the texts is lost, each from there on stands in the place before its own. -/
theorem filterMap_zip_eraseIdx {places : List Artifact} {texts : List (Option String)} {k : Nat}
    (distinct : places.Nodup)
    (fits : List.Forall₂ (fun b sql => (⟨b, table, column⟩ : Requirement).isMetBy sql = true)
      places texts) (inside : k < texts.length) :
    ((places.zip (texts.eraseIdx k ++ [none])).filterMap fun (a, sql) =>
        (⟨a, table, column⟩ : Requirement).violation? sql) =
      ((places.drop k).zip (texts.drop (k + 1) ++ [none])).map fun (a, sql) =>
        misfit table a sql := by
  induction fits generalizing k with
  | nil => cases inside
  | @cons a sql places texts here rest ih =>
    cases k with
    | zero =>
      have all := isMetBy_shifted distinct (.cons here rest)
      rw [← List.filterMap_eq_map]
      exact List.filterMap_congr fun p hp => violation?_of_unmet (all p hp)
    | succ k =>
      have kept := violation?_eq_none.2 here
      simpa [kept] using ih (List.nodup_cons.1 distinct).2 (Nat.lt_of_succ_lt_succ inside)

section Loss

variable (c) (table column) in
theorem forall₂_foundFor (four : updates.length = 4)
    (met : IsComplete c table column updates) :
    List.Forall₂ (fun a sql => (⟨a, table, column⟩ : Requirement).isMetBy sql = true)
      Artifact.updateTriggers (updates.map Prod.snd) := by
  match updates, four with
  | [_, _, _, _], _ =>
    exact .cons (met .updateTrigger1) (.cons (met .updateTrigger2) (.cons (met .updateTrigger3)
      (.cons (met .updateTrigger4) .nil)))

theorem filterMap_foundFor (three : updates.length = 3) :
    (Artifact.updateTriggers.filterMap fun a =>
        (⟨a, table, column⟩ : Requirement).violation? (foundFor c table column updates a)) =
      (Artifact.updateTriggers.zip (updates.map Prod.snd ++ [none])).filterMap fun (a, sql) =>
        (⟨a, table, column⟩ : Requirement).violation? sql := by
  match updates, three with
  | [_, _, _], _ => rfl

variable (nulTable : '\x00' ∉ table.toList) (nulColumn : '\x00' ∉ column.toList)

include nulTable nulColumn

theorem resultIn_violations_without_named {a : Artifact} (named : a ∈ Artifact.named)
    (ordered : inOrder (c.textsFrom "trigger" (indexName table column ++ "_update")) = .ok updates)
    (met : IsComplete c table column updates) :
    (violations (.text table) (.text column)).resultIn
      (c.without (⟨a, table, column⟩ : Requirement).name) d = .ok [misfit table a none] := by
  have kept : (c.without (⟨a, table, column⟩ : Requirement).name).textsFrom "trigger"
      (indexName table column ++ "_update") =
      c.textsFrom "trigger" (indexName table column ++ "_update") := by
    rw [Catalog.textsFrom_without, List.filter_eq_self]
    intro o ho
    rw [bne_iff_ne]
    intro same
    exact not_isPrefix_name named (same ▸ Catalog.isPrefix_of_mem_textsFrom ho)
  rw [resultIn_violations nulTable nulColumn (kept ▸ ordered)]
  refine congrArg _ (filterMap_all_eq_singleton (a := a) ?_ fun b different => ?_)
  · have lost : foundFor (c.without (⟨a, table, column⟩ : Requirement).name) table column
        updates a = none := by
      rw [foundFor, if_pos named, Catalog.textOf_without_self]
    rw [lost]
    exact violation?_of_unmet rfl
  · have same : foundFor (c.without (⟨a, table, column⟩ : Requirement).name) table column
        updates b = foundFor c table column updates b := by
      unfold foundFor
      rw [Catalog.textOf_without fun same => different (Requirement.name_injective same)]
    rw [same]
    exact violation?_eq_none.2 (met b)

theorem resultIn_violations_without_update {k : Nat} (inside : k < updates.length)
    (four : updates.length = 4) (increasing : updates.Pairwise fun a b => a.1 < b.1)
    (ordered : inOrder (c.textsFrom "trigger" (indexName table column ++ "_update")) = .ok updates)
    (met : IsComplete c table column updates) :
    (violations (.text table) (.text column)).resultIn (c.without updates[k].1) d =
      .ok (((Artifact.updateTriggers.drop k).zip
        ((updates.drop (k + 1)).map Prod.snd ++ [none])).map fun (a, sql) =>
          misfit table a sql) := by
  obtain ⟨perm, sorted⟩ := inOrder_eq_ok.1 ordered
  have begins := Catalog.isPrefix_of_mem_textsFrom (perm.mem_iff.1 (List.getElem_mem inside))
  have reordered : inOrder ((c.without updates[k].1).textsFrom "trigger"
      (indexName table column ++ "_update")) = .ok (updates.eraseIdx k) := by
    rw [inOrder_eq_ok, Catalog.textsFrom_without, ← filter_eq_eraseIdx increasing inside]
    exact ⟨perm.filter _, sorted.filter _⟩
  rw [resultIn_violations nulTable nulColumn reordered, filterMap_all_eq]
  · have three : (updates.eraseIdx k).length = 3 := by
      rw [List.length_eraseIdx_of_lt inside, four]
    rw [filterMap_foundFor three, ← List.eraseIdx_map, List.map_drop]
    exact congrArg _ (filterMap_zip_eraseIdx (by decide) (forall₂_foundFor c table column four met)
      (by rwa [List.length_map]))
  · intro a named
    have other : (⟨a, table, column⟩ : Requirement).name ≠ updates[k].1 := by
      intro same
      exact not_isPrefix_name named (same ▸ begins)
    have same := met a
    rw [foundFor, if_pos named] at same
    rw [foundFor, if_pos named, Catalog.textOf_without other]
    exact violation?_eq_none.2 same

end Loss

/-- A complete index of seven artifacts tells which of them it has lost: one that is looked up by
its name alone is missing, and from a lost update trigger on all are held against the text of the
next, the last against none. -/
theorem violations_without (nulTable : '\x00' ∉ table.toList) (nulColumn : '\x00' ∉ column.toList)
    (perm : updates.Perm (c.textsFrom "trigger" (indexName table column ++ "_update")))
    (increasing : updates.Pairwise fun a b => a.1 < b.1) (four : updates.length = 4)
    (complete : (violations (.text table) (.text column)).resultIn c d = .ok []) :
    (∀ a ∈ Artifact.named, (violations (.text table) (.text column)).resultIn
      (c.without (⟨a, table, column⟩ : Requirement).name) d = .ok [misfit table a none]) ∧
    ∀ k (_ : k < updates.length),
      (violations (.text table) (.text column)).resultIn (c.without updates[k].1) d =
        .ok (((Artifact.updateTriggers.drop k).zip
          ((updates.drop (k + 1)).map Prod.snd ++ [none])).map fun (a, sql) =>
            misfit table a sql) := by
  obtain ⟨found, ordered, met⟩ := (violations_eq_nil nulTable nulColumn).1 complete
  have same : found = updates := by
    have sorted : inOrder (c.textsFrom "trigger" (indexName table column ++ "_update")) =
        .ok updates := inOrder_eq_ok.2 ⟨perm, increasing.imp .inl⟩
    rw [ordered] at sorted
    exact Except.ok.inj sorted
  subst same
  exact ⟨fun a named => resultIn_violations_without_named nulTable nulColumn named ordered met,
    fun k inside => resultIn_violations_without_update nulTable nulColumn inside four increasing
      ordered met⟩

/-- A text for each artifact of the index on the roads. -/
def roadsText (a : Artifact) : String := (⟨a, "roads", "geom"⟩ : Requirement).canonicalText

def roadsUpdates : List NamedText := Artifact.updateTriggers.map fun a =>
  ((⟨a, "roads", "geom"⟩ : Requirement).name, some (roadsText a))

/-- Without its second update trigger, the index on the roads has the texts of the third and the
fourth in the wrong places. -/
theorem roadsIndex_without : ('\x00' ∉ "roads".toList ∧ '\x00' ∉ "geom".toList) ∧
    (roadsUpdates.Perm ((entriesOf "roads" "geom" roadsText).textsFrom "trigger"
      (indexName "roads" "geom" ++ "_update")) ∧
      roadsUpdates.Pairwise (fun a b => a.1 < b.1) ∧ roadsUpdates.length = 4) ∧
    (violations (.text "roads") (.text "geom")).resultIn
      (entriesOf "roads" "geom" roadsText) ⟨none, false⟩ = .ok [] ∧
    (violations (.text "roads") (.text "geom")).resultIn
      ((entriesOf "roads" "geom" roadsText).without "rtree_roads_geom_update2") ⟨none, false⟩ =
      .ok [misfit "roads" .updateTrigger2 (some (roadsText .updateTrigger3)),
        misfit "roads" .updateTrigger3 (some (roadsText .updateTrigger4)),
        misfit "roads" .updateTrigger4 none] := by
  have nulFree : '\x00' ∉ "roads".toList ∧ '\x00' ∉ "geom".toList := by decide
  have complete : (violations (.text "roads") (.text "geom")).resultIn
      (entriesOf "roads" "geom" roadsText) ⟨none, false⟩ = .ok [] :=
    violations_entriesOf nulFree.1 nulFree.2 fun a => Requirement.isMetBy_canonicalText _
  have perm : roadsUpdates.Perm ((entriesOf "roads" "geom" roadsText).textsFrom "trigger"
      (indexName "roads" "geom" ++ "_update")) := by
    rw [textsFrom_entriesOf]
    exact List.Perm.refl _
  exact ⟨nulFree, ⟨perm, pairwise_names, rfl⟩, complete,
    (violations_without nulFree.1 nulFree.2 perm pairwise_names rfl complete).2 1 (by decide)⟩

end SpatialIndex
end GeoConformance
