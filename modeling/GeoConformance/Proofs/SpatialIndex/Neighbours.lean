import GeoConformance.Proofs.SpatialIndex.Index
import Mathlib.Data.List.Infix

/-!
# Indexes beside one another

The triggers of an index are no artifacts of another one, but their names may begin as those of the
other's update triggers do, and then they are counted among these. They do no harm as long as four
of the other's come before them; otherwise one of them takes a place in which it is not as required,
and the other index is reported although nothing is wrong with it.
-/

namespace GeoConformance

open Check

namespace Catalog

variable {c added : Catalog} {kind name start : String}

theorem textOf_append (h : (c.textOf kind name).isSome) :
    (c ++ added).textOf kind name = c.textOf kind name := by
  obtain ⟨sql, some⟩ := Option.isSome_iff_exists.1 h
  obtain ⟨o, found, -⟩ := Option.bind_eq_some_iff.1 some
  rw [textOf, textOf, List.find?_append, found, Option.some_or]

theorem textsFrom_append : (c ++ added).textsFrom kind start =
    c.textsFrom kind start ++ added.textsFrom kind start := by
  rw [textsFrom, List.filter_append, List.map_append]
  rfl

end Catalog

namespace SpatialIndex

open Template Text

variable {c added : Catalog} {d : Deadline} {table column table' column' : String}
  {texts : Artifact → String} {updates : List NamedText}

theorem IsWord.nulFree {name : String} (word : IsWord name) : '\x00' ∉ name.toList := by
  have nul : isWordChar '\x00' = false := by decide +kernel
  intro member
  rw [word.2 _ member] at nul
  cases nul

/-- The third part of the text of a trigger is its name. -/
theorem spelling_name_part {r : Requirement} {sql : Option String}
    (trigger : r.artifact ≠ .virtualTable) (table : IsWord r.table) (column : IsWord r.column)
    (met : r.isMetBy sql = true) :
    Spelling Alike (.name r.name.toList) (firstPart (afterParts 2 (Requirement.held sql))) := by
  obtain ⟨clause, -, spelled⟩ := exists_spelling_parts trigger table column met
  generalize r.artifact.clause.length = n at spelled
  rw [Template.parts, Template.parts, Template.parts] at spelled
  simp only [List.forall₂_cons] at spelled
  exact spelled.2.2.1

/-- A text that fits for triggers of two indexes has names for them that differ at most in case. -/
theorem allAlike_names {a b : Artifact} {sql : Option String} (trigger : a ≠ .virtualTable)
    (trigger' : b ≠ .virtualTable) (ht : IsWord table) (hc : IsWord column) (ht' : IsWord table')
    (hc' : IsWord column') (met : (⟨a, table, column⟩ : Requirement).isMetBy sql = true)
    (met' : (⟨b, table', column'⟩ : Requirement).isMetBy sql = true) :
    AllAlike (⟨a, table, column⟩ : Requirement).name.toList
      (⟨b, table', column'⟩ : Requirement).name.toList := by
  have word := isWord_name (r := ⟨a, table, column⟩) trigger ht hc
  have word' := isWord_name (r := ⟨b, table', column'⟩) trigger' ht' hc'
  exact Spelling.allAlike word.2 word'.2 word.1 word'.1
    (spelling_name_part (r := ⟨a, table, column⟩) trigger ht hc met)
    (spelling_name_part (r := ⟨b, table', column'⟩) trigger' ht' hc' met')

/-- The texts of one index are none of another whose name is longer. -/
theorem not_isMetBy_neighbour {a b : Artifact} {sql : Option String}
    (update : a ∈ Artifact.updateTriggers) (trigger : b ≠ .virtualTable) (ht : IsWord table)
    (hc : IsWord column) (ht' : IsWord table') (hc' : IsWord column')
    (begins : (indexName table column ++ "_update").toList <+: (indexName table' column').toList)
    (met' : (⟨b, table', column'⟩ : Requirement).isMetBy sql = true) :
    (⟨a, table, column⟩ : Requirement).isMetBy sql = false := by
  rw [← Bool.not_eq_true]
  intro met
  have notTable : a ≠ .virtualTable := by
    rintro rfl
    exact absurd update (by decide)
  have length := (allAlike_names notTable trigger ht hc ht' hc' met met').length_eq
  have short : ∀ a ∈ Artifact.updateTriggers, a.ending.toList.length = 8 := by decide
  have long : ∀ b : Artifact, b ≠ .virtualTable → 7 ≤ b.ending.toList.length := by
    intro b
    cases b <;> decide
  have longer := begins.length_le
  rw [Requirement.name_eq, Requirement.name_eq, String.toList_append, String.toList_append,
    List.length_append, List.length_append, short a update] at length
  rw [String.toList_append, List.length_append] at longer
  have seven : "_update".toList.length = 7 := by decide
  have ending := long b trigger
  omega

/-- Where the name of a trigger of another index begins like those of the update triggers, so does
the name of that index. -/
theorem isPrefix_indexName {b : Artifact}
    (different : indexName table column ≠ indexName table' column')
    (begins : (indexName table column ++ "_update").toList <+:
      (⟨b, table', column'⟩ : Requirement).name.toList) :
    (indexName table column ++ "_update").toList <+: (indexName table' column').toList := by
  have endings : ∀ b : Artifact, ∀ front ∈ b.ending.toList.inits, front = [] ∨
      front = "_update".toList ∨
      ¬ front <:+ "_update".toList ∧ ¬ "_update".toList <:+ front := by
    intro b
    cases b <;> decide
  obtain ⟨back, begins⟩ := begins
  have whole : (indexName table column ++ "_update").toList ++ back =
      (indexName table' column').toList ++ b.ending.toList := by
    rw [begins, Requirement.name_eq, String.toList_append]
  rcases List.append_eq_append_iff.1 whole with ⟨rest, within, -⟩ | ⟨front, name, ending⟩
  · exact ⟨rest, within.symm⟩
  · have start : front ∈ b.ending.toList.inits := (List.mem_inits _ _).2 ⟨back, ending.symm⟩
    rw [String.toList_append] at name
    rcases endings b front start with rfl | rfl | ⟨longer, shorter⟩
    · exact ⟨[], by rw [List.append_nil, String.toList_append, name, List.append_nil]⟩
    · exact absurd (String.toList_inj.1 (List.append_cancel_right name)) different
    · rcases List.suffix_or_suffix_of_suffix ⟨_, name.symm⟩ ⟨_, rfl⟩ with h | h
      · exact absurd h longer
      · exact absurd h shorter

section Added

variable {start : String} {o : NamedText}

/-- What the triggers of an added index contribute to those with a certain beginning. -/
theorem mem_textsFrom_added (perm : added.Perm (entriesOf table' column' texts)) :
    o ∈ added.textsFrom "trigger" start ↔ ∃ b : Artifact, b ≠ .virtualTable ∧
      start.toList <+: (⟨b, table', column'⟩ : Requirement).name.toList ∧
      o = ((⟨b, table', column'⟩ : Requirement).name, some (texts b)) := by
  have kinds : ∀ b : Artifact, b.kind = "trigger" ↔ b ≠ .virtualTable := by
    intro b
    cases b <;> decide
  have found : o ∈ added.textsFrom "trigger" start ↔
      o ∈ (entriesOf table' column' texts).textsFrom "trigger" start :=
    ((perm.filter _).map _).mem_iff
  rw [found, Catalog.textsFrom, entriesOf, List.filter_map, List.map_map, List.mem_map]
  simp only [List.mem_filter, Function.comp_apply, SchemaObject.kind, SchemaObject.name,
    SchemaObject.sql, Bool.and_eq_true, beq_iff_eq, List.isPrefixOf_iff_prefix, kinds,
    Artifact.mem_all, true_and, and_assoc, @eq_comm _ _ o]

/-- The first of the triggers of an index is the one for deletions. -/
theorem deletion_name_le {b : Artifact} (trigger : b ≠ .virtualTable) :
    (⟨.deleteTrigger, table', column'⟩ : Requirement).name ≤
      (⟨b, table', column'⟩ : Requirement).name := by
  have least : ∀ b : Artifact, b ≠ .virtualTable → b = .deleteTrigger ∨
      Artifact.deleteTrigger.ending.toList < b.ending.toList := by
    intro b
    cases b <;> decide
  rcases least b trigger with rfl | less
  · exact le_refl _
  · exact (Requirement.name_lt_name less).le

theorem deletion_name_le_of_mem (perm : added.Perm (entriesOf table' column' texts)) :
    ∀ o ∈ added.textsFrom "trigger" start,
      (⟨.deleteTrigger, table', column'⟩ : Requirement).name ≤ o.1 := by
  intro o new
  obtain ⟨b, trigger, -, rfl⟩ := (mem_textsFrom_added perm).1 new
  exact deletion_name_le trigger

variable (perm : added.Perm (entriesOf table' column' texts))
  (fresh : ∀ o ∈ c, ∀ a, o.name ≠ (⟨a, table', column'⟩ : Requirement).name)

include perm fresh

/-- The triggers of an added index have names of their own. -/
theorem name_ne_of_added {o o' : NamedText} (old : o ∈ c.textsFrom "trigger" start)
    (new : o' ∈ added.textsFrom "trigger" start) : o.1 ≠ o'.1 := by
  obtain ⟨object, found, rfl⟩ := List.mem_map.1 old
  obtain ⟨b, -, -, rfl⟩ := (mem_textsFrom_added perm).1 new
  exact fresh object (List.mem_filter.1 found).1 b

theorem not_clashes_added (ordered : inOrder (c.textsFrom "trigger" start) = .ok updates) :
    ∀ a ∈ c.textsFrom "trigger" start ++ added.textsFrom "trigger" start,
      ∀ b ∈ c.textsFrom "trigger" start ++ added.textsFrom "trigger" start,
        clashes a b = false := by
  obtain ⟨sortedPerm, sorted⟩ := inOrder_eq_ok.1 ordered
  have apart : ∀ a ∈ c.textsFrom "trigger" start, ∀ b ∈ added.textsFrom "trigger" start,
      clashes a b = false := by
    intro a ha b hb
    rw [← Bool.not_eq_true, clashes_eq_true]
    exact fun clash => name_ne_of_added perm fresh ha hb clash.1
  have among : ∀ a ∈ added.textsFrom "trigger" start, ∀ b ∈ added.textsFrom "trigger" start,
      clashes a b = false := by
    intro a ha b hb
    obtain ⟨_, -, -, rfl⟩ := (mem_textsFrom_added perm).1 ha
    obtain ⟨_, -, -, rfl⟩ := (mem_textsFrom_added perm).1 hb
    rw [← Bool.not_eq_true, clashes_eq_true]
    exact fun clash => clash.2 rfl
  intro a ha b hb
  rcases List.mem_append.1 ha with ha | ha <;> rcases List.mem_append.1 hb with hb | hb
  · exact not_clashes_of_perm sortedPerm sorted a ha b hb
  · exact apart a ha b hb
  · exact clashes_comm.trans (apart b hb a ha)
  · exact among a ha b hb

/-- Where four of the triggers that were there come before all that are added, they keep their
places. -/
theorem exists_inOrder_added (ordered : inOrder (c.textsFrom "trigger" start) = .ok updates)
    (room : 4 ≤ ((c.textsFrom "trigger" start).filter fun o =>
      o.1 < (⟨.deleteTrigger, table', column'⟩ : Requirement).name).length) :
    ∃ updates', inOrder (c.textsFrom "trigger" start ++ added.textsFrom "trigger" start) =
      .ok updates' ∧ updates'.take 4 = updates.take 4 := by
  have clean := not_clashes_added perm fresh ordered
  obtain ⟨rest', after⟩ := exists_inOrder_append _ ordered clean (deletion_name_le_of_mem perm)
  obtain ⟨rest, before⟩ := exists_inOrder_append [] ordered
    (fun a ha b hb => clean a (List.mem_append_left _ (by simpa using ha)) b
      (List.mem_append_left _ (by simpa using hb))) (List.forall_mem_nil _)
  rw [List.append_nil, ordered] at before
  refine ⟨_, after, ?_⟩
  have four := (inOrder_eq_ok.1 (inOrder_filter _ ordered)).1.length_eq ▸ room
  rw [List.take_append_of_le_length four]
  conv_rhs => rw [Except.ok.inj before, List.take_append_of_le_length four]

end Added

theorem foundFor_update {i : Nat} {a : Artifact} (place : Artifact.updateTriggers[i]? = some a) :
    foundFor c table column updates a = (updates.map Prod.snd)[i]?.join := by
  match i with
  | 0 => cases place; rfl
  | 1 => cases place; rfl
  | 2 => cases place; rfl
  | 3 => cases place; rfl
  | _ + 4 => cases place

theorem exists_of_textOf {kind name : String} (h : (c.textOf kind name).isSome) :
    ∃ o ∈ c, o.name = name := by
  obtain ⟨sql, some⟩ := Option.isSome_iff_exists.1 h
  obtain ⟨o, found, -⟩ := Option.bind_eq_some_iff.1 some
  have named := List.find?_some found
  rw [Bool.and_eq_true, beq_iff_eq, beq_iff_eq] at named
  exact ⟨o, List.mem_of_find?_eq_some found, named.2⟩

theorem isSome_of_isMetBy {r : Requirement} {sql : Option String} (met : r.isMetBy sql = true) :
    sql.isSome := by
  cases sql with
  | none => cases met
  | some => rfl

section Beside

variable (ht : IsWord table) (hc : IsWord column) (ht' : IsWord table') (hc' : IsWord column')
  (met : IsComplete c table column updates)
  (met' : ∀ a, (⟨a, table', column'⟩ : Requirement).isMetBy (some (texts a)) = true)
  (perm : added.Perm (entriesOf table' column' texts))
  (fresh : ∀ o ∈ c, ∀ a, o.name ≠ (⟨a, table', column'⟩ : Requirement).name)

include met in
theorem isSome_textOf {a : Artifact} (named : a ∈ Artifact.named) :
    (c.textOf a.kind (⟨a, table, column⟩ : Requirement).name).isSome := by
  have found := isSome_of_isMetBy (met a)
  rwa [foundFor, if_pos named] at found

include met fresh in
/-- The indexes have different names, for otherwise that of the second would be taken. -/
theorem indexName_ne : indexName table column ≠ indexName table' column' := by
  intro same
  obtain ⟨o, ho, name⟩ := exists_of_textOf (isSome_textOf met (a := .virtualTable) (by decide))
  refine fresh o ho .virtualTable ?_
  rw [name, Requirement.name_eq, Requirement.name_eq, same]

include met in
/-- Where the update triggers keep their places, an index remains complete. -/
theorem met_added {updates' : List NamedText} (same : updates'.take 4 = updates.take 4) :
    IsComplete (c ++ added) table column updates' := by
  intro a
  have found :
      foundFor (c ++ added) table column updates' a = foundFor c table column updates a := by
    by_cases named : a ∈ Artifact.named
    · rw [foundFor, foundFor, if_pos named, if_pos named,
        Catalog.textOf_append (isSome_textOf met named)]
    · obtain ⟨i, inside, place⟩ : ∃ i < 4, Artifact.updateTriggers[i]? = some a := by
        revert named
        cases a <;> decide
      rw [foundFor_update place, foundFor_update place, List.getElem?_map, List.getElem?_map,
        ← List.getElem?_take_of_lt inside, same, List.getElem?_take_of_lt inside]
  rw [found]
  exact met a

include ht hc ht' hc' met' perm in
/-- The places of an index that is still complete are taken by triggers that were there before. -/
theorem exists_old {updates' : List NamedText}
    (begins : (indexName table column ++ "_update").toList <+: (indexName table' column').toList)
    (metAdded : IsComplete (c ++ added) table column updates') :
    ∀ i < 4, ∃ u, updates'[i]? = some u ∧
      u ∉ added.textsFrom "trigger" (indexName table column ++ "_update") := by
  intro i inside
  obtain ⟨a, place, update⟩ : ∃ a, Artifact.updateTriggers[i]? = some a ∧
      a ∈ Artifact.updateTriggers :=
    ⟨_, List.getElem?_eq_getElem inside, List.getElem_mem _⟩
  have fits := metAdded a
  rw [foundFor_update place, List.getElem?_map] at fits
  cases here : updates'[i]? with
  | none =>
    rw [here] at fits
    cases fits
  | some u =>
    refine ⟨u, rfl, fun new => ?_⟩
    obtain ⟨b, trigger, -, rfl⟩ := (mem_textsFrom_added perm).1 new
    rw [here] at fits
    exact absurd fits (Bool.eq_false_iff.1
      (not_isMetBy_neighbour update trigger ht hc ht' hc' begins (met' b)))

include ht hc ht' hc' met' perm fresh in
/-- Where an index is still complete, four of its triggers come before all that were added. -/
theorem room_of_met_added {updates' : List NamedText}
    (begins : (indexName table column ++ "_update").toList <+: (indexName table' column').toList)
    (ordered : inOrder (c.textsFrom "trigger" (indexName table column ++ "_update") ++
      added.textsFrom "trigger" (indexName table column ++ "_update")) = .ok updates')
    (metAdded : IsComplete (c ++ added) table column updates') :
    4 ≤ ((c.textsFrom "trigger" (indexName table column ++ "_update")).filter fun o =>
      o.1 < (⟨.deleteTrigger, table', column'⟩ : Requirement).name).length := by
  have old := exists_old ht hc ht' hc' met' perm begins metAdded
  have deletion : ((⟨.deleteTrigger, table', column'⟩ : Requirement).name,
      some (texts .deleteTrigger)) ∈
      added.textsFrom "trigger" (indexName table column ++ "_update") := by
    refine (mem_textsFrom_added perm).2 ⟨.deleteTrigger, by decide, begins.trans ?_, rfl⟩
    rw [Requirement.name_eq, String.toList_append]
    exact List.prefix_append _ _
  have four : 4 ≤ updates'.length := by
    obtain ⟨u, here, -⟩ := old 3 (by decide)
    exact (List.getElem?_eq_some_iff.1 here).1
  have early : ∀ u ∈ updates'.take 4,
      u ∉ added.textsFrom "trigger" (indexName table column ++ "_update") := by
    intro u hu
    obtain ⟨i, inside, rfl⟩ := List.mem_take_iff_getElem.1 hu
    obtain ⟨u, here, notNew⟩ := old i (by omega)
    rw [List.getElem?_eq_getElem (by omega), Option.some.injEq] at here
    exact here ▸ notNew
  have apart := fun u hu => name_ne_of_added perm fresh (o := u) hu deletion
  exact le_length_filter ordered four early deletion (deletion_name_le_of_mem perm) apart

end Beside

/-- An index that is complete remains so beside another one exactly if none of the other's triggers
is counted among the update triggers, or else four of these come before all of them. -/
theorem violations_beside (ht : IsWord table) (hc : IsWord column) (ht' : IsWord table')
    (hc' : IsWord column')
    (complete : (violations (.text table) (.text column)).resultIn c d = .ok [])
    (met' : ∀ a, (⟨a, table', column'⟩ : Requirement).isMetBy (some (texts a)) = true)
    (perm : added.Perm (entriesOf table' column' texts))
    (fresh : ∀ o ∈ c, ∀ a, o.name ≠ (⟨a, table', column'⟩ : Requirement).name) :
    (violations (.text table) (.text column)).resultIn (c ++ added) d = .ok [] ↔
      ((indexName table column ++ "_update").toList <+: (indexName table' column').toList →
        4 ≤ ((c.textsFrom "trigger" (indexName table column ++ "_update")).filter fun o =>
          o.1 < (⟨.deleteTrigger, table', column'⟩ : Requirement).name).length) := by
  obtain ⟨updates, ordered, met⟩ := (violations_eq_nil ht.nulFree hc.nulFree).1 complete
  rw [violations_eq_nil ht.nulFree hc.nulFree, Catalog.textsFrom_append]
  constructor
  · intro h begins
    obtain ⟨updates', ordered', metAdded⟩ := h
    exact room_of_met_added ht hc ht' hc' met' perm fresh begins ordered' metAdded
  · intro room
    by_cases begins : (indexName table column ++ "_update").toList <+:
      (indexName table' column').toList
    · obtain ⟨updates', ordered', same⟩ := exists_inOrder_added perm fresh ordered (room begins)
      exact ⟨updates', ordered', met_added met same⟩
    · have none : added.textsFrom "trigger" (indexName table column ++ "_update") = [] := by
        rw [List.eq_nil_iff_forall_not_mem]
        intro o ho
        obtain ⟨b, -, begins', -⟩ := (mem_textsFrom_added perm).1 ho
        exact begins (isPrefix_indexName (indexName_ne met fresh) begins')
      rw [none, List.append_nil]
      exact ⟨updates, ordered, met_added met rfl⟩

section Samples

/-- The index on a column with a text of each artifact that has its words and names as they
stand. -/
def plainIndex (table column : String) : Catalog :=
  entriesOf table column fun a => (⟨a, table, column⟩ : Requirement).canonicalText

theorem plainIndex_complete (table column : String) (ht : IsWord table) (hc : IsWord column) :
    (violations (.text table) (.text column)).resultIn (plainIndex table column) d = .ok [] :=
  violations_entriesOf ht.nulFree hc.nulFree fun _ => Requirement.isMetBy_canonicalText _

/-- An index has no name of another one if none of its seven names is one of the other's seven. -/
theorem plainIndex_fresh {table' column' : String} (apart : ∀ b ∈ Artifact.all, ∀ a ∈ Artifact.all,
    (⟨b, table, column⟩ : Requirement).name ≠ (⟨a, table', column'⟩ : Requirement).name) :
    ∀ o ∈ plainIndex table column, ∀ a,
      o.name ≠ (⟨a, table', column'⟩ : Requirement).name :=
  List.forall_mem_map.2 fun b hb a => apart b hb a a.mem_all

/-- The triggers of the index on the drafts are counted among the update triggers of the other one,
but come behind all of these. -/
theorem draftIndex_beside : (∀ name ∈ ["roads", "geom", "geom_update_draft"], IsWord name) ∧
    (violations (.text "roads") (.text "geom")).resultIn (plainIndex "roads" "geom")
      ⟨none, false⟩ = .ok [] ∧
    (∀ o ∈ plainIndex "roads" "geom", ∀ a,
      o.name ≠ (⟨a, "roads", "geom_update_draft"⟩ : Requirement).name) ∧
    (violations (.text "roads") (.text "geom")).resultIn
      (plainIndex "roads" "geom" ++ plainIndex "roads" "geom_update_draft") ⟨none, false⟩ =
      .ok [] := by
  have word : ∀ name ∈ ["roads", "geom", "geom_update_draft"], IsWord name := by
    unfold IsWord
    decide +kernel
  have complete := plainIndex_complete (d := ⟨none, false⟩) "roads" "geom"
    (word "roads" (by simp)) (word "geom" (by simp))
  have fresh : ∀ o ∈ plainIndex "roads" "geom", ∀ a,
      o.name ≠ (⟨a, "roads", "geom_update_draft"⟩ : Requirement).name :=
    plainIndex_fresh (by decide +kernel)
  refine ⟨word, complete, fresh, ?_⟩
  refine (violations_beside (word "roads" (by simp)) (word "geom" (by simp))
    (word "roads" (by simp)) (word "geom_update_draft" (by simp)) complete
    (fun a => Requirement.isMetBy_canonicalText _) (List.Perm.refl _) fresh).2 fun _ => ?_
  rw [plainIndex, textsFrom_entriesOf]
  decide +kernel

/-- The triggers of the index on a column with a name like those of update triggers of another one
come before all of these, and the other index is reported for it. -/
theorem namesakeIndex_disturbs : (∀ name ∈ ["roads", "geom", "geom_update0"], IsWord name) ∧
    ¬ AllAlike (indexName "roads" "geom").toList (indexName "roads" "geom_update0").toList ∧
    (violations (.text "roads") (.text "geom")).resultIn (plainIndex "roads" "geom")
      ⟨none, false⟩ = .ok [] ∧
    (violations (.text "roads") (.text "geom_update0")).resultIn
      (plainIndex "roads" "geom_update0") ⟨none, false⟩ = .ok [] ∧
    (∀ o ∈ plainIndex "roads" "geom", ∀ a,
      o.name ≠ (⟨a, "roads", "geom_update0"⟩ : Requirement).name) ∧
    (violations (.text "roads") (.text "geom")).resultIn
      (plainIndex "roads" "geom" ++ plainIndex "roads" "geom_update0") ⟨none, false⟩ ≠ .ok [] := by
  have word : ∀ name ∈ ["roads", "geom", "geom_update0"], IsWord name := by
    unfold IsWord
    decide +kernel
  have roads := word "roads" (by simp)
  have geom := word "geom" (by simp)
  have namesake := word "geom_update0" (by simp)
  have fresh : ∀ o ∈ plainIndex "roads" "geom", ∀ a,
      o.name ≠ (⟨a, "roads", "geom_update0"⟩ : Requirement).name :=
    plainIndex_fresh (by decide +kernel)
  refine ⟨word, fun alike => absurd alike.length_eq (by decide), plainIndex_complete _ _ roads geom,
    plainIndex_complete _ _ roads namesake, fresh, fun complete => ?_⟩
  obtain ⟨updates, ordered, met⟩ := (violations_eq_nil roads.nulFree geom.nulFree).1 complete
  rw [Catalog.textsFrom_append] at ordered
  have room := room_of_met_added roads geom roads namesake
    (fun a => Requirement.isMetBy_canonicalText _) (List.Perm.refl _) fresh (by decide) ordered met
  rw [plainIndex, textsFrom_entriesOf] at room
  revert room
  decide +kernel

end Samples

end SpatialIndex
end GeoConformance
