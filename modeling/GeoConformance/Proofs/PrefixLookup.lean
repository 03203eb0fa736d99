import GeoConformance.Proofs.NamedTexts
import GeoConformance.Proofs.Schema
import Mathlib.Data.List.Nodup

/-!
# Looking up schema objects

The generating text of one object is that of the first of its kind and name. Objects whose names
begin alike are found by a wildcard pattern and then by their names, so that the pattern has only to
let none of them out.
-/

namespace GeoConformance

namespace Identifier

open Text

/-- How one character stands in a wildcard pattern. -/
def escaped (c : Char) : List Char := if c = '\\' ∨ c = '%' ∨ c = '_' then ['\\', c] else [c]

theorem toList_escapeWildcards (s : String) :
    (escapeWildcards "\\" s).toList = s.toList.flatMap escaped := by
  have escape : "\\".toList = ['\\'] := rfl
  have single : ∀ c : Char, ((if c = '\\' then ['\\', '\\'] else [c]).flatMap fun c =>
      (if c = '%' then ['\\', '%'] else [c]).flatMap fun c =>
        if c = '_' then ['\\', '_'] else [c]) = escaped c := by
    intro c
    by_cases backslash : c = '\\'
    · rw [backslash]
      decide
    · by_cases percent : c = '%'
      · rw [percent]
        decide
      · by_cases underscore : c = '_'
        · rw [underscore]
          decide
        · simp [escaped, backslash, percent, underscore]
  simp only [escapeWildcards, String.toList_ofList, escape, replaceAll_singleton,
    List.flatMap_assoc, List.cons_append, List.nil_append, single]

theorem matchesPattern_percent (s : List Char) : matchesPattern '\\' ['%'] s = true := by
  have rest : (ends s).any (matchesPattern '\\' []) = true :=
    List.any_eq_true.2 ⟨[], mem_ends.2 List.nil_suffix, rfl⟩
  rw [matchesPattern.eq_def]
  simp [rest]

/-- A character in its escaped form stands for itself, up to the case of ASCII letters. -/
theorem matchesPattern_escaped (c d : Char) (pattern s : List Char) :
    matchesPattern '\\' (escaped c ++ pattern) (d :: s) =
      (sameLetter c d && matchesPattern '\\' pattern s) := by
  by_cases special : c = '\\' ∨ c = '%' ∨ c = '_'
  · rw [escaped, if_pos special, List.cons_append, matchesPattern.eq_def]
    simp
  · rw [escaped, if_neg special, List.cons_append, matchesPattern.eq_def]
    simp only [not_or] at special
    simp [special]

theorem matchesPattern_escaped_nil (c : Char) (pattern : List Char) :
    matchesPattern '\\' (escaped c ++ pattern) [] = false := by
  by_cases special : c = '\\' ∨ c = '%' ∨ c = '_'
  · rw [escaped, if_pos special, List.cons_append, matchesPattern.eq_def]
    simp
  · rw [escaped, if_neg special, List.cons_append, matchesPattern.eq_def]
    simp only [not_or] at special
    simp [special]

/-- The pattern for the names that begin like this lets in those that do so up to the case of ASCII
letters, and no others. -/
theorem matchesPattern_iff {start name : List Char} :
    matchesPattern '\\' (start.flatMap escaped ++ ['%']) name = true ↔
      start.map Char.toLower <+: name.map Char.toLower := by
  induction start generalizing name with
  | nil => simpa using matchesPattern_percent name
  | cons c start ih =>
    rw [List.flatMap_cons, List.append_assoc]
    cases name with
    | nil => simp [matchesPattern_escaped_nil]
    | cons d name =>
      rw [matchesPattern_escaped, Bool.and_eq_true, ih, List.map_cons, List.map_cons,
        List.cons_prefix_cons]
      simp [sameLetter]

theorem matchesPattern_of_prefix {start name : List Char} (h : start <+: name) :
    matchesPattern '\\' (start.flatMap escaped ++ ['%']) name = true :=
  matchesPattern_iff.2 (h.map Char.toLower)

end Identifier

namespace Catalog

variable {c : Catalog} {kind name start : String}

/-- The generating text of the first object of a kind and name, if there is one. -/
def textOf (c : Catalog) (kind name : String) : Option String :=
  (c.find? fun o => o.kind == kind && o.name == name).bind SchemaObject.sql

/-- The names and generating texts of the objects of a kind whose names begin like this. -/
def textsFrom (c : Catalog) (kind start : String) : List Check.NamedText :=
  (c.filter fun o => o.kind == kind && start.toList.isPrefixOf o.name.toList).map
    fun o => (o.name, o.sql)

theorem definitions_head : (c.definitions kind name).head?.join = c.textOf kind name := by
  rw [definitions, textOf, List.head?_map, List.head?_filter]
  cases c.find? fun o => o.kind == kind && o.name == name <;> rfl

theorem definitionsLike_filter :
    ((c.definitionsLike kind (Identifier.escapeWildcards "\\" start ++ "%")).filter
      fun o => start.toList.isPrefixOf o.1.toList) = c.textsFrom kind start := by
  have percent : "%".toList = ['%'] := rfl
  rw [definitionsLike, textsFrom, List.filter_map, List.filter_filter]
  congr 1
  apply List.filter_congr
  intro o _
  simp only [Function.comp_apply, String.toList_append, Identifier.toList_escapeWildcards, percent]
  by_cases begins : start.toList.isPrefixOf o.name.toList = true
  · simp [begins, Identifier.matchesPattern_of_prefix (List.isPrefixOf_iff_prefix.1 begins)]
  · simp [begins]

end Catalog

namespace Check

variable {c : Catalog} {d : Deadline} {name kind : String}

theorem resultIn_definition (usable : (Value.text name).IsUsable) :
    (definition (.text name) kind).resultIn c d = .ok (c.textOf kind name) := by
  have replied : (reply (.definitions kind name)).resultIn c d = .ok (c.definitions kind name) :=
    resultIn_reply_eq_ok.2 rfl
  have named : (nameOf (.text name)).resultIn c d = .ok name := nameOf_eq_ok.2 ⟨rfl, usable⟩
  rw [definition, resultIn_bind, named]
  change (reply _ >>= _ : Check (Option String)).resultIn c d = _
  rw [resultIn_bind, replied, ← Catalog.definitions_head]
  rfl

theorem resultIn_definitionsFrom (usable : (Value.text name).IsUsable) :
    (definitionsFrom (.text name) kind).resultIn c d =
      (ofExcept (inOrder (c.textsFrom kind name))).resultIn c d := by
  have replied : (reply (.definitionsFrom kind name)).resultIn c d =
      .ok (c.definitionsLike kind (Identifier.escapeWildcards "\\" name ++ "%")) :=
    resultIn_reply_eq_ok.2 rfl
  have named : (nameOf (.text name)).resultIn c d = .ok name := nameOf_eq_ok.2 ⟨rfl, usable⟩
  rw [definitionsFrom, resultIn_bind, named]
  change (reply _ >>= _ : Check (List NamedText)).resultIn c d = _
  rw [resultIn_bind, replied, ← Catalog.definitionsLike_filter]
  rfl

/-- Under pairwise different names no two objects have one name, so there is an order. -/
theorem exists_inOrder_textsFrom (kind name : String)
    (distinct : (c.map SchemaObject.name).Nodup) :
    ∃ found, inOrder (c.textsFrom kind name) = .ok found ∧
      found.Perm (c.textsFrom kind name) ∧ found.Pairwise fun a b => a.1 < b.1 := by
  have names : ((c.textsFrom kind name).map Prod.fst).Nodup := by
    rw [Catalog.textsFrom, List.map_map]
    exact (List.filter_sublist.map _).nodup distinct
  have clean : ∀ a ∈ c.textsFrom kind name, ∀ b ∈ c.textsFrom kind name, clashes a b = false := by
    intro a ha b hb
    rw [← Bool.not_eq_true, clashes_eq_true]
    rintro ⟨same, kinds⟩
    exact kinds (congrArg (fun o => o.2.isSome) (List.inj_on_of_nodup_map names ha hb same))
  obtain ⟨found, ordered⟩ := exists_inOrder clean
  obtain ⟨perm, sorted⟩ := inOrder_eq_ok.1 ordered
  have apart : (found.map Prod.fst).Nodup := (perm.map Prod.fst).nodup_iff.2 names
  refine ⟨found, ordered, perm, ?_⟩
  refine (sorted.and (List.pairwise_map.1 apart)).imp fun h => ?_
  exact lt_of_le_of_ne h.1.name_le h.2

/-- A look-up by the beginning of a name reports the objects of the kind whose names begin exactly
like this, each once and in the order of their names, because the pattern that the database sees
lets in whatever begins like this up to case. -/
theorem definitionsFrom_reports {start : String} (usable : (Value.text start).IsUsable)
    (distinct : (c.map SchemaObject.name).Nodup) :
    (∃ found, (definitionsFrom (.text start) kind).resultIn c d = .ok found ∧
      (found.Pairwise fun a b => a.1 < b.1) ∧
      ∀ o, o ∈ found ↔ ∃ object ∈ c, object.kind = kind ∧
        start.toList <+: object.name.toList ∧ o = (object.name, object.sql)) ∧
    ∀ name : String,
      Identifier.matchesPattern '\\' (Identifier.escapeWildcards "\\" start ++ "%").toList
          name.toList = true ↔
        start.toList.map Char.toLower <+: name.toList.map Char.toLower := by
  constructor
  · obtain ⟨found, ordered, perm, sorted⟩ :=
      exists_inOrder_textsFrom kind start distinct
    refine ⟨found, ?_, sorted, fun o => ?_⟩
    · rw [resultIn_definitionsFrom usable, ordered]
      rfl
    · rw [perm.mem_iff, Catalog.textsFrom]
      simp only [List.mem_map, List.mem_filter, Bool.and_eq_true, beq_iff_eq,
        List.isPrefixOf_iff_prefix, and_assoc, @eq_comm _ o]
  · intro name
    have percent : "%".toList = ['%'] := rfl
    rw [String.toList_append, Identifier.toList_escapeWildcards, percent]
    exact Identifier.matchesPattern_iff

/-- Of these only the first two are triggers whose names begin with `t_%`. -/
def percentTriggers : Catalog :=
  [.entry "t_%2" "trigger" (some "second"), .entry "t_%1" "trigger" none,
    .entry "T_%3" "trigger" (some "capital"), .entry "tx%4" "trigger" (some "other"),
    .entry "t_%5" "table" (some "table")]

theorem percentTriggers_found :
    ((Value.text "t_%").IsUsable ∧ (percentTriggers.map SchemaObject.name).Nodup) ∧
    (∃ found, (definitionsFrom (.text "t_%") "trigger").resultIn percentTriggers ⟨none, false⟩ =
        .ok found ∧ (found.Pairwise fun a b => a.1 < b.1) ∧
      ("t_%1", none) ∈ found ∧ ("t_%2", some "second") ∈ found ∧
      ("T_%3", some "capital") ∉ found) ∧
    Identifier.matchesPattern '\\' (Identifier.escapeWildcards "\\" "t_%" ++ "%").toList
      "T_%3".toList = true := by
  have usable : (Value.text "t_%").IsUsable := Value.isUsable_text.2 (by decide)
  have distinct : (percentTriggers.map SchemaObject.name).Nodup := by decide
  obtain ⟨⟨found, reported, sorted, members⟩, pattern⟩ :=
    @definitionsFrom_reports percentTriggers ⟨none, false⟩ "trigger" "t_%" usable distinct
  refine ⟨⟨usable, distinct⟩, ⟨found, reported, sorted, ?_, ?_, ?_⟩, (pattern "T_%3").2 (by decide)⟩
  · exact (members _).2 ⟨.entry "t_%1" "trigger" none, by decide, rfl, by decide, rfl⟩
  · exact (members _).2 ⟨.entry "t_%2" "trigger" (some "second"), by decide, rfl, by decide, rfl⟩
  · rw [members]
    decide

end Check
end GeoConformance
