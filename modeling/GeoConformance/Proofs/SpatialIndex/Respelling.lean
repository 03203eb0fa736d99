import GeoConformance.Proofs.SpatialIndex.Keys
import GeoConformance.Proofs.Template.Respelling

/-!
# Generating texts that are spelled in another way

The templates of a spatial index consist of words, marks and names, and each ends with a word or a
bracket. Where the names are single words, none of this begins or ends with a blank or a semicolon,
so that the spelling of a generating text does not decide whether it is as required.
-/

namespace GeoConformance

namespace Template

open Text

/-- A lexeme whose own characters are no blanks. -/
def IsPlain : Lexeme → Prop
  | .word w => w ≠ [] ∧ AllWord w
  | .mark c => isBlank c = false
  | .placeholder _ | .unequal => True

theorem Lexing.isPlain {s : List Char} {ls : List Lexeme} (h : Lexing s ls) :
    ∀ l ∈ ls, IsPlain l := by
  induction h with
  | done => exact List.forall_mem_nil _
  | blank _ _ ih => exact ih
  | placeholder _ _ _ ih => exact List.forall_mem_cons.2 ⟨trivial, ih⟩
  | word notEmpty word _ _ ih => exact List.forall_mem_cons.2 ⟨⟨notEmpty, word⟩, ih⟩
  | unequal _ _ ih => exact List.forall_mem_cons.2 ⟨trivial, ih⟩
  | mark _ visible _ _ _ ih => exact List.forall_mem_cons.2 ⟨visible, ih⟩

theorem isPlain_of_mem_lexemes {text : String} {l : Lexeme} (h : l ∈ lexemes text) : IsPlain l :=
  (lexing_iff.2 rfl).isPlain l h

/-- A word or a mark that ends neither with a blank nor with a semicolon closes a template. -/
theorem closes_word (front : List Char) {w : List Char} {c : Char} (ends : w = front ++ [c])
    (visible : isBlank c = false) (other : alike c ';' = false) : Closes (.word w) := by
  intro x spelled
  cases spelled with
  | word same =>
    rw [ends] at same
    obtain ⟨front', last, rfl, -, same⟩ := exists_append_of_forall₂ same
    obtain ⟨d, nothing, final, none, rfl⟩ := List.forall₂_cons_left_iff.1 same
    cases none
    refine EndsClosed.append front' ⟨d, rfl, isBlank_of_alike final ▸ visible, ?_⟩
    rintro rfl
    rw [final] at other
    cases other

theorem closes_mark {c : Char} (visible : isBlank c = false) (other : alike c ';' = false) :
    Closes (.mark c) := by
  intro x spelled
  cases spelled with
  | @mark _ d same =>
    refine ⟨d, rfl, isBlank_of_alike same ▸ visible, ?_⟩
    rintro rfl
    rw [same] at other
    cases other

end Template

namespace SpatialIndex

open Template Text

namespace Requirement

variable {r : Requirement} {ts : List Token}

theorem isWord_indexName {table column : String} (wordTable : IsWord table)
    (wordColumn : IsWord column) : IsWord (indexName table column) := by
  have start : AllWord "rtree_".toList := by decide +kernel
  have joint : AllWord "_".toList := by decide +kernel
  have chars : (indexName table column).toList =
      "rtree_".toList ++ table.toList ++ "_".toList ++ column.toList := by
    rw [indexName_eq]
    simp only [String.toList_append]
  refine ⟨by simp [chars], ?_⟩
  rw [chars]
  exact ((start.append wordTable.2).append joint).append wordColumn.2

theorem isSolid_of_stands {l : Lexeme} {t : Token} (table : IsWord r.table)
    (column : IsWord r.column) (plain : IsPlain l) (h : Stands r.binding l t) : IsSolid t := by
  have solid {name : String} (word : IsWord name) : IsSolid (.name name.toList) :=
    ⟨word.1, word.2.noBlank⟩
  cases h with
  | word => exact ⟨plain.1, plain.2.noBlank⟩
  | unequal => trivial
  | mark => exact plain
  | table => exact solid table
  | column => exact solid column
  | index => exact indexName_eq _ _ ▸ solid (isWord_indexName table column)
  | trigger named =>
    obtain ⟨artifact, t, c⟩ := r
    by_cases trigger : artifact = .virtualTable
    · subst trigger
      cases named
    · have word := isWord_name (r := ⟨artifact, t, c⟩) trigger table column
      cases artifact
      case virtualTable => exact absurd rfl trigger
      all_goals
        cases named
        exact solid word
  | anyIdentifier => trivial

theorem closes_tokens (bound : tokens r.artifact.text r.binding = .ok ts) :
    ∀ t ∈ ts.getLast?, Closes t := by
  intro t last
  have stand := List.rel_reverse (tokens_eq_ok.1 bound)
  have lexeme := r.artifact.outline.ends
  rw [← List.head?_reverse] at last lexeme
  generalize (lexemes r.artifact.text).reverse = ls at stand lexeme
  generalize ts.reverse = us at stand last
  cases stand with
  | nil => cases last
  | cons first _ =>
    cases last
    simp only [List.head?_cons, Option.some.injEq] at lexeme
    rw [lexeme] at first
    split at first
    · cases first
      exact closes_mark (by decide) (by decide +kernel)
    · cases first
      exact closes_word ['E', 'N'] (c := 'D') rfl (by decide) (by decide +kernel)

end Requirement

/-- However a text is spelled, it is as required for a column whose name and whose table's name are
single words, or it is not. -/
theorem isMetBy_respelled {r : Requirement} (table : IsWord r.table) (column : IsWord r.column)
    {sql sql' : String} (h : Relation.EqvGen Respelled sql.toList sql'.toList) :
    r.isMetBy (some sql) = r.isMetBy (some sql') := by
  obtain ⟨ts, bound⟩ := r.exists_tokens
  have stand := tokens_eq_ok.1 bound
  have solid : ∀ t ∈ ts, IsSolid t := forall_mem_of_forall₂ stand fun l hl t =>
    Requirement.isSolid_of_stands table column (isPlain_of_mem_lexemes hl)
  have closes := Requirement.closes_tokens bound
  have kept : ∀ s s', Respelled s s' → accepts ts (trimBlanks s) = accepts ts (trimBlanks s') := by
    intro s s' step
    cases ts with
    | nil =>
      have last := r.artifact.outline.ends
      rw [List.forall₂_nil_right_iff.1 stand] at last
      cases last
    | cons t ts => exact accepts_respelled solid closes step
  rw [Requirement.isMetBy_some bound, Requirement.isMetBy_some bound]
  generalize sql.toList = s, sql'.toList = s' at h
  induction h with
  | rel s s' step => exact kept s s' step
  | refl s => rfl
  | symm _ _ _ ih => exact ih.symm
  | trans _ _ _ _ _ first second => exact first.trans second

/-- A trigger in capital letters, on two lines, and ended by a semicolon and a line break. -/
def capitalDeletionText : String :=
  "CREATE TRIGGER rtree_a_b_c_delete\n  AFTER DELETE ON a_b WHEN OLD.\"c\" NOTNULL BEGIN" ++
    " DELETE FROM rtree_a_b_c WHERE i=OLD.i;END;\n"

/-- It is the other spelling of this trigger after four changes. -/
theorem capitalDeletionText_recognized :
    IsWord "a_b" ∧ IsWord "c" ∧
      Relation.EqvGen Respelled deletionText.toList capitalDeletionText.toList ∧
      (⟨.deleteTrigger, "a_b", "c"⟩ : Requirement).isMetBy (some capitalDeletionText) = true := by
  have table : IsWord "a_b" := by
    unfold IsWord
    decide +kernel
  have column : IsWord "c" := by
    unfold IsWord
    decide +kernel
  have respelled : Relation.EqvGen Respelled deletionText.toList capitalDeletionText.toList := by
    have text : capitalDeletionText.toList = "CREATE TRIGGER rtree_a_b_c_delete".toList ++
        ("\n  ".toList ++ ("AFTER DELETE ON a_b WHEN OLD.\"c\" NOTNULL BEGIN".toList ++
          " DELETE FROM rtree_a_b_c WHERE i=OLD.i;END".toList)) ++ [';'] ++ ['\n'] := by
      decide +kernel
    have blank : ∀ g ∈ [['\n'], [' '], "\n  ".toList], AllBlank g := by
      decide +kernel
    rw [text]
    have closed : EndsClosed " DELETE FROM rtree_a_b_c WHERE i=OLD.i;END".toList :=
      ⟨'D', by decide +kernel, by decide, by decide⟩
    refine .trans _ _ _ ?_ (.rel _ _ (.trailing (blank _ (by simp))))
    refine .trans _ _ _ ?_ (.rel _ _ (.semicolon fun front w =>
      (((closed.append _).append _).append _).not_allBlank))
    exact .trans _ _ _ (.rel _ _ (.letters (by decide +kernel)))
      (.rel _ _ (.blanks (by decide) (by decide) (blank [' '] (by simp)) (blank _ (by simp))))
  have met : (⟨.deleteTrigger, "a_b", "c"⟩ : Requirement).isMetBy (some deletionText) = true := by
    decide +kernel
  exact ⟨table, column, respelled,
    (isMetBy_respelled (r := ⟨.deleteTrigger, "a_b", "c"⟩) table column respelled).symm.trans met⟩

end SpatialIndex
end GeoConformance
