import GeoConformance.Proofs.RelatedTables.Requirements
import Mathlib.Logic.ExistsUnique

/-!
# Relation names

An extended relation name can be read in one way only: its author ends at the separator, which no
author and no title holds. Around such a name nothing can stand, except that its title may go on.
-/

namespace GeoConformance
namespace RelationName

open Text

/-- At least one word character, and no underscore among them. -/
def IsSegment (s : List Char) : Prop := s ≠ [] ∧ ∀ c ∈ s, isWordChar c = true ∧ c ≠ '_'

def isSeparator (c : Char) : Bool := c == '-' || c == '_'

theorem isAlphanumeric_iff {c : Char} :
    isAlphanumeric c = true ↔ isWordChar c = true ∧ c ≠ '_' := by
  constructor
  · intro letter
    refine ⟨isWordChar_of_isAlphanumeric letter, ?_⟩
    rintro rfl
    rw [isAlphanumeric_underscore] at letter
    cases letter
  · intro h
    obtain ⟨word, other⟩ := h
    simpa [isWordChar, other] using word

theorem isSegment_iff {s : List Char} : isSegment s = true ↔ IsSegment s := by
  simp only [isSegment, IsSegment, Bool.and_eq_true, Bool.not_eq_true', List.isEmpty_eq_false_iff,
    List.all_eq_true, isAlphanumeric_iff, ne_eq]

theorem isSeparator_iff {c : Char} : isSeparator c = true ↔ c = '-' ∨ c = '_' := by
  simp [isSeparator]

theorem countP_isSeparator_eq_zero {s : List Char} :
    s.countP isSeparator = 0 ↔ ∀ c ∈ s, c ≠ '-' ∧ c ≠ '_' := by
  simp only [List.countP_eq_zero, isSeparator_iff, not_or, ne_eq]

theorem IsSegment.countP_eq_zero {s : List Char} (h : IsSegment s) :
    s.countP isSeparator = 0 := by
  rw [List.countP_eq_zero]
  intro c hc separator
  have letter := isAlphanumeric_iff.2 (h.2 c hc)
  rw [separator_not_alphanumeric (isSeparator_iff.1 separator)] at letter
  cases letter

/-- An extended relation name, given by its parts. -/
structure ExtendedName where
  author : List Char
  separator : Char
  title : List Char
  isAuthor : IsSegment author
  separates : isSeparator separator = true
  isTitle : IsSegment title

namespace ExtendedName

def text (n : ExtendedName) : String :=
  String.ofList ('x' :: '-' :: (n.author ++ n.separator :: n.title))

@[simp] theorem toList_text (n : ExtendedName) :
    n.text.toList = 'x' :: '-' :: (n.author ++ n.separator :: n.title) := String.toList_ofList

/-- Two authors that are followed by separators end at the same place. -/
theorem text_injective : Function.Injective text := by
  intro m n same
  have lists := congrArg String.toList same
  simp only [toList_text, List.cons.injEq, true_and] at lists
  have author : ∀ n : ExtendedName,
      (n.author ++ n.separator :: n.title).takeWhile isAlphanumeric = n.author := by
    intro n
    rw [List.takeWhile_append_of_pos fun c hc => isAlphanumeric_iff.2 (n.isAuthor.2 c hc)]
    simp [separator_not_alphanumeric (isSeparator_iff.1 n.separates)]
  have authors : m.author = n.author := by rw [← author m, lists, author n]
  rw [authors, List.append_cancel_left_eq, List.cons.injEq] at lists
  cases m
  cases n
  cases authors
  cases lists.1
  cases lists.2
  rfl

theorem isExtended_iff_exists {name : String} :
    IsExtended name.toList ↔ ∃ n : ExtendedName, name = n.text := by
  constructor
  · intro h
    obtain ⟨author, separator, title, parts, isAuthor, separates, isTitle⟩ := h
    refine ⟨⟨author, separator, title, isSegment_iff.1 isAuthor, isSeparator_iff.2 separates,
      isSegment_iff.1 isTitle⟩, ?_⟩
    rw [← String.toList_inj, toList_text, parts]
  · intro h
    obtain ⟨n, rfl⟩ := h
    exact ⟨n.author, n.separator, n.title, n.toList_text, isSegment_iff.2 n.isAuthor,
      isSeparator_iff.1 n.separates, isSegment_iff.2 n.isTitle⟩

/-- The hyphen behind the x, and the separator. -/
theorem countP_isSeparator (n : ExtendedName) : n.text.toList.countP isSeparator = 2 := by
  have mark : isSeparator 'x' = false := by decide
  have hyphen : isSeparator '-' = true := by decide
  simp [n.isAuthor.countP_eq_zero, n.isTitle.countP_eq_zero, n.separates, mark, hyphen]

theorem mem_text {n : ExtendedName} {c : Char} (h : c ∈ n.text.toList) :
    c = '-' ∨ isWordChar c = true := by
  simp only [toList_text, List.mem_cons, List.mem_append] at h
  rcases h with rfl | rfl | author | rfl | title
  · exact .inr (by decide)
  · exact .inl rfl
  · exact .inr (n.isAuthor.2 c author).1
  · rcases isSeparator_iff.1 n.separates with hyphen | underscore
    · exact .inl hyphen
    · exact .inr (underscore ▸ isWordChar_underscore)
  · exact .inr (n.isTitle.2 c title).1

/-- The name with a longer title. -/
def extend (n : ExtendedName) (more : List Char)
    (letters : ∀ c ∈ more, isWordChar c = true ∧ c ≠ '_') : ExtendedName :=
  { n with
    title := n.title ++ more
    isTitle := ⟨by simp [n.isTitle.1], List.forall_mem_append.2 ⟨n.isTitle.2, letters⟩⟩ }

end ExtendedName

theorem known_plain {name : String} (h : name ∈ ["features", "simple_attributes", "media"]) :
    (∀ c ∈ name.toList, c = '-' ∨ isWordChar c = true) ∧
      name.toList.countP isSeparator ≤ 2 ∧ name.toList.head? ≠ some 'X' := by
  have letters : name.toList.all (fun c => c == '-' || isWordChar c) = true := by
    revert name
    decide
  refine ⟨by simpa using letters, ?_⟩
  revert name
  decide

theorem isValid_text_iff {name : String} :
    isValid (.text name) = true ↔
      name ∈ ["features", "simple_attributes", "media"] ∨ ∃ n : ExtendedName, name = n.text := by
  rw [isValid_iff, ← ExtendedName.isExtended_iff_exists]
  simp [IsAccepted]

/-- No name that stands alone holds an extended one. -/
theorem not_mem_known_of_hyphen {name : String} (h : '-' ∈ name.toList) :
    name ∉ ["features", "simple_attributes", "media"] := by
  have none : ∀ known ∈ ["features", "simple_attributes", "media"], '-' ∉ known.toList := by decide
  exact fun known => none name known h

/-- Text before an extended name cannot begin like one, and text behind it must go on with its
title, for the name itself has all the separators that there can be. -/
theorem isValid_around_iff (n : ExtendedName) (before after : String) :
    isValid (.text (before ++ n.text ++ after)) = true ↔
      before = "" ∧ ∀ c ∈ after.toList, isWordChar c = true ∧ c ≠ '_' := by
  constructor
  · intro valid
    have hyphen : '-' ∈ (before ++ n.text ++ after).toList := by simp
    obtain ⟨m, whole⟩ := (isValid_text_iff.1 valid).resolve_left (not_mem_known_of_hyphen hyphen)
    have lists := congrArg String.toList whole
    rw [String.toList_append, String.toList_append] at lists
    have counts := congrArg (List.countP isSeparator) lists
    rw [List.countP_append, List.countP_append, n.countP_isSeparator, m.countP_isSeparator] at counts
    have noneBefore := countP_isSeparator_eq_zero.1
      (show before.toList.countP isSeparator = 0 by omega)
    have noneAfter := countP_isSeparator_eq_zero.1
      (show after.toList.countP isSeparator = 0 by omega)
    constructor
    · rw [← String.toList_eq_nil_iff]
      cases start : before.toList with
      | nil => rfl
      | cons first rest =>
        rw [start] at noneBefore lists
        cases rest with
        | nil => simp at lists
        | cons second rest =>
          simp only [List.cons_append, ExtendedName.toList_text, List.cons.injEq] at lists
          exact absurd lists.2.1 (noneBefore second (by simp)).1
    · intro c hc
      have member : c ∈ m.text.toList := lists ▸ List.mem_append_right _ hc
      obtain ⟨noHyphen, noUnderscore⟩ := noneAfter c hc
      exact ⟨(ExtendedName.mem_text member).resolve_left noHyphen, noUnderscore⟩
  · intro h
    obtain ⟨rfl, letters⟩ := h
    refine isValid_text_iff.2 (.inr ⟨n.extend after.toList letters, ?_⟩)
    rw [← String.toList_inj]
    simp [ExtendedName.extend]

/-- The accepted relation names are three that stand alone and the extended ones, each of which has
one reading. They hold word characters and hyphens only, so no line end or blank; they have no third
separator and no capital X in front. -/
theorem isValid_iff_reading :
    (∀ v, isValid v = true ↔
      (∃ name ∈ ["features", "simple_attributes", "media"], v = .text name) ∨
        ∃! n : ExtendedName, v = .text n.text) ∧
    (∀ name, isValid (.text name) = true →
      (∀ c ∈ name.toList, c = '-' ∨ isWordChar c = true) ∧
        name.toList.countP isSeparator ≤ 2 ∧ name.toList.head? ≠ some 'X') ∧
    ∀ (n : ExtendedName) (before after : String),
      isValid (.text (before ++ n.text ++ after)) = true ↔
        before = "" ∧ ∀ c ∈ after.toList, isWordChar c = true ∧ c ≠ '_' := by
  refine ⟨fun v => ?_, fun name valid => ?_, isValid_around_iff⟩
  · have unique : (∃! n : ExtendedName, v = .text n.text) ↔ ∃ n : ExtendedName, v = .text n.text := by
      refine ⟨ExistsUnique.exists, fun h => ?_⟩
      obtain ⟨n, rfl⟩ := h
      exact ⟨n, rfl, fun m same => ExtendedName.text_injective (Value.text.inj same).symm⟩
    rw [unique]
    cases v with
    | text name => simp [isValid_text_iff]
    | null => simp [isValid]
    | number x => simp [isValid]
    | blob bytes => simp [isValid]
  · rcases isValid_text_iff.1 valid with known | ⟨n, rfl⟩
    · exact known_plain known
    · exact ⟨fun c hc => ExtendedName.mem_text hc, Nat.le_of_eq n.countP_isSeparator, by simp⟩

theorem acmePhotos_read :
    isValid (.text "x-acme_photos") = true ∧
      (∃! n : ExtendedName, Value.text "x-acme_photos" = .text n.text) ∧
      (∀ c ∈ "x-acme_photos".toList, c = '-' ∨ isWordChar c = true) ∧
        "x-acme_photos".toList.countP isSeparator ≤ 2 ∧
        "x-acme_photos".toList.head? ≠ some 'X' := by
  have valid : isValid (.text "x-acme_photos") = true := by decide
  have reading := (isValid_iff_reading.1 (.text "x-acme_photos")).1 valid
  exact ⟨valid, reading.resolve_left (by decide), isValid_iff_reading.2.1 "x-acme_photos" valid⟩

example : isValid (.text "x-acme-photos\n") = false := by decide

end RelationName
end GeoConformance
