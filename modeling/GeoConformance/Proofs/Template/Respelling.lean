import GeoConformance.Proofs.Template.Respacing
import Mathlib.Logic.Relation

/-!
# Spelling a text in another way

A text goes on fitting a template when its letters change case, when the blanks in it are other
ones, when blanks are put around it and when a semicolon is put behind it that was not there. All of
this can be undone as well, so that of two texts that are turned into each other in this way either
both fit or neither does.
-/

namespace GeoConformance
namespace Text

theorem toLower_eq_self {c : Char} (h : ¬ (65 ≤ c.toNat ∧ c.toNat ≤ 90)) : c.toLower = c := by
  unfold Char.toLower
  split
  · rename_i upper
    exact absurd upper h
  · rfl

/-- The capital letters are few enough to look each of them up. -/
theorem toLower_similar (c : Char) :
    alike c c.toLower = true ∧ isWordChar c.toLower = isWordChar c := by
  by_cases upper : 65 ≤ c.toNat ∧ c.toNat ≤ 90
  · have capitals : ∀ n < 91, 65 ≤ n → alike (Char.ofNat n) (Char.ofNat n).toLower = true ∧
        isWordChar (Char.ofNat n).toLower = isWordChar (Char.ofNat n) := by decide +kernel
    have capital := capitals c.toNat (by omega) upper.1
    rwa [Char.ofNat_toNat] at capital
  · rw [toLower_eq_self upper]
    exact ⟨alike_refl c, rfl⟩

theorem alike_of_sameLetter {a b : Char} (h : sameLetter a b = true) : alike a b = true := by
  rw [sameLetter, beq_iff_eq] at h
  have first := (toLower_similar a).1
  rw [h] at first
  exact alike_trans first (alike_comm ▸ (toLower_similar b).1)

theorem sameLetter_comm (a b : Char) : sameLetter a b = sameLetter b a := by
  unfold sameLetter
  exact BEq.comm

theorem isWordChar_of_sameLetter {a b : Char} (h : sameLetter a b = true) :
    isWordChar a = isWordChar b := by
  rw [sameLetter, beq_iff_eq] at h
  rw [← (toLower_similar a).2, h, (toLower_similar b).2]

end Text

namespace Template

open Text

/-- Texts that differ at most in the case of ASCII letters. -/
abbrev SameLetters : List Char → List Char → Prop :=
  List.Forall₂ fun a b => sameLetter a b = true

/-- One change to the spelling of a text. -/
inductive Respelled : List Char → List Char → Prop
  | letters {s s'} : SameLetters s s' → Respelled s s'
  /-- Blanks are replaced by other ones, whether or not more of them stand around. -/
  | blanks {front g g' back} : g ≠ [] → g' ≠ [] → AllBlank g → AllBlank g' →
      Respelled (front ++ (g ++ back)) (front ++ (g' ++ back))
  | leading {g s} : AllBlank g → Respelled s (g ++ s)
  | trailing {g s} : AllBlank g → Respelled s (s ++ g)
  /-- The last character that is no blank is no semicolon yet. -/
  | semicolon {s} : (∀ front w, s = front ++ ';' :: w → ¬ AllBlank w) → Respelled s (s ++ [';'])

section Letters

variable {t : Token} {ts : List Token} {x y s s' : List Char}

theorem SameLetters.allAlike (h : SameLetters x y) : AllAlike x y :=
  h.imp fun _ _ => alike_of_sameLetter

theorem AllAlike.trans (h : AllAlike x y) (h' : AllAlike y s) : AllAlike x s :=
  h.common (h'.flip.imp fun _ _ same => alike_comm.trans same)

theorem SameLetters.allBlank (h : SameLetters x y) (blank : AllBlank x) : AllBlank y :=
  forall_mem_of_forall₂ h fun a ha _ same =>
    isBlank_of_alike (alike_of_sameLetter same) ▸ blank a ha

theorem SameLetters.allWord (h : SameLetters x y) (word : AllWord x) : AllWord y :=
  forall_mem_of_forall₂ h fun a ha _ same => isWordChar_of_sameLetter same ▸ word a ha

theorem SameLetters.startsSolid (h : SameLetters x y) (starts : StartsSolid x) :
    StartsSolid y := by
  obtain ⟨c, first, visible⟩ := starts
  cases h with
  | nil => cases first
  | cons same _ =>
    cases first
    exact ⟨_, rfl, isBlank_of_alike (alike_of_sameLetter same) ▸ visible⟩

theorem SameLetters.endsSolid (h : SameLetters x y) (ends : EndsSolid x) : EndsSolid y := by
  obtain ⟨c, last, visible⟩ := ends
  have starts : StartsSolid x.reverse := ⟨c, by rw [List.head?_reverse, last], visible⟩
  obtain ⟨d, first, visible⟩ := SameLetters.startsSolid (List.rel_reverse h) starts
  exact ⟨d, by rw [← List.head?_reverse, first], visible⟩

theorem SameLetters.exists_doubled {body : List Char}
    (h : SameLetters (Identifier.doubled body) y) :
    ∃ body', y = Identifier.doubled body' ∧ body'.length = body.length := by
  induction body generalizing y with
  | nil => exact ⟨[], List.forall₂_nil_left_iff.1 h, rfl⟩
  | cons c body ih =>
    rw [doubled_cons] at h
    obtain ⟨z, rest, rfl, first, tail⟩ := exists_append_of_forall₂ h
    obtain ⟨body', rfl, length⟩ := ih tail
    split at first
    case isTrue =>
      have quotes := (forall₂_alike_pair (fun _ => alike_quote) fun _ => alike_quote).1
        (SameLetters.allAlike first)
      exact ⟨'"' :: body', by rw [doubled_cons, if_pos rfl, quotes], by simp [length]⟩
    case isFalse other =>
      obtain ⟨d, nothing, same, none, rfl⟩ := List.forall₂_cons_left_iff.1 first
      cases none
      have other' : d ≠ '"' := by
        rintro rfl
        exact other (alike_quote.1 (alike_comm ▸ alike_of_sameLetter same)).symm
      exact ⟨d :: body', by rw [doubled_cons, if_neg other'], by simp [length]⟩

theorem Spelling.relettered (spelled : Spelling Alike t x) (h : SameLetters x y) :
    Spelling Alike t y := by
  have exclamation : ∀ d, alike '!' d = true ↔ '!' = d := fun _ =>
    alike_iff_of_small (by decide +kernel) (by decide) (by decide)
  have equals : ∀ d, alike '=' d = true ↔ '=' = d := fun _ =>
    alike_iff_of_small (by decide +kernel) (by decide) (by decide)
  have less : ∀ d, alike '<' d = true ↔ '<' = d := fun _ =>
    alike_iff_of_small (by decide +kernel) (by decide) (by decide)
  have greater : ∀ d, alike '>' d = true ↔ '>' = d := fun _ =>
    alike_iff_of_small (by decide +kernel) (by decide) (by decide)
  cases spelled with
  | word same => exact .word (AllAlike.trans same h.allAlike)
  | bare same => exact .bare (AllAlike.trans same h.allAlike)
  | quoted same => exact .quoted (AllAlike.trans same h.allAlike)
  | identifier notEmpty word =>
    exact .identifier (AllAlike.ne_nil notEmpty h.allAlike) (h.allWord word)
  | @quotedIdentifier body notEmpty =>
    obtain ⟨front, last, rfl, inside, closing⟩ := exists_append_of_forall₂ h
    rcases inside with _ | ⟨opening, inside⟩
    obtain ⟨body', rfl, length⟩ := SameLetters.exists_doubled inside
    obtain ⟨d, nothing, quote, none, rfl⟩ := List.forall₂_cons_left_iff.1 closing
    cases none
    rw [← alike_quote.1 (alike_of_sameLetter opening),
      ← alike_quote.1 (alike_of_sameLetter quote)]
    refine .quotedIdentifier ?_
    rintro rfl
    exact notEmpty (List.length_eq_zero_iff.1 length.symm)
  | exclamation =>
    rw [(forall₂_alike_pair exclamation equals).1 h.allAlike]
    exact .exclamation
  | brackets =>
    rw [(forall₂_alike_pair less greater).1 h.allAlike]
    exact .brackets
  | mark same =>
    obtain ⟨d, nothing, first, none, rfl⟩ := List.forall₂_cons_left_iff.1 h
    cases none
    exact .mark (alike_trans same (alike_of_sameLetter first))

theorem Ending.relettered (ends : Ending s) (h : SameLetters s s') : Ending s' := by
  obtain ⟨w, e, rfl, blank, ending⟩ := ends
  obtain ⟨w', e', rfl, gap, last⟩ := exists_append_of_forall₂ h
  refine ⟨w', e', rfl, SameLetters.allBlank gap blank, ?_⟩
  rcases ending with rfl | rfl
  · exact .inl (List.forall₂_nil_left_iff.1 last)
  · obtain ⟨d, nothing, same, none, rfl⟩ := List.forall₂_cons_left_iff.1 last
    cases none
    have semicolon : alike ';' d = true ↔ ';' = d :=
      alike_iff_of_small (by decide +kernel) (by decide) (by decide)
    exact .inr (by rw [semicolon.1 (alike_of_sameLetter same)])

theorem WrittenAfter.relettered (written : WrittenAfter Alike t ts s) (h : SameLetters s s') :
    WrittenAfter Alike t ts s' := by
  induction written generalizing s' with
  | ending ends => exact .ending (ends.relettered h)
  | token gap spelled _ ih =>
    obtain ⟨g', rest, rfl, inGap, behind⟩ := exists_append_of_forall₂ h
    obtain ⟨x', s', rfl, inToken, behind⟩ := exists_append_of_forall₂ behind
    refine .token ⟨SameLetters.allBlank inGap gap.1, ?_⟩ (spelled.relettered inToken) (ih behind)
    rintro rfl
    exact gap.2 (List.forall₂_nil_right_iff.1 inGap)

theorem Written.relettered (written : Written Alike ts s) (h : SameLetters s s') :
    Written Alike ts s' := by
  cases written with
  | ending ends => exact .ending (ends.relettered h)
  | token spelled rest =>
    obtain ⟨x', s', rfl, inToken, behind⟩ := exists_append_of_forall₂ h
    exact .token (spelled.relettered inToken) (rest.relettered behind)

theorem SameLetters.flip (h : SameLetters x y) : SameLetters y x :=
  List.Forall₂.flip (h.imp fun _ _ same => (sameLetter_comm _ _).trans same)

theorem SameLetters.trimBlanks (h : SameLetters s s') :
    SameLetters (trimBlanks s) (trimBlanks s') := by
  rcases allBlank_or_solid s with all | ⟨f, m, b, rfl, first, last, starts, ends⟩
  · rw [trimBlanks_of_allBlank all, trimBlanks_of_allBlank (h.allBlank all)]
    exact .nil
  · obtain ⟨f', rest, rfl, before, h⟩ := exists_append_of_forall₂ h
    obtain ⟨m', b', rfl, within, behind⟩ := exists_append_of_forall₂ h
    rw [trimBlanks_eq first last starts ends,
      trimBlanks_eq (SameLetters.allBlank before first) (SameLetters.allBlank behind last)
        (SameLetters.startsSolid within starts) (SameLetters.endsSolid within ends)]
    exact within

end Letters

section Semicolons

variable {t : Token} {ts : List Token} {s x m b : List Char}

/-- A text that ends neither with a blank nor with a semicolon. -/
def EndsClosed (s : List Char) : Prop := ∃ c, s.getLast? = some c ∧ isBlank c = false ∧ c ≠ ';'

/-- A token after which a semicolon is no part of a spelling. -/
def Closes (t : Token) : Prop := ∀ x, Spelling Alike t x → EndsClosed x

theorem EndsClosed.endsSolid (h : EndsClosed s) : EndsSolid s := by
  obtain ⟨c, last, visible, -⟩ := h
  exact ⟨c, last, visible⟩

theorem EndsClosed.append (s : List Char) (h : EndsClosed x) : EndsClosed (s ++ x) := by
  obtain ⟨c, last, closed⟩ := h
  exact ⟨c, by rw [List.getLast?_append, last, Option.some_or], closed⟩

theorem not_endsClosed_semicolon (s : List Char) : ¬ EndsClosed (s ++ [';']) := by
  intro h
  obtain ⟨c, last, -, other⟩ := h
  rw [List.getLast?_append] at last
  cases last
  exact other rfl

theorem EndsClosed.not_allBlank (h : EndsClosed s) {front w : List Char}
    (whole : s = front ++ ';' :: w) : ¬ AllBlank w := by
  intro blank
  obtain ⟨c, last, visible, other⟩ := h
  rw [whole, List.getLast?_append, List.getLast?_cons, Option.some_or] at last
  cases w with
  | nil =>
    cases last
    exact other rfl
  | cons d w =>
    rw [List.getLast?_cons, Option.getD_some, ← List.getLast?_cons] at last
    rw [blank c (List.mem_of_getLast? last)] at visible
    cases visible

/-- What follows the last token may be exchanged for anything else that can follow it. -/
theorem WrittenAfter.exists_core (spelled : Spelling Alike t x) (h : WrittenAfter Alike t ts s)
    (closes : ∀ u ∈ (t :: ts).getLast?, Closes u) :
    ∃ core e, x ++ s = core ++ e ∧ EndsClosed core ∧ Ending e ∧
      ∀ e', Ending e' → ∃ s', core ++ e' = x ++ s' ∧ WrittenAfter Alike t ts s' := by
  induction h generalizing x with
  | ending ends =>
    exact ⟨x, _, rfl, closes _ rfl x spelled, ends, fun e' ending => ⟨e', rfl, .ending ending⟩⟩
  | @token t u us g y s gap spelled' rest ih =>
    rw [List.getLast?_cons_cons] at closes
    obtain ⟨core, e, whole, closed, ends, exchange⟩ := ih spelled' closes
    refine ⟨x ++ (g ++ core), e, by simp [whole], (closed.append g).append x, ends, ?_⟩
    intro e' ending
    obtain ⟨s', whole', written⟩ := exchange e' ending
    exact ⟨g ++ (y ++ s'), by simp [whole'], .token gap spelled' written⟩

theorem Written.exists_core (h : Written Alike (t :: ts) s)
    (closes : ∀ u ∈ (t :: ts).getLast?, Closes u) :
    ∃ core e, s = core ++ e ∧ EndsClosed core ∧ Ending e ∧
      ∀ e', Ending e' → Written Alike (t :: ts) (core ++ e') := by
  cases h with
  | token spelled rest =>
    obtain ⟨core, e, whole, closed, ends, exchange⟩ := rest.exists_core spelled closes
    refine ⟨core, e, whole, closed, ends, fun e' ending => ?_⟩
    obtain ⟨s', whole', written⟩ := exchange e' ending
    rw [whole']
    exact .token spelled written

theorem eq_of_append_blank {w : List Char} (ends : EndsSolid x) (ends' : EndsSolid s)
    (blank : AllBlank w) (blank' : AllBlank b) (h : x ++ w = s ++ b) : x = s := by
  rcases List.append_eq_append_iff.1 h with ⟨a, rfl, rfl⟩ | ⟨a, rfl, rfl⟩
  · rw [ends'.eq_nil (List.forall_mem_append.1 blank).1, List.append_nil]
  · rw [ends.eq_nil (List.forall_mem_append.1 blank').1, List.append_nil]

/-- A semicolon may follow a text that has none at its end, also behind blanks. -/
theorem written_semicolon (ends : EndsClosed m) (blank : AllBlank b)
    (closes : ∀ u ∈ (t :: ts).getLast?, Closes u) :
    Written Alike (t :: ts) (m ++ (b ++ [';'])) ↔ Written Alike (t :: ts) m := by
  constructor
  · intro h
    obtain ⟨core, e, whole, closed, ⟨w, e, rfl, gap, ending⟩, exchange⟩ := h.exists_core closes
    rw [← List.append_assoc, ← List.append_assoc] at whole
    rcases ending with rfl | rfl
    · rw [List.append_nil] at whole
      have last : EndsSolid (core ++ w) := whole ▸ EndsSolid.append (m ++ b) ⟨';', rfl, by decide⟩
      rw [last.eq_nil gap, List.append_nil] at whole
      exact absurd (whole ▸ closed) (not_endsClosed_semicolon _)
    · have same := eq_of_append_blank ends.endsSolid closed.endsSolid blank gap
        (List.append_cancel_right whole)
      have written := exchange [] ⟨[], [], rfl, fun _ hc => (nomatch hc), .inl rfl⟩
      rwa [List.append_nil, ← same] at written
  · intro h
    obtain ⟨core, e, rfl, closed, ⟨w, e, rfl, gap, ending⟩, exchange⟩ := h.exists_core closes
    rcases ending with rfl | rfl
    · rw [List.append_nil] at ends ⊢
      rw [ends.endsSolid.eq_nil gap, List.append_nil]
      exact exchange _ ⟨b, [';'], rfl, blank, .inr rfl⟩
    · rw [← List.append_assoc] at ends
      exact absurd ends (not_endsClosed_semicolon _)

/-- No tokens are spelled by nothing, or by a semicolon alone. -/
theorem not_written_of_length_le_one (closes : ∀ u ∈ (t :: ts).getLast?, Closes u)
    (h : s = [] ∨ s = [';']) : ¬ Written Alike (t :: ts) s := by
  intro written
  obtain ⟨core, e, whole, closed, -, -⟩ := written.exists_core closes
  obtain ⟨c, last, -, other⟩ := closed
  cases core with
  | nil => cases last
  | cons d core =>
    rcases h with rfl | rfl
    · cases whole
    · obtain ⟨rfl, rest⟩ := List.cons.inj whole
      rw [(List.append_eq_nil_iff.1 rest.symm).1] at last
      cases last
      exact other rfl

end Semicolons

section Acceptance

variable {t : Token} {ts : List Token} {s s' : List Char}

/-- Tokens are spelled by a text just when they are spelled by what it is turned into. -/
theorem accepts_respelled (solid : ∀ u ∈ t :: ts, IsSolid u)
    (closes : ∀ u ∈ (t :: ts).getLast?, Closes u) (h : Respelled s s') :
    accepts (t :: ts) (trimBlanks s) = accepts (t :: ts) (trimBlanks s') := by
  rw [Bool.eq_iff_iff, accepts_iff, accepts_iff]
  cases h with
  | letters same =>
    exact ⟨fun h => h.relettered same.trimBlanks, fun h => h.relettered same.flip.trimBlanks⟩
  | blanks notEmpty notEmpty' blank blank' =>
    rcases trimBlanks_respaced notEmpty blank blank' with same | ⟨u, v, within, within'⟩
    · rw [same]
    · rw [within, within']
      exact ⟨fun h => h.respaced notEmpty notEmpty' blank blank' solid,
        fun h => h.respaced notEmpty' notEmpty blank' blank solid⟩
  | leading blank => rw [trimBlanks_append_left blank]
  | trailing blank => rw [trimBlanks_append_right blank]
  | semicolon noSemicolon =>
    rcases allBlank_or_solid s with all | ⟨f, m, b, rfl, first, last, starts, ends⟩
    · have single : trimBlanks (s ++ [';']) = [';'] := by
        rw [trimBlanks_append_left all]
        decide
      rw [trimBlanks_of_allBlank all, single]
      exact iff_of_false (not_written_of_length_le_one closes (.inl rfl))
        (not_written_of_length_le_one closes (.inr rfl))
    · have closed : EndsClosed m := by
        obtain ⟨c, lastChar, visible⟩ := ends
        refine ⟨c, lastChar, visible, ?_⟩
        rintro rfl
        obtain ⟨front, rfl⟩ := List.getLast?_eq_some_iff.1 lastChar
        exact noSemicolon (f ++ front) b (by simp) last
      have extended := trimBlanks_eq (f := f) (m := m ++ (b ++ [';'])) (b := []) first
        (fun _ hc => nomatch hc) (starts.append _)
        ((EndsSolid.append b ⟨';', rfl, by decide⟩).append m)
      rw [List.append_nil] at extended
      rw [trimBlanks_eq first last starts ends, List.append_assoc, List.append_assoc, extended,
        written_semicolon closed last closes]

end Acceptance

end Template
end GeoConformance
