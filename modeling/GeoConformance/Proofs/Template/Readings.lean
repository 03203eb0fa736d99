import GeoConformance.Proofs.Template.Parts

/-!
# Ways to read a text

A text is read along a template by giving each token the stretch that spells it. A text that fits
can often be read in more than one way, since an identifier may end in several places. Conversely,
whatever spellings are chosen for the tokens, with blanks between them they make up a text that can
be read in this way.
-/

namespace GeoConformance
namespace Template

open Text

/-- A way to read a text along some tokens, after another one: what spells each of them. -/
inductive ReadsAfter : Token → List Token → List (List Char) → List Char → Prop
  | ending {t s} : Ending s → ReadsAfter t [] [] s
  | token {t u us g x xs s} : Gap t u g → Spelling Alike u x → ReadsAfter u us xs s →
      ReadsAfter t (u :: us) (x :: xs) (g ++ (x ++ s))

inductive Reads : List Token → List (List Char) → List Char → Prop
  | ending {s} : Ending s → Reads [] [] s
  | token {t ts x xs s} : Spelling Alike t x → ReadsAfter t ts xs s →
      Reads (t :: ts) (x :: xs) (x ++ s)

/-- Spellings with a blank before each, and a semicolon last. -/
def sentenceAfter : List (List Char) → List Char
  | [] => [';']
  | x :: xs => ' ' :: (x ++ sentenceAfter xs)

def sentence : List (List Char) → List Char
  | [] => [';']
  | x :: xs => x ++ sentenceAfter xs

/-- A spelling of each token, given one for identifiers. -/
def Token.spelledWith (key : List Char) : Token → List Char
  | .word w => w
  | .name n => n
  | .anyIdentifier => key
  | .unequal => ['!', '=']
  | .mark c => [c]

section Reads

variable {t : Token} {ts : List Token} {xs : List (List Char)} {s : List Char}

theorem exists_readsAfter_iff : (∃ xs, ReadsAfter t ts xs s) ↔ WrittenAfter Alike t ts s := by
  constructor
  · rintro ⟨xs, reads⟩
    induction reads with
    | ending ends => exact .ending ends
    | token gap spelled _ ih => exact .token gap spelled ih
  · intro written
    induction written with
    | ending ends => exact ⟨[], .ending ends⟩
    | token gap spelled _ ih =>
      obtain ⟨xs, reads⟩ := ih
      exact ⟨_ :: xs, .token gap spelled reads⟩

theorem exists_reads_iff : (∃ xs, Reads ts xs s) ↔ Written Alike ts s := by
  constructor
  · intro h
    obtain ⟨xs, reads⟩ := h
    cases reads with
    | ending ends => exact .ending ends
    | token spelled reads => exact .token spelled (exists_readsAfter_iff.1 ⟨_, reads⟩)
  · intro written
    cases written with
    | ending ends => exact ⟨[], .ending ends⟩
    | token spelled written =>
      obtain ⟨xs, reads⟩ := exists_readsAfter_iff.2 written
      exact ⟨_ :: xs, .token spelled reads⟩

theorem ReadsAfter.spelled (h : ReadsAfter t ts xs s) : List.Forall₂ (Spelling Alike) ts xs := by
  induction h with
  | ending _ => exact .nil
  | token _ spelled _ ih => exact .cons spelled ih

theorem Reads.spelled (h : Reads ts xs s) : List.Forall₂ (Spelling Alike) ts xs := by
  cases h with
  | ending _ => exact .nil
  | token spelled reads => exact .cons spelled reads.spelled

theorem ending_semicolon : Ending [';'] :=
  ⟨[], [';'], rfl, fun _ hc => (nomatch hc), .inr rfl⟩

theorem readsAfter_sentence (t : Token) (h : List.Forall₂ (Spelling Alike) ts xs) :
    ReadsAfter t ts xs (sentenceAfter xs) := by
  induction h generalizing t with
  | nil => exact .ending ending_semicolon
  | @cons u x us xs spelled _ ih =>
    have blank : isBlank ' ' = true := by decide
    have gap : Gap t u [' '] := ⟨by simp [AllBlank, blank], fun empty => nomatch empty⟩
    exact .token gap spelled (ih u)

/-- Whatever spellings are chosen, there is a text that is read in this way. -/
theorem reads_sentence (h : List.Forall₂ (Spelling Alike) ts xs) : Reads ts xs (sentence xs) := by
  cases h with
  | nil => exact .ending ending_semicolon
  | @cons t x ts xs spelled rest => exact .token spelled (readsAfter_sentence t rest)

theorem exists_sentenceAfter (xs : List (List Char)) :
    ∃ front, sentenceAfter xs = front ++ [';'] := by
  induction xs with
  | nil => exact ⟨[], rfl⟩
  | cons x xs ih =>
    obtain ⟨front, ends⟩ := ih
    exact ⟨' ' :: (x ++ front), by simp [sentenceAfter, ends]⟩

end Reads

instance (t : Token) (x : List Char) : Decidable (Spelling Alike t x) :=
  decidable_of_iff ([] ∈ t.remainders x) (by simp [mem_remainders])

theorem spelling_spelledWith {key : List Char} (spelled : Spelling Alike .anyIdentifier key)
    (t : Token) : Spelling Alike t (t.spelledWith key) := by
  have refl (w : List Char) : AllAlike w w := List.forall₂_same.2 fun c _ => alike_refl c
  cases t with
  | word w => exact .word (refl w)
  | name n => exact .bare (refl n)
  | anyIdentifier => exact spelled
  | unequal => exact .exclamation
  | mark c => exact .mark (alike_refl c)

theorem forall₂_spelledWith {key : List Char} (spelled : Spelling Alike .anyIdentifier key)
    (ts : List Token) : List.Forall₂ (Spelling Alike) ts (ts.map (Token.spelledWith key)) := by
  rw [List.forall₂_map_right_iff]
  exact List.forall₂_same.2 fun t _ => spelling_spelledWith spelled t

end Template
end GeoConformance
