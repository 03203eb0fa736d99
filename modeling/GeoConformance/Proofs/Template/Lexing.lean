import GeoConformance.Template

/-!
# The lexemes of a template, rule by rule

The rules by which a template falls into lexemes, and that the lexer follows them. The rules exclude
each other: a word is as long as possible, and a mark stands for itself only where it opens neither
a placeholder nor an inequality.
-/

namespace GeoConformance
namespace Template

open Text

def AllWord (s : List Char) : Prop := ∀ c ∈ s, isWordChar c = true

/-- A text that begins with a placeholder. -/
def OpensPlaceholder (s : List Char) : Prop :=
  ∃ name rest, s = '{' :: (name ++ '}' :: rest) ∧ name ≠ [] ∧ AllWord name

/-- A text that begins with an inequality. -/
def OpensUnequal (s : List Char) : Prop := ∃ rest, s = '!' :: '=' :: rest ∨ s = '<' :: '>' :: rest

/-- How a text falls into lexemes. -/
inductive Lexing : List Char → List Lexeme → Prop
  | done : Lexing [] []
  | blank {c s ls} : isBlank c = true → Lexing s ls → Lexing (c :: s) ls
  | placeholder {name s ls} : name ≠ [] → AllWord name → Lexing s ls →
      Lexing ('{' :: (name ++ '}' :: s)) (.placeholder name :: ls)
  | word {w s ls} : w ≠ [] → AllWord w → (∀ c, s.head? = some c → isWordChar c = false) →
      Lexing s ls → Lexing (w ++ s) (.word w :: ls)
  | unequal {a b s ls} : (a = '!' ∧ b = '=') ∨ (a = '<' ∧ b = '>') → Lexing s ls →
      Lexing (a :: b :: s) (.unequal :: ls)
  | mark {c s ls} : isWordChar c = false → isBlank c = false → ¬ OpensPlaceholder (c :: s) →
      ¬ OpensUnequal (c :: s) → Lexing s ls → Lexing (c :: s) (.mark c :: ls)

theorem exists_of_inRanges {n : Nat} {ranges : List (Nat × Nat)} (h : inRanges n ranges = true) :
    ∃ r ∈ ranges, r.1 ≤ n ∧ n ≤ r.2 := by
  induction ranges with
  | nil => cases h
  | cons r rest ih =>
    simp only [inRanges, Bool.and_eq_true, Bool.or_eq_true, decide_eq_true_eq] at h
    rcases h with ⟨first, last | inRest⟩
    · exact ⟨r, List.mem_cons_self, first, last⟩
    · obtain ⟨r', member, bounds⟩ := ih inRest
      exact ⟨r', List.mem_cons_of_mem _ member, bounds⟩

/-- No blank is part of a word: the blanks are few enough to look each of them up. -/
theorem isWordChar_of_isBlank {c : Char} (h : isBlank c = true) : isWordChar c = false := by
  have none : ∀ r ∈ blankRanges, ∀ k ≤ r.2 - r.1,
      r.1 + k ≠ '_'.toNat ∧ inRanges (r.1 + k) alphanumericRanges = false := by decide +kernel
  obtain ⟨r, member, first, last⟩ := exists_of_inRanges h
  obtain ⟨other, outside⟩ := none r member (c.toNat - r.1) (by omega)
  have back : r.1 + (c.toNat - r.1) = c.toNat := by omega
  rw [back] at other outside
  have notUnderscore : c ≠ '_' := fun same => other (congrArg Char.toNat same)
  simp [isWordChar, isAlphanumeric, outside, notUnderscore]

section Pieces

/-- How a text falls into pieces. -/
inductive Cut : List Char → List Piece → Prop
  | done : Cut [] []
  | blank {c s ps} : isBlank c = true → Cut s ps → Cut (c :: s) (.blank :: ps)
  | mark {c s ps} : isWordChar c = false → isBlank c = false → Cut s ps →
      Cut (c :: s) (.mark c :: ps)
  | word {w s ps} : w ≠ [] → AllWord w → (∀ c, s.head? = some c → isWordChar c = false) →
      Cut s ps → Cut (w ++ s) (.word w :: ps)

theorem pieces_blank {c : Char} (h : isBlank c = true) (s : List Char) :
    pieces (c :: s) = .blank :: pieces s := by
  simp [pieces, isWordChar_of_isBlank h, h]

theorem pieces_mark {c : Char} (word : isWordChar c = false) (blank : isBlank c = false)
    (s : List Char) : pieces (c :: s) = .mark c :: pieces s := by
  simp [pieces, word, blank]

theorem cut_pieces (s : List Char) : Cut s (pieces s) := by
  induction s with
  | nil => exact .done
  | cons c rest ih =>
    by_cases word : isWordChar c = true
    · have single : AllWord [c] := by simp [AllWord, word]
      simp only [pieces, word, if_true]
      generalize pieces rest = ps at ih ⊢
      -- a word that follows grows by one character, anything else ends the word of this one
      cases ih with
      | done => exact .word (w := [c]) (by simp) single (by simp) .done
      | blank blank cut =>
        refine .word (w := [c]) (by simp) single ?_ (.blank blank cut)
        simp [isWordChar_of_isBlank blank]
      | mark notWord notBlank cut =>
        refine .word (w := [c]) (by simp) single ?_ (.mark notWord notBlank cut)
        simp [notWord]
      | @word w t ps notEmpty isWord stops cut =>
        exact .word (w := c :: w) (by simp) (List.forall_mem_cons.2 ⟨word, isWord⟩) stops cut
    · rw [Bool.not_eq_true] at word
      by_cases blank : isBlank c = true
      · rw [pieces_blank blank]
        exact .blank blank ih
      · rw [Bool.not_eq_true] at blank
        rw [pieces_mark word blank]
        exact .mark word blank ih

theorem pieces_word {w s : List Char} (notEmpty : w ≠ []) (word : AllWord w)
    (stops : ∀ c, s.head? = some c → isWordChar c = false) :
    pieces (w ++ s) = .word w :: pieces s := by
  induction w with
  | nil => exact absurd rfl notEmpty
  | cons c rest ih =>
    have isWord : isWordChar c = true := word c List.mem_cons_self
    cases rest with
    | nil =>
      have other : ∀ chars more, pieces s ≠ .word chars :: more := by
        intro chars more eq
        have cut := cut_pieces s
        rw [eq] at cut
        cases cut with
        | @word _ t _ notEmpty isWord _ _ =>
          obtain ⟨x, xs, rfl⟩ := List.exists_cons_of_ne_nil notEmpty
          have stop := stops x rfl
          rw [isWord x List.mem_cons_self] at stop
          cases stop
      simp only [List.cons_append, List.nil_append, pieces, isWord, if_true]
    | cons d more =>
      have tail := ih (by simp) (fun x hx => word x (List.mem_cons_of_mem _ hx))
      rw [List.cons_append, pieces, if_pos isWord, tail]

theorem Cut.eq {s : List Char} {ps : List Piece} (h : Cut s ps) : ps = pieces s := by
  induction h with
  | done => rfl
  | blank blank _ ih => rw [pieces_blank blank, ih]
  | mark word blank _ ih => rw [pieces_mark word blank, ih]
  | word notEmpty word stops _ ih => rw [pieces_word notEmpty word stops, ih]

end Pieces

section Join

variable {s : List Char} {ps : List Piece}

theorem opensPlaceholder_of_pieces {name : List Char}
    (h : pieces s = .word name :: .mark '}' :: ps) :
    OpensPlaceholder ('{' :: s) := by
  have cut := cut_pieces s
  rw [h] at cut
  cases cut with
  | word notEmpty word stops cut =>
    cases cut with
    | mark _ _ cut => exact ⟨name, _, rfl, notEmpty, word⟩

theorem exists_of_pieces_mark {c : Char} (h : pieces s = .mark c :: ps) :
    ∃ rest, s = c :: rest := by
  have cut := cut_pieces s
  rw [h] at cut
  cases cut with
  | mark _ _ cut => exact ⟨_, rfl⟩

/-- A mark that opens nothing is a lexeme by itself. -/
theorem join_mark {c : Char} (placeholder : ¬ OpensPlaceholder (c :: s))
    (unequal : ¬ OpensUnequal (c :: s)) :
    join (.mark c :: pieces s) = .mark c :: join (pieces s) := by
  refine join.eq_5 _ _ ?_ ?_ ?_
  · intro name rest eqPieces eqChar
    cases eqChar
    exact placeholder (opensPlaceholder_of_pieces eqPieces)
  · intro rest eqPieces eqChar
    cases eqChar
    obtain ⟨t, rfl⟩ := exists_of_pieces_mark eqPieces
    exact unequal ⟨t, .inl rfl⟩
  · intro rest eqPieces eqChar
    cases eqChar
    obtain ⟨t, rfl⟩ := exists_of_pieces_mark eqPieces
    exact unequal ⟨t, .inr rfl⟩

theorem pieces_placeholder {name : List Char} (notEmpty : name ≠ []) (word : AllWord name) :
    pieces ('{' :: (name ++ '}' :: s)) =
      .mark '{' :: .word name :: .mark '}' :: pieces s := by
  have closing : isWordChar '}' = false := by decide
  rw [pieces_mark (by decide) (by decide), pieces_word notEmpty word (by simp [closing]),
    pieces_mark closing (by decide)]

/-- The rules leave the lexer no choice. -/
theorem Lexing.eq {ls : List Lexeme} (h : Lexing s ls) : ls = join (pieces s) := by
  induction h with
  | done => rfl
  | blank blank _ ih => rw [pieces_blank blank, join, ← ih]
  | placeholder notEmpty word _ ih => rw [pieces_placeholder notEmpty word, join, ← ih]
  | word notEmpty word stops _ ih => rw [pieces_word notEmpty word stops, join, ← ih]
  | unequal spelled _ ih =>
    rcases spelled with ⟨rfl, rfl⟩ | ⟨rfl, rfl⟩
    · rw [pieces_mark (by decide) (by decide), pieces_mark (by decide) (by decide), join, ← ih]
    · rw [pieces_mark (by decide) (by decide), pieces_mark (by decide) (by decide), join, ← ih]
  | mark word blank placeholder unequal _ ih =>
    rw [pieces_mark word blank, join_mark placeholder unequal, ← ih]

theorem lexing_join (h : Cut s ps) : Lexing s (join ps) := by
  induction ps using join.induct generalizing s with
  | case1 =>
    cases h
    exact .done
  | case2 name rest ih =>
    cases h with
    | mark _ _ cut =>
      cases cut with
      | word notEmpty word _ cut =>
        cases cut with
        | mark _ _ cut => exact .placeholder notEmpty word (ih cut)
  | case3 rest ih =>
    cases h with
    | mark _ _ cut =>
      cases cut with
      | mark _ _ cut => exact .unequal (.inl ⟨rfl, rfl⟩) (ih cut)
  | case4 rest ih =>
    cases h with
    | mark _ _ cut =>
      cases cut with
      | mark _ _ cut => exact .unequal (.inr ⟨rfl, rfl⟩) (ih cut)
  | case5 c rest placeholder unequal unequal' ih =>
    cases h with
    | mark word blank cut =>
      rw [join.eq_5 c rest placeholder unequal unequal']
      refine .mark word blank ?_ ?_ (ih cut)
      · intro given
        obtain ⟨name, t, eq, notEmpty, isWord⟩ := given
        obtain ⟨rfl, rfl⟩ := List.cons.inj eq
        have whole := pieces_placeholder (s := t) notEmpty isWord
        rw [pieces_mark word blank, ← cut.eq] at whole
        exact placeholder _ _ (List.cons.inj whole).2 rfl
      · intro given
        obtain ⟨t, eq | eq⟩ := given
        · obtain ⟨rfl, rfl⟩ := List.cons.inj eq
          exact unequal _ (cut.eq.trans (pieces_mark (by decide) (by decide) t)) rfl
        · obtain ⟨rfl, rfl⟩ := List.cons.inj eq
          exact unequal' _ (cut.eq.trans (pieces_mark (by decide) (by decide) t)) rfl
  | case6 chars rest ih =>
    cases h with
    | word notEmpty word stops cut => exact .word notEmpty word stops (ih cut)
  | case7 rest ih =>
    cases h with
    | blank blank cut => exact .blank blank (ih cut)

end Join

/-- The lexer finds the one way in which a template falls into lexemes. -/
theorem lexing_iff {text : String} {ls : List Lexeme} :
    Lexing text.toList ls ↔ ls = lexemes text := by
  constructor
  · exact Lexing.eq
  · rintro rfl
    exact lexing_join (cut_pieces text.toList)

end Template
end GeoConformance
