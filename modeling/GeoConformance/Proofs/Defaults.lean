import GeoConformance.Proofs.Mismatches

/-!
# Default values

A default may be a literal, which denotes the text between its quotes with every doubled quote
taken once. Comparing defaults looks no further than the two ends of an expression, so one that
begins and ends with a quote is read like a literal even where it is none.
-/

namespace GeoConformance
namespace DefaultText

open Text

def doubled (s : List Char) : List Char :=
  s.flatMap fun c => if c = '\'' then ['\'', '\''] else [c]

/-- A text as a literal: between two quotes, with each of its own quotes twice. -/
def literal (s : List Char) : List Char := '\'' :: (doubled s ++ ['\''])

/-- What a literal denotes, read from behind its first quote. The quote that ends it is the only
one that stands alone. -/
def literalRest? : List Char → Option (List Char)
  | [] => none
  | ['\''] => some []
  | '\'' :: '\'' :: rest => (literalRest? rest).map ('\'' :: ·)
  | c :: rest => if c = '\'' then none else (literalRest? rest).map (c :: ·)

def literalText? : List Char → Option (List Char)
  | '\'' :: rest => literalRest? rest
  | _ => none

/-- The text of a literal, and any other expression itself. -/
def meaning (x : String) : String := String.ofList ((literalText? x.toList).getD x.toList)

/-- An expression that begins and ends with a quote and is no literal. -/
def IsMisquoted (x : String) : Prop :=
  (∃ body, x.toList = '\'' :: (body ++ ['\''])) ∧ ∀ s, x.toList ≠ literal s

/-- What stands between a quote at the beginning and another one at the end. -/
def quotedBody? : List Char → Option (List Char)
  | '\'' :: rest => if rest.getLast? = some '\'' then some rest.dropLast else none
  | _ => none

/-- Quotes taken in pairs from the left; one that is left alone stands for itself. -/
def paired : List Char → List Char
  | [] => []
  | '\'' :: '\'' :: rest => '\'' :: paired rest
  | c :: rest => c :: paired rest

/-- What an expression is taken for, literal or not. -/
def reading (x : String) : String :=
  String.ofList (((quotedBody? x.toList).map paired).getD x.toList)

theorem doubled_cons_of_ne {c : Char} (h : c ≠ '\'') (s : List Char) :
    doubled (c :: s) = c :: doubled s := by
  simp [doubled, h]

theorem literalRest?_doubled (s : List Char) : literalRest? (doubled s ++ ['\'']) = some s := by
  induction s with
  | nil => rfl
  | cons c s ih =>
    by_cases quote : c = '\''
    · subst quote
      change (literalRest? (doubled s ++ ['\''])).map _ = _
      rw [ih]
      rfl
    · rw [doubled_cons_of_ne quote, List.cons_append, literalRest?.eq_def]
      simp [quote, ih]

theorem eq_doubled_of_literalRest? {rest s : List Char} (h : literalRest? rest = some s) :
    rest = doubled s ++ ['\''] := by
  fun_induction literalRest? rest generalizing s with
  | case1 => cases h
  | case2 =>
    cases h
    rfl
  | case3 rest ih =>
    obtain ⟨t, ht, rfl⟩ := Option.map_eq_some_iff.1 h
    rw [ih ht]
    rfl
  | case4 => cases h
  | case5 c rest _ _ quote ih =>
    obtain ⟨t, ht, rfl⟩ := Option.map_eq_some_iff.1 h
    rw [ih ht, doubled_cons_of_ne quote]
    rfl

theorem literalText?_eq_some {x s : List Char} : literalText? x = some s ↔ x = literal s := by
  constructor
  · intro h
    unfold literalText? at h
    split at h
    · rw [literal, eq_doubled_of_literalRest? h]
    · cases h
  · rintro rfl
    exact literalRest?_doubled s

theorem quotedBody?_eq_some {x body : List Char} :
    quotedBody? x = some body ↔ x = '\'' :: (body ++ ['\'']) := by
  constructor
  · intro h
    unfold quotedBody? at h
    split at h
    · rename_i rest
      split at h
      · rename_i last
        obtain ⟨inner, rfl⟩ := List.getLast?_eq_some_iff.1 last
        rw [List.dropLast_concat] at h
        cases h
        rfl
      · cases h
    · cases h
  · rintro rfl
    simp [quotedBody?]

theorem literalText?_eq_none_of_body {x : List Char} (h : quotedBody? x = none) :
    literalText? x = none := by
  rw [Option.eq_none_iff_forall_ne_some] at h ⊢
  intro s text
  exact h (doubled s) (quotedBody?_eq_some.2 (literalText?_eq_some.1 text))

theorem replaceAll_quotes (body : List Char) :
    replaceAll ['\'', '\''] ['\''] body = paired body := by
  change replaceFrom ['\'', '\''] ['\''] 0 body = paired body
  fun_induction paired body with
  | case1 => rfl
  | case2 rest ih =>
    rw [← ih]
    rfl
  | case3 c rest other ih =>
    have alone : List.isPrefixOf ['\'', '\''] (c :: rest) = false := by
      rw [Bool.eq_false_iff, ne_eq, List.isPrefixOf_iff_prefix]
      rintro ⟨rest', same⟩
      cases same
      exact other rest' rfl rfl
    rw [replaceFrom, alone, ih]
    rfl

theorem paired_doubled (s : List Char) : paired (doubled s) = s := by
  rw [← replaceAll_quotes]
  exact replaceAll_doubled _ s

theorem length_paired_le (body : List Char) : (paired body).length ≤ body.length := by
  fun_induction paired body with
  | case1 => exact Nat.le_refl _
  | case2 rest ih =>
    simp only [List.length_cons]
    omega
  | case3 c rest _ ih =>
    simp only [List.length_cons]
    omega

theorem denotedDefault_text (x : String) : denotedDefault (.text x) = some (reading x) := by
  cases quoted : quotedBody? x.toList with
  | some body =>
    have taken : reading x = String.ofList (paired body) := by simp [reading, quoted]
    simp [denotedDefault, Value.shown, taken, quotedBody?_eq_some.1 quoted, replaceAll_quotes]
  | none =>
    have taken : reading x = x := by simp [reading, quoted]
    simp only [denotedDefault, Value.shown, taken]
    split
    · rename_i rest begins
      split
      · rename_i inner ends
        rw [List.reverse_eq_iff, List.reverse_cons] at ends
        rw [quotedBody?_eq_some.2 (begins.trans (congrArg _ ends))] at quoted
        cases quoted
      · rfl
    · rfl

theorem isMisquoted_iff {x : String} :
    IsMisquoted x ↔ ∃ body, quotedBody? x.toList = some body ∧ literalText? x.toList = none := by
  simp only [IsMisquoted, quotedBody?_eq_some, Option.eq_none_iff_forall_ne_some, ne_eq,
    literalText?_eq_some, exists_and_right]

/-- Only a misquoted expression is taken for something else than it denotes: for a shorter one. -/
theorem reading_eq_meaning_iff (x : String) : reading x = meaning x ↔ ¬ IsMisquoted x := by
  rw [isMisquoted_iff]
  cases quoted : quotedBody? x.toList with
  | none => simp [reading, meaning, quoted, literalText?_eq_none_of_body quoted]
  | some body =>
    cases text : literalText? x.toList with
    | some s =>
      have parts := (quotedBody?_eq_some.1 quoted).symm.trans (literalText?_eq_some.1 text)
      rw [literal, List.cons.injEq, List.append_cancel_right_eq] at parts
      simp [reading, meaning, quoted, text, parts.2, paired_doubled]
    | none =>
      have shorter : (paired body).length < x.toList.length := by
        rw [quotedBody?_eq_some.1 quoted, List.length_cons, List.length_append]
        have le := length_paired_le body
        omega
      have other : paired body ≠ x.toList := by
        intro same
        rw [same] at shorter
        exact Nat.lt_irrefl _ shorter
      simpa [reading, meaning, quoted, text, ← String.toList_inj] using other

theorem denotedDefault_ofText? (a : Option String) :
    denotedDefault (.ofText? a) = a.map reading := by
  cases a with
  | none => rfl
  | some x => exact denotedDefault_text x

/-- Two defaults count as the same just where they are taken for the same text or both are absent.
What an expression is taken for is what it denotes, except where it is misquoted. -/
theorem defaults_agree_iff {e : ColumnExpectation} {k : Column} {a b : Option String}
    (comparable : e.isComparable = true) (expected : e.default = some (.ofText? a))
    (found : k.default = .ofText? b) :
    ((∀ v w, ColumnMismatch.default v w ∉ e.mismatches k) ↔ a.map reading = b.map reading) ∧
      ∀ x, reading x = meaning x ↔ ¬ IsMisquoted x := by
  refine ⟨?_, reading_eq_meaning_iff⟩
  rw [← denotedDefault_ofText?, ← denotedDefault_ofText?, ← found]
  constructor
  · intro unlisted
    apply Decidable.byContradiction
    intro other
    exact unlisted _ _ ((ColumnExpectation.mem_mismatches comparable).2 (.default expected other))
  · intro same v w listed
    cases (ColumnExpectation.mem_mismatches comparable).1 listed with
    | default wanted other =>
      rw [expected, Option.some.injEq] at wanted
      exact other (wanted ▸ same)

def noteExpectation : ColumnExpectation :=
  { name := "note", type := some (.text "text"), default := some (.text "'it''s'") }

def noteColumn (default : String) : Column := ⟨"note", some "TEXT", false, .text default, 0⟩

theorem noteDefault_agrees :
    (noteExpectation.isComparable = true ∧
      noteExpectation.default = some (.ofText? (some "'it''s'")) ∧
      (noteColumn "it's").default = .ofText? (some "it's")) ∧
    (∀ v w, ColumnMismatch.default v w ∉ noteExpectation.mismatches (noteColumn "it's")) ∧
      ¬ IsMisquoted "'it''s'" := by
  have comparable : noteExpectation.isComparable = true := rfl
  have agree := defaults_agree_iff (e := noteExpectation) (k := noteColumn "it's")
    (a := some "'it''s'") (b := some "it's") comparable rfl rfl
  exact ⟨⟨comparable, rfl, rfl⟩, agree.1.2 (by decide), (agree.2 _).1 (by decide)⟩

/-- A concatenation of two literals begins and ends with a quote. It is taken for the inside of a
literal, and so it agrees with a default that denotes another text. -/
theorem concatenation_agrees :
    (∀ v w, ColumnMismatch.default v w ∉
      ({ name := "note", default := some (.text "'a'||'b'") } : ColumnExpectation).mismatches
        (noteColumn "'a''||''b'")) ∧
      meaning "'a'||'b'" ≠ meaning "'a''||''b'" ∧
      denotedDefault (.text "'a'||'b'") ≠ some (meaning "'a'||'b'") := by
  have none : ({ name := "note", default := some (.text "'a'||'b'") } : ColumnExpectation).mismatches
      (noteColumn "'a''||''b'") = [] := by decide
  refine ⟨fun v w listed => ?_, by decide, by decide⟩
  rw [none] at listed
  cases listed

end DefaultText
end GeoConformance
