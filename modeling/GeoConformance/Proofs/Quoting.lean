import GeoConformance.Proofs.Schema
import GeoConformance.Proofs.Template.Parts

/-!
# Quoted names

A quoted name ends at the first of its quotes that has no other one behind it. Whatever follows in a
query, as long as it is no quote itself, leaves the name as it is, so a query determines the column
and the table that it was built from. The templates recognize quoted names as they are written in
queries.
-/

namespace GeoConformance

namespace Identifier

open Text

/-- The name in a quoted one: without the quotes at the ends, and with two quotes inside as one. -/
def unquoted (s : String) : String :=
  String.ofList (replaceAll ['"', '"'] ['"'] s.toList.tail.dropLast)

/-- A text that does not begin with a quote. -/
def BeginsUnquoted (s : List Char) : Prop := s.head? ≠ some '"'

instance (s : List Char) : Decidable (BeginsUnquoted s) := inferInstanceAs (Decidable (_ ≠ _))

variable {n m r s : List Char}

theorem toList_quoted (name : String) : (quoted name).toList = quotedChars name.toList :=
  String.toList_ofList

theorem unquoted_quoted (name : String) : unquoted (quoted name) = name := by
  rw [unquoted, toList_quoted, quotedChars, List.cons_append, List.tail_cons, List.dropLast_concat,
    doubled, replaceAll_doubled, String.ofList_toList]

/-- The quote behind a name is the first one without another behind it. -/
theorem eq_of_doubled_append (hr : BeginsUnquoted r) (hs : BeginsUnquoted s)
    (same : doubled n ++ '"' :: r = doubled m ++ '"' :: s) : n = m ∧ r = s := by
  induction n generalizing m with
  | nil =>
    cases m with
    | nil => exact ⟨rfl, (List.cons.inj same).2⟩
    | cons d m =>
      rw [Template.doubled_cons] at same
      split at same
      case isTrue => exact absurd (congrArg List.head? (List.cons.inj same).2) hr
      case isFalse other => exact absurd (List.cons.inj same).1.symm other
  | cons c n ih =>
    cases m with
    | nil =>
      rw [Template.doubled_cons] at same
      split at same
      case isTrue => exact absurd (congrArg List.head? (List.cons.inj same).2.symm) hs
      case isFalse other => exact absurd (List.cons.inj same).1 other
    | cons d m =>
      -- a doubled quote and another character begin differently
      rw [Template.doubled_cons, Template.doubled_cons] at same
      split at same <;> split at same
      case isTrue.isTrue first second =>
        obtain ⟨rest, later⟩ := ih (List.cons.inj (List.cons.inj same).2).2
        exact ⟨by rw [first, second, rest], later⟩
      case isTrue.isFalse other => exact absurd (List.cons.inj same).1.symm other
      case isFalse.isTrue other _ => exact absurd (List.cons.inj same).1 other
      case isFalse.isFalse =>
        obtain ⟨first, same⟩ := List.cons.inj same
        obtain ⟨rest, later⟩ := ih same
        exact ⟨by rw [first, rest], later⟩

theorem eq_of_quotedChars_append (hr : BeginsUnquoted r) (hs : BeginsUnquoted s)
    (same : quotedChars n ++ r = quotedChars m ++ s) : n = m ∧ r = s := by
  simp only [quotedChars, List.cons_append, List.append_assoc, List.nil_append] at same
  exact eq_of_doubled_append hr hs (List.cons.inj same).2

theorem eq_of_quoted_append {name name' after after' : String}
    (h : BeginsUnquoted after.toList) (h' : BeginsUnquoted after'.toList)
    (same : quoted name ++ after = quoted name' ++ after') : name = name' ∧ after = after' := by
  have chars := congrArg String.toList same
  rw [String.toList_append, String.toList_append, toList_quoted, toList_quoted] at chars
  obtain ⟨first, rest⟩ := eq_of_quotedChars_append h h' chars
  exact ⟨String.toList_inj.1 first, String.toList_inj.1 rest⟩

/-- Two quoted names with a word between them, after the same beginning. -/
theorem eq_of_selection (start : String) {column column' table table' : String}
    (same : start ++ quoted column ++ " FROM " ++ quoted table =
      start ++ quoted column' ++ " FROM " ++ quoted table') :
    column = column' ∧ table = table' := by
  have ahead (name : String) : BeginsUnquoted (" FROM " ++ quoted name).toList := by
    simp [BeginsUnquoted]
  have nothing : BeginsUnquoted "".toList := by simp [BeginsUnquoted]
  simp only [String.append_assoc, String.append_right_inj] at same
  obtain ⟨columns, rest⟩ := eq_of_quoted_append (ahead table) (ahead table') same
  refine ⟨columns, (eq_of_quoted_append nothing nothing ?_).1⟩
  simpa using rest

/-- The texts of two queries for the values of a column. -/
theorem eq_of_distinctValues_sql {column column' table table' : String}
    (same : (Query.distinctValues table column).sql = (Query.distinctValues table' column').sql) :
    column = column' ∧ table = table' :=
  eq_of_selection "SELECT DISTINCT " same

theorem eq_of_columnValues_sql {column column' table table' : String}
    (same : (Query.columnValues table column).sql = (Query.columnValues table' column').sql) :
    column = column' ∧ table = table' :=
  eq_of_selection "SELECT " same

end Identifier

namespace Template

open Text

variable {n m : String}

/-- The whole of a text spells a token. -/
def Token.IsSpelledBy (t : Token) (s : String) : Prop := [] ∈ t.remainders s.toList

theorem Token.isSpelledBy_iff {t : Token} {s : String} :
    t.IsSpelledBy s ↔ Spelling Alike t s.toList := by
  rw [IsSpelledBy, mem_remainders]
  simp

theorem allAlike_refl (s : List Char) : AllAlike s s := List.forall₂_same.2 fun c _ => alike_refl c

theorem AllAlike.symm {x y : List Char} (h : AllAlike x y) : AllAlike y x :=
  .flip (h.imp fun a b same => show alike b a = true from alike_comm ▸ same)

theorem anyIdentifier_isSpelledBy_quoted (notEmpty : n ≠ "") :
    Token.anyIdentifier.IsSpelledBy (Identifier.quoted n) := by
  rw [Token.isSpelledBy_iff, Identifier.toList_quoted]
  exact .quotedIdentifier (mt String.toList_eq_nil_iff.1 notEmpty)

theorem name_isSpelledBy_quoted (n : String) :
    (Token.name n.toList).IsSpelledBy (Identifier.quoted n) := by
  rw [Token.isSpelledBy_iff, Identifier.toList_quoted]
  exact .quoted (allAlike_refl _)

theorem AllAlike.quotedChars {x y : List Char} (hx : AllWord x) (hy : AllWord y)
    (same : AllAlike x y) : AllAlike (Identifier.quotedChars x) (Identifier.quotedChars y) := by
  rw [hx.quotedChars, hy.quotedChars]
  exact .cons (alike_refl _) (List.rel_append same (allAlike_refl _))

/-- Between quotes a word spells those words that differ from it at most in case. -/
theorem name_isSpelledBy_quoted_iff (hn : AllWord n.toList) (hm : AllWord m.toList)
    (nonempty : n ≠ "") (nonempty' : m ≠ "") :
    (Token.name m.toList).IsSpelledBy (Identifier.quoted n) ↔ AllAlike m.toList n.toList := by
  rw [Token.isSpelledBy_iff, Identifier.toList_quoted]
  constructor
  · intro spelled
    exact Spelling.allAlike hm hn (mt String.toList_eq_nil_iff.1 nonempty')
      (mt String.toList_eq_nil_iff.1 nonempty) spelled (.quoted (allAlike_refl _))
  · intro same
    exact .quoted (same.quotedChars hm hn)

end Template

theorem Check.nameOf_bind {α : Type} {v : Value} {name : String}
    (named : Identifier.ofValue v = .ok name) (next : String → Check α) :
    (Check.nameOf v >>= next) = next name := by
  rw [Check.nameOf, named]
  rfl

namespace Identifier

open Template

/-- The names of schema objects are written between quotes without loss. What follows a quoted name,
unless it is a quote, is no part of it; the name is read back from between its quotes; and the texts
of the queries for the values of a column tell which column of which table is asked for. A quoted
name spells an identifier and its own name in a template, and among words it spells those that
differ from it at most in case. -/
theorem quoted_lossless {n m : String} (hn : (Value.text n).IsUsable)
    (hm : (Value.text m).IsUsable) :
    ofValue (.text n) = .ok n ∧ unquoted (quoted n) = n ∧
    (∀ r s : String, BeginsUnquoted r.toList → BeginsUnquoted s.toList →
      quoted n ++ r = quoted m ++ s → n = m ∧ r = s) ∧
    (∀ t t' : String, (Value.text t).IsUsable → (Value.text t').IsUsable →
      (Check.distinctValues (.text t) (.text n) = Check.reply (.distinctValues t n) ∧
        Check.columnValues (.text t) (.text n) = Check.reply (.columnValues t n)) ∧
      ((Query.distinctValues t n).sql = (Query.distinctValues t' m).sql → n = m ∧ t = t') ∧
      ((Query.columnValues t n).sql = (Query.columnValues t' m).sql → n = m ∧ t = t')) ∧
    Token.anyIdentifier.IsSpelledBy (quoted n) ∧ (Token.name n.toList).IsSpelledBy (quoted n) ∧
    spells n (quoted n) = true ∧
    (AllWord n.toList → AllWord m.toList →
      ((Token.name m.toList).IsSpelledBy (quoted n) ↔ AllAlike n.toList m.toList)) := by
  have nonempty : n ≠ "" := (Value.isUsable_text.1 hn).1
  have nonempty' : m ≠ "" := (Value.isUsable_text.1 hm).1
  have named {name : String} (usable : (Value.text name).IsUsable) :
      ofValue (.text name) = .ok name :=
    ofValue_eq_ok.2 ⟨rfl, usable⟩
  refine ⟨named hn, unquoted_quoted n, fun r s => eq_of_quoted_append, fun t t' ht ht' => ?_,
    anyIdentifier_isSpelledBy_quoted nonempty, name_isSpelledBy_quoted n, by simp [spells],
    fun wordN wordM => ?_⟩
  · refine ⟨⟨?_, ?_⟩, eq_of_distinctValues_sql, eq_of_columnValues_sql⟩
    · rw [Check.distinctValues, Check.nameOf_bind (named hn), Check.nameOf_bind (named ht)]
    · rw [Check.columnValues, Check.nameOf_bind (named hn), Check.nameOf_bind (named ht)]
  · rw [name_isSpelledBy_quoted_iff wordN wordM nonempty nonempty']
    exact ⟨AllAlike.symm, AllAlike.symm⟩

/-- A column whose name would end the quoted name and begin another query, if its quotes were not
doubled, and one that is a single quote. -/
theorem hostileNames_lossless :
    (Value.text "id\" FROM \"t\" --").IsUsable ∧ (Value.text "\"").IsUsable ∧
      quoted "id\" FROM \"t\" --" = "\"id\"\" FROM \"\"t\"\" --\"" ∧
      unquoted "\"id\"\" FROM \"\"t\"\" --\"" = "id\" FROM \"t\" --" ∧
      Token.anyIdentifier.IsSpelledBy "\"id\"\" FROM \"\"t\"\" --\"" ∧
      quoted "id\" FROM \"t\" --" ++ " FROM x" ≠ quoted "\"" ++ " FROM x" := by
  have usable : (Value.text "id\" FROM \"t\" --").IsUsable := by
    rw [Value.isUsable_text]
    decide
  have usable' : (Value.text "\"").IsUsable := by
    rw [Value.isUsable_text]
    decide
  have written : quoted "id\" FROM \"t\" --" = "\"id\"\" FROM \"\"t\"\" --\"" := by decide
  obtain ⟨-, back, apart, -, spelled, -⟩ := quoted_lossless usable usable'
  rw [written] at back spelled
  refine ⟨usable, usable', written, back, spelled, fun same => ?_⟩
  exact absurd (apart _ _ (by decide) (by decide) same).1 (by decide)

end Identifier

end GeoConformance
