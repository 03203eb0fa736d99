import GeoConformance.Proofs.SpatialIndex.Recognition
import GeoConformance.Proofs.Template.Readings

/-!
# What stands for the key of a table

The templates of the triggers do not say how the key of a table is called: in its places they admit
names between quotes and words. A word that begins with a digit is admitted as well, though it is no
identifier and may be a numeral. Every one of these can be found there in some text that fits.
-/

namespace GeoConformance
namespace SpatialIndex

open Template Text

/-- A name between quotes, its own quotes doubled, or a bare word that does not begin with a
digit. -/
inductive IsSqlIdentifier : List Char → Prop
  | quoted {body} : body ≠ [] → IsSqlIdentifier (Identifier.quotedChars body)
  | bare {c rest} : AllWord (c :: rest) → c.isDigit = false → IsSqlIdentifier (c :: rest)

/-- A word that begins with a digit. -/
inductive IsDigitWord : List Char → Prop
  | intro {c rest} : AllWord (c :: rest) → c.isDigit = true → IsDigitWord (c :: rest)

theorem spelling_anyIdentifier_iff {x : List Char} :
    Spelling Alike .anyIdentifier x ↔ IsSqlIdentifier x ∨ IsDigitWord x := by
  constructor
  · intro h
    cases h with
    | identifier notEmpty word =>
      obtain ⟨c, rest, rfl⟩ := List.exists_cons_of_ne_nil notEmpty
      cases digit : c.isDigit with
      | false => exact .inl (.bare word digit)
      | true => exact .inr (.intro word digit)
    | quotedIdentifier notEmpty => exact .inl (.quoted notEmpty)
  · intro h
    rcases h with (notEmpty | ⟨word, _⟩) | ⟨word, _⟩
    · exact .quotedIdentifier notEmpty
    · exact .identifier (by simp) word
    · exact .identifier (by simp) word

/-- What stands in the places of the key, given the lexemes of a template and a way to read it. -/
def keysOf : List Lexeme → List (List Char) → List (List Char)
  | l :: ls, x :: xs => if l = .placeholder ['i'] then x :: keysOf ls xs else keysOf ls xs
  | _, _ => []

section KeysOf

variable {b : Binding} {ls : List Lexeme} {ts : List Token} {xs : List (List Char)} {x : List Char}

theorem spelling_of_mem_keysOf (stand : List.Forall₂ (Stands b) ls ts)
    (spelled : List.Forall₂ (Spelling Alike) ts xs) (hx : x ∈ keysOf ls xs) :
    Spelling Alike .anyIdentifier x := by
  induction stand generalizing xs with
  | nil => cases hx
  | @cons l t ls ts first _ ih =>
    cases spelled with
    | @cons _ y _ ys head tail =>
      rw [keysOf] at hx
      split at hx
      case isTrue key =>
        rcases List.mem_cons.1 hx with rfl | hx
        · have bound := token?_eq_some.2 (key ▸ first)
          cases bound
          exact head
        · exact ih tail hx
      case isFalse => exact ih tail hx

/-- Where the same is written for every identifier, it stands in every place of the key. -/
theorem mem_keysOf_spelledWith (stand : List.Forall₂ (Stands b) ls ts)
    (key : .placeholder ['i'] ∈ ls) : x ∈ keysOf ls (ts.map (Token.spelledWith x)) := by
  induction stand with
  | nil => cases key
  | @cons l t ls ts first _ ih =>
    rw [List.map_cons, keysOf]
    split
    case isTrue here =>
      have bound := token?_eq_some.2 (here ▸ first)
      cases bound
      exact List.mem_cons_self
    case isFalse other => exact ih ((List.mem_cons.1 key).resolve_left (Ne.symm other))

end KeysOf

namespace Requirement

/-- What stands in the places of the key when a text is read in some way. -/
def keys (r : Requirement) (xs : List (List Char)) : List (List Char) :=
  keysOf (lexemes r.artifact.text) xs

end Requirement

/-- However an accepted text is read along the template of a trigger, what stands in a place of the
key is an identifier or a word that begins with a digit, and each of these stands there in a reading
of some accepted text. -/
theorem key_iff {r : Requirement} (trigger : r.artifact ≠ .virtualTable) :
    (∀ sql, r.isMetBy (some sql) = true ↔ ∃ xs, r.Reads sql xs) ∧
    ∀ x, (∃ sql xs, r.Reads sql xs ∧ x ∈ r.keys xs) ↔ IsSqlIdentifier x ∨ IsDigitWord x := by
  refine ⟨fun sql => Requirement.isMetBy_iff_exists_reads, fun x => ?_⟩
  rw [← spelling_anyIdentifier_iff]
  constructor
  · intro h
    obtain ⟨sql, xs, ⟨ts, bound, reads⟩, key⟩ := h
    exact spelling_of_mem_keysOf (tokens_eq_ok.1 bound) reads.spelled key
  · intro spelled
    obtain ⟨ts, bound⟩ := r.exists_tokens
    exact ⟨_, _, Requirement.reads_sentence bound (forall₂_spelledWith spelled ts),
      mem_keysOf_spelledWith (tokens_eq_ok.1 bound) (r.artifact.outline.key trigger)⟩

/-- A numeral may stand for the key of the row that was deleted. -/
theorem numeral_stands_for_key :
    Artifact.deleteTrigger ≠ .virtualTable ∧
      ∃ sql xs, (⟨.deleteTrigger, "roads", "geom"⟩ : Requirement).isMetBy (some sql) = true ∧
        (⟨.deleteTrigger, "roads", "geom"⟩ : Requirement).Reads sql xs ∧
        "0x1F".toList ∈ (⟨.deleteTrigger, "roads", "geom"⟩ : Requirement).keys xs := by
  have trigger : Artifact.deleteTrigger ≠ .virtualTable := by decide
  obtain ⟨met, stands⟩ := key_iff (r := ⟨.deleteTrigger, "roads", "geom"⟩) trigger
  obtain ⟨sql, xs, reads, key⟩ := (stands "0x1F".toList).2 (.inr (.intro (by decide) (by decide)))
  exact ⟨trigger, sql, xs, (met sql).2 ⟨xs, reads⟩, reads, key⟩

/-- A trigger that takes the row with the key 1 out of the index, whichever row was deleted. -/
def constantKeyText : String :=
  "CREATE TRIGGER rtree_roads_geom_delete AFTER DELETE ON roads WHEN OLD . geom NOT NULL" ++
    " BEGIN DELETE FROM rtree_roads_geom WHERE 1 = OLD . fid ; END;"

/-- How that text is meant to be read. -/
def constantKeyReading : List (List Char) :=
  ["CREATE", "TRIGGER", "rtree_roads_geom_delete", "AFTER", "DELETE", "ON", "roads", "WHEN", "OLD",
    ".", "geom", "NOT", "NULL", "BEGIN", "DELETE", "FROM", "rtree_roads_geom", "WHERE", "1", "=",
    "OLD", ".", "fid", ";", "END"].map String.toList

/-- The numeral 1 is no identifier, but stands in a place of the key. -/
theorem constantKey_reads :
    (⟨.deleteTrigger, "roads", "geom"⟩ : Requirement).Reads constantKeyText constantKeyReading ∧
      ['1'] ∈ (⟨.deleteTrigger, "roads", "geom"⟩ : Requirement).keys constantKeyReading ∧
      ¬ IsSqlIdentifier ['1'] := by
  have spelled : (tokens Artifact.deleteTrigger.text
      (⟨.deleteTrigger, "roads", "geom"⟩ : Requirement).binding).toOption.any
      (fun ts => decide (List.Forall₂ (Spelling Alike) ts constantKeyReading)) = true := by
    decide +kernel
  have text : constantKeyText = String.ofList (sentence constantKeyReading) := by decide +kernel
  refine ⟨?_, by decide +kernel, ?_⟩
  · obtain ⟨ts, bound⟩ := (⟨.deleteTrigger, "roads", "geom"⟩ : Requirement).exists_tokens
    rw [bound] at spelled
    rw [text]
    exact Requirement.reads_sentence bound (of_decide_eq_true spelled)
  · intro h
    generalize numeral : ['1'] = x at h
    cases h with
    | quoted _ => exact absurd (List.cons.inj numeral).1 (by decide)
    | bare _ notDigit =>
      rw [← (List.cons.inj numeral).1] at notDigit
      exact absurd notDigit (by decide)

end SpatialIndex
end GeoConformance
