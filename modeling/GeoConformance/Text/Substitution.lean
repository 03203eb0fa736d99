/-!
# Substitution

Replacing every occurrence of one text by another, from left to right and without overlaps.
-/

namespace GeoConformance
namespace Text

/-- Replaces the occurrences of `old` that begin after the first `skip` characters, which are
dropped as the rest of an occurrence already replaced. -/
def replaceFrom (old new : List Char) : Nat → List Char → List Char
  | _, [] => []
  | skip + 1, _ :: rest => replaceFrom old new skip rest
  | 0, c :: rest =>
    if old.isPrefixOf (c :: rest) then new ++ replaceFrom old new (old.length - 1) rest
    else c :: replaceFrom old new 0 rest

/-- An empty `old` occurs nowhere. -/
def replaceAll (old new s : List Char) : List Char :=
  if old.isEmpty then s else replaceFrom old new 0 s

theorem replaceAll_singleton (c : Char) (new s : List Char) :
    replaceAll [c] new s = s.flatMap fun x => if x = c then new else [x] := by
  simp only [replaceAll, List.isEmpty_cons, Bool.false_eq_true, if_false]
  induction s with
  | nil => rfl
  | cons x rest ih =>
    by_cases h : x = c
    · simp [replaceFrom, List.isPrefixOf, h, ih]
    · simp [replaceFrom, List.isPrefixOf, h, Ne.symm h, ih]

/-- Taking a doubled character once undoes its doubling. -/
theorem replaceAll_doubled (c : Char) (s : List Char) :
    replaceAll [c, c] [c] (s.flatMap fun x => if x = c then [c, c] else [x]) = s := by
  simp only [replaceAll, List.isEmpty_cons, Bool.false_eq_true, if_false]
  induction s with
  | nil => rfl
  | cons x rest ih =>
    by_cases h : x = c
    · simp [replaceFrom, List.isPrefixOf, h, ih]
    · simp [replaceFrom, List.isPrefixOf, h, Ne.symm h, ih]

end Text
end GeoConformance
