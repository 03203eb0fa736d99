import GeoConformance.Value

/-!
# Collations

A column has a rule by which the engine takes two texts for equal: they are the same, they are the
same up to the case of ASCII letters, or they are the same up to blanks at their ends. Values of
other kinds are compared exactly under every rule.
-/

namespace GeoConformance

inductive Collation
  | binary
  | noCase
  | trimmed
deriving DecidableEq

/-- Texts are equal where their keys are. Letters behind a NUL are not looked at if case is ignored,
but the lengths in bytes are. -/
def Collation.key (k : Collation) (s : String) : List Char × Nat :=
  match k with
  | .binary => (s.toList, 0)
  | .noCase => ((s.toList.takeWhile (· != '\x00')).map Char.toLower, s.utf8ByteSize)
  | .trimmed => ((s.toList.reverse.dropWhile (· == ' ')).reverse, 0)

namespace Value

def sameUnder (k : Collation) : Value → Value → Bool
  | .text s, .text t => k.key s == k.key t
  | v, w => v.same w

/-- The values without those that an earlier one is the same as under a collation. -/
def distinctUnder (k : Collation) : List Value → List Value
  | [] => []
  | v :: rest => v :: (distinctUnder k rest).filter fun w => !v.sameUnder k w

variable {k : Collation} {v w : Value}

@[simp] theorem sameUnder_binary (v w : Value) : v.sameUnder .binary w = v.same w := by
  cases v <;> cases w <;> try rfl
  simp [sameUnder, same, Collation.key, Bool.beq_eq_decide_eq, String.toList_inj]

theorem distinctUnder_binary (vs : List Value) : distinctUnder .binary vs = distinct vs := by
  induction vs with
  | nil => rfl
  | cons v rest ih => simp only [distinctUnder, distinct, ih, sameUnder_binary]

theorem sameUnder_of_same (k : Collation) (h : v.same w = true) : v.sameUnder k w = true := by
  cases v <;> cases w <;> try exact h
  simp only [same, beq_iff_eq] at h
  simp [sameUnder, h]

end Value
end GeoConformance
