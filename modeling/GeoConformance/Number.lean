import GeoConformance.Number.Decimal

/-!
# Numbers

Integers, binary64 numbers and truth values are compared by their exact numeric value, so that 1,
1.0 and true are one number while 2^53 + 1 differs from every binary64 number.
-/

namespace GeoConformance

inductive Number
  | flag (b : Bool)
  | int (n : Int)
  | real (x : Real64)
deriving DecidableEq

/-- The value of a number on the extended line; a number that is not one has none. -/
inductive Extended
  | undefined
  | minusInfinity
  | finite (q : Rat)
  | plusInfinity
deriving DecidableEq

namespace Extended

def same : Extended → Extended → Bool
  | .finite p, .finite q => p == q
  | .minusInfinity, .minusInfinity => true
  | .plusInfinity, .plusInfinity => true
  | _, _ => false

def below : Extended → Extended → Bool
  | .finite p, .finite q => p < q
  | .minusInfinity, .finite _ => true
  | .minusInfinity, .plusInfinity => true
  | .finite _, .plusInfinity => true
  | _, _ => false

theorem same_comm (a b : Extended) : a.same b = b.same a := by
  cases a <;> cases b <;> simp only [same]
  exact BEq.comm

theorem same_iff {a b : Extended} : a.same b = true ↔ a = b ∧ a ≠ .undefined := by
  cases a <;> cases b <;> simp [same]

end Extended

namespace Number

def value : Number → Extended
  | .flag b => .finite (if b then 1 else 0)
  | .int n => .finite n
  | .real .nan => .undefined
  | .real (.infinity negative) => if negative then .minusInfinity else .plusInfinity
  | .real (.finite negative q) => .finite (if negative then -q else q)

def isZero (n : Number) : Bool := n.value == .finite 0

def isNegative (n : Number) : Bool := n.value.below (.finite 0)

def text : Number → String
  | .flag b => if b then "True" else "False"
  | .int n => toString n
  | .real x => x.text

end Number
end GeoConformance
