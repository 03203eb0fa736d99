import GeoConformance.Number.Real64

/-!
# Decimal text of binary64 numbers

A number is written with the fewest digits that read back as the same number, the nearest of these
to it; of two equally near ones, the one with an even last digit. Exponents from -4 to 15 are written
positionally, with a fraction of at least one digit; others in exponent form with a sign and at least
two exponent digits.
-/

namespace GeoConformance
namespace Real64

def digitCount (n : Nat) : Nat := (Nat.toDigits 10 n).length

/-- The exponent `e` with `10 ^ e ≤ q < 10 ^ (e + 1)`, for a positive `q`. -/
def floorLog10 (q : Rat) : Int :=
  let e : Int := (digitCount q.num.natAbs : Int) - (digitCount q.den : Int)
  if (10 : Rat) ^ e ≤ q then e else e - 1

/-- The multiple of `10 ^ e` beside the positive `q` that reads back as `q`; if both of its neighbours
do, the nearer one, and on a tie the even one. -/
def onGrid? (q : Rat) (e : Int) : Option Nat :=
  let unit := (10 : Rat) ^ e
  let n := (q / unit).floor.toNat
  let below := n * unit
  let above := (n + 1) * unit
  match readsBackAs q below, readsBackAs q above with
  | true, true => some (roundHalfEven (q / unit)).toNat
  | true, false => some n
  | false, true => some (n + 1)
  | false, false => none

/-- Digits `n` and an exponent `e` such that `n * 10 ^ e` is the shortest decimal of the positive
`q`; seventeen digits are always enough. -/
def shortest (q : Rat) : Nat × Int :=
  let top := floorLog10 q
  match (List.range 17).findSome? fun (k : Nat) => (onGrid? q (top - k)).map (·, top - k) with
  | some found => found
  | none => (0, 0)

/-- Where positional text ends, and how long an exponent is at least. -/
structure DecimalLayout where
  positionalFrom : Int
  positionalTo : Int
  exponentWidth : Nat

def layout : DecimalLayout := ⟨-4, 15, 2⟩

def zeros (n : Nat) : List Char := List.replicate n '0'

/-- Digits with the decimal point after the first `point` of them. -/
def positional (digits : List Char) (point : Int) : List Char :=
  if point ≤ 0 then '0' :: '.' :: zeros (-point).toNat ++ digits
  else if digits.length ≤ point.toNat then
    digits ++ zeros (point.toNat - digits.length) ++ ['.', '0']
  else digits.take point.toNat ++ '.' :: digits.drop point.toNat

def exponential (width : Nat) (digits : List Char) (exponent : Int) : List Char :=
  let shown := Nat.toDigits 10 exponent.natAbs
  let fraction := match digits.drop 1 with
    | [] => []
    | rest => '.' :: rest
  digits.take 1 ++ fraction ++ 'e' :: (if exponent < 0 then '-' else '+')
    :: zeros (width - shown.length) ++ shown

/-- The text of a magnitude. -/
def magnitudeText (q : Rat) : List Char :=
  if q = 0 then ['0', '.', '0']
  else
    let (n, e) := shortest q
    let all := Nat.toDigits 10 n
    let point : Int := all.length + e
    let digits := (all.reverse.dropWhile (· == '0')).reverse
    if layout.positionalFrom ≤ point - 1 ∧ point - 1 ≤ layout.positionalTo then
      positional digits point
    else exponential layout.exponentWidth digits (point - 1)

def text : Real64 → String
  | .nan => "nan"
  | .infinity negative => if negative then "-inf" else "inf"
  | .finite negative q =>
    String.ofList (if negative then '-' :: magnitudeText q else magnitudeText q)

end Real64
end GeoConformance
