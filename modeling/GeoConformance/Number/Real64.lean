/-!
# Binary64 numbers

A finite number is kept as its sign and its exact magnitude, so that comparisons with integers are
exact; the sign tells the two zeros apart. Rounding goes to the nearest number of 53 significant
bits and, on a tie, to the one whose last bit is even.
-/

namespace GeoConformance

inductive Real64
  | nan
  | infinity (negative : Bool)
  | finite (negative : Bool) (magnitude : Rat)
deriving DecidableEq, Inhabited

namespace Real64

/-- The exponent `e` with `2 ^ e ≤ q < 2 ^ (e + 1)`, for a positive `q`. -/
def floorLog2 (q : Rat) : Int :=
  let e : Int := (q.num.natAbs.log2 : Int) - (q.den.log2 : Int)
  if (2 : Rat) ^ e ≤ q then e else e - 1

/-- The weight of the last bit of the numbers about `q`; subnormal numbers share the smallest. -/
def lastBit (q : Rat) : Rat := (2 : Rat) ^ max (floorLog2 q - 52) (-1074)

def roundHalfEven (q : Rat) : Int :=
  let below := q.floor
  let rest := q - below
  if rest < 1 / 2 then below
  else if 1 / 2 < rest then below + 1
  else if below % 2 = 0 then below else below + 1

/-- The binary64 number nearest to a magnitude. -/
def ofRat (negative : Bool) (q : Rat) : Real64 :=
  if q = 0 then .finite negative 0
  else
    let magnitude := roundHalfEven (q / lastBit q) * lastBit q
    if (2 : Rat) ^ (1024 : Int) ≤ magnitude then .infinity negative else .finite negative magnitude

def isZero : Real64 → Bool
  | .finite _ magnitude => magnitude == 0
  | _ => false

/-- The distance within which numbers below the positive `q` still round to it; it is shorter when
`q` is the first number with its last bit. -/
def reachBelow (q : Rat) : Rat :=
  let bit := lastBit q
  if q = bit * (2 : Rat) ^ (52 : Int) ∧ (2 : Rat) ^ (-1074 : Int) < bit then bit / 4 else bit / 2

def reachAbove (q : Rat) : Rat := lastBit q / 2

/-- Whether the decimal `d` is rounded to the positive number `q`. -/
def readsBackAs (q d : Rat) : Bool :=
  if (q / lastBit q).num % 2 = 0 then q - reachBelow q ≤ d && d ≤ q + reachAbove q
  else q - reachBelow q < d && d < q + reachAbove q

end Real64
end GeoConformance
