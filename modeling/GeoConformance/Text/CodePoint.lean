/-!
# Tables of code points

A character class is a list of closed intervals of code points, and a letter mapping a list of
runs. Both are in increasing order, so that a look-up may stop as soon as it has passed its point.
-/

namespace GeoConformance
namespace Text

/-- Whether `n` lies in one of the intervals, which are in increasing order. -/
def inRanges (n : Nat) : List (Nat × Nat) → Bool
  | [] => false
  | (first, last) :: rest => first ≤ n && (n ≤ last || inRanges n rest)

/-- Every `step`-th code point from `first` to `last`; `first` is mapped to `image` and the others
to the points that lie as far behind it. -/
structure LetterRun where
  first : Nat
  last : Nat
  step : Nat
  image : Nat

namespace LetterRun

def covers (r : LetterRun) (n : Nat) : Bool :=
  r.first ≤ n && n ≤ r.last && (n - r.first) % r.step == 0

def apply (r : LetterRun) (n : Nat) : Nat := r.image + (n - r.first)

end LetterRun

/-- The image of `n` under a mapping that fixes every point outside its runs. -/
def mapLetter (n : Nat) : List LetterRun → Nat
  | [] => n
  | r :: rest =>
    if n < r.first then n
    else if n ≤ r.last then if r.covers n then r.apply n else n
    else mapLetter n rest

end Text
end GeoConformance
