import GeoConformance.Collation
import GeoConformance.Identifier

/-!
# Affinities

The declared type of a column decides what becomes of a value before it is compared with the column:
where numbers are expected, a text that is a numeral counts as its number, and where texts are
expected, a number beside a text counts as its digits. A real then has fifteen significant digits.
-/

namespace GeoConformance

inductive Affinity
  | text
  | numeric
  | blob
deriving DecidableEq

namespace Real64

/-- The places of an exponent that engines write out. -/
def engineLayout : DecimalLayout := ⟨-4, 14, 2⟩

/-- The digits of a magnitude to fifteen places, halves rounded up. -/
def engineMagnitude (q : Rat) : List Char :=
  if q = 0 then ['0', '.', '0']
  else
    let last := floorLog10 q - 14
    let all := Nat.toDigits 10 (q / (10 : Rat) ^ last + 1 / 2).floor.toNat
    let point : Int := all.length + last
    let digits := (all.reverse.dropWhile (· == '0')).reverse
    if engineLayout.positionalFrom ≤ point - 1 ∧ point - 1 ≤ engineLayout.positionalTo then
      positional digits point
    else
      exponential engineLayout.exponentWidth (digits ++ zeros (2 - digits.length)) (point - 1)

/-- The text of a number to the engine, where it has one. -/
def engineText? : Real64 → Option String
  | .nan => none
  | .infinity negative => some (if negative then "-Inf" else "Inf")
  | .finite negative q =>
    let sign := if negative && q != 0 then ['-'] else []
    some (String.ofList (sign ++ engineMagnitude q))

end Real64

def Number.engineText? : Number → Option String
  | .flag b => some (toString b.toNat)
  | .int n => some (toString n)
  | .real x => x.engineText?

namespace Affinity

open Text

/-- Whether a type holds one of some parts, whatever their case, decides its affinity. -/
def ofType (type : String) : Affinity :=
  let upperType := type.toList.map Char.toUpper
  let holds (part : String) : Bool := (Identifier.ends upperType).any part.toList.isPrefixOf
  if holds "INT" then .numeric
  else if holds "CHAR" || holds "CLOB" || holds "TEXT" then .text
  else if type.isEmpty || holds "BLOB" then .blob
  else .numeric

def isSpace (c : Char) : Bool := c == ' ' || ('\t' ≤ c && c ≤ '\r')

/-- Whether the engine keeps a number as an integer. -/
def isStoredInteger (n : Int) : Bool := -9223372036854775808 ≤ n && n ≤ 9223372036854775807

/-- The number of a numeral with spaces around it. An integer that is too large is a real. -/
def number? (s : String) : Option Number :=
  let (negative, digits) := Numeral.splitSign (trimClass isSpace s.toList)
  let integer? := (Numeral.natOf? digits).map fun n => if negative then -(n : Int) else n
  match integer?.filter isStoredInteger with
  | some n => some (.int n)
  | none => (Numeral.readMagnitude? negative digits).map Number.real

/-- What a value counts as beside another one. -/
def apply (a : Affinity) (v beside : Value) : Value :=
  match a, v, beside with
  | .numeric, .text s, _ => ((number? s).map Value.number).getD v
  | .text, .number n, .text _ => (n.engineText?.map Value.text).getD v
  | _, v, _ => v

end Affinity
end GeoConformance
