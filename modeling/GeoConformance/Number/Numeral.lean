import GeoConformance.Number.Decimal
import GeoConformance.Text.Blank
import GeoConformance.Text.Digit

/-!
# Numerals in settings and arguments

Blanks around a numeral are ignored unless they are one of the four information separators of ASCII,
its digits may be of any script, and a single underscore may stand between two digits. A real may
also be written `inf`, `infinity` or `nan` in any case. The digits of an integer are limited in
number.
-/

namespace GeoConformance
namespace Numeral

open Text

def isPadding (c : Char) : Bool := isBlank c && !('\x1c' ≤ c && c ≤ '\x1f')

def isDigit (c : Char) : Bool := '0' ≤ c && c ≤ '9'

/-- A digit of any script as the ASCII digit of the same value. -/
def plainDigit (c : Char) : Char :=
  match digitValue? c with
  | some d => Char.ofNat (0x30 + d)
  | none => c

/-- The text without its underscores, if each stands between two digits. -/
def dropSeparators? : (afterDigit : Bool) → List Char → Option (List Char)
  | _, [] => some []
  | afterDigit, '_' :: rest =>
    if afterDigit && (rest.head?.any isDigit) then dropSeparators? false rest else none
  | _, c :: rest => (dropSeparators? (isDigit c) rest).map (c :: ·)

/-- Whether a numeral is negative, and what follows its sign. -/
def splitSign : List Char → Bool × List Char
  | '-' :: rest => (true, rest)
  | '+' :: rest => (false, rest)
  | s => (false, s)

/-- The value of a row of digits. -/
def natOf (digits : List Char) : Nat := digits.foldl (fun n c => 10 * n + (c.toNat - 0x30)) 0

def natOf? (digits : List Char) : Option Nat :=
  if !digits.isEmpty && digits.all isDigit then some (natOf digits) else none

/-- A numeral without the blanks around it and with plain digits. -/
def plain (s : String) : List Char := (trimClass isPadding s.toList).map plainDigit

/-- Why a text is not read as an integer. -/
inductive IntFault
  | malformed
  | tooLong (digits : Nat)
deriving DecidableEq

def maxDigits : Nat := 4300

/-- The digits are counted as soon as they are known to be well separated, whatever follows them. -/
def readInt (s : String) : Except IntFault Int :=
  let (negative, body) := splitSign (plain s)
  let isInRow (c : Char) : Bool := isDigit c || c == '_'
  match dropSeparators? false (body.takeWhile isInRow) with
  | none => .error .malformed
  | some digits =>
    if maxDigits < digits.length then .error (.tooLong digits.length)
    else if digits.isEmpty || !(body.dropWhile isInRow).isEmpty then .error .malformed
    else .ok (if negative then -natOf digits else natOf digits)

def readInt? (s : String) : Option Int := (readInt s).toOption

/-- The number `n * 10 ^ e`, rounded; the extremes are decided without computing the power. -/
def scaled (negative : Bool) (n : Nat) (e : Int) : Real64 :=
  let size := (Real64.digitCount n : Int) + e
  if n = 0 ∨ size < -330 then .finite negative 0
  else if 310 < size then .infinity negative
  else Real64.ofRat negative (n * (10 : Rat) ^ e)

/-- The exponent that follows the digits of a real: nothing, or `e` and a signed row of digits. -/
def readExponent? : List Char → Option Int
  | [] => some 0
  | c :: rest =>
    if c.toLower = 'e' then
      let (negative, digits) := splitSign rest
      (natOf? digits).map fun n => if negative then -n else n
    else none

def readMagnitude? (negative : Bool) (s : List Char) : Option Real64 := do
  let whole := s.takeWhile isDigit
  let (fraction, rest) := match s.dropWhile isDigit with
    | '.' :: after => (after.takeWhile isDigit, after.dropWhile isDigit)
    | after => ([], after)
  let e ← readExponent? rest
  let n ← natOf? (whole ++ fraction)
  return scaled negative n (e - fraction.length)

def readReal? (s : String) : Option Real64 := do
  let (negative, rest) := splitSign (← dropSeparators? false (plain s))
  match String.ofList (rest.map Char.toLower) with
  | "inf" | "infinity" => return .infinity negative
  | "nan" => return .nan
  | _ => readMagnitude? negative rest

end Numeral
end GeoConformance
