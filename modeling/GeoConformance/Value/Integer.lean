import GeoConformance.Failure

/-!
# The integer of a value

Where an integer is asked for, a text or a row of bytes is read as a numeral and a number loses its
fraction. Nulls and numbers that are not finite have no integer.
-/

namespace GeoConformance

namespace Numeral

/-- The integer that a numeral denotes; `shown` stands for it in a complaint. -/
def integer (shown : Value) (numeral : String) : Except Misuse Int :=
  match readInt numeral with
  | .ok n => .ok n
  | .error .malformed => .error (.notAnInteger shown)
  | .error (.tooLong digits) => .error (.tooManyDigits digits)

/-- Bytes as a text; those outside ASCII are neither digits nor blanks. -/
def ofBytes (bytes : List UInt8) : String :=
  String.ofList (bytes.map fun b => if b < 0x80 then Char.ofNat b.toNat else '\ufffd')

end Numeral

def Number.toInt : Number → Except Misuse Int
  | .flag b => .ok b.toNat
  | .int n => .ok n
  | .real .nan => .error .undefinedInteger
  | .real (.infinity _) => .error .infiniteInteger
  | .real (.finite negative magnitude) =>
    .ok (if negative then -magnitude.floor else magnitude.floor)

namespace Value

/-- Of bytes that are no numeral the first 200 are shown. -/
def toInt : Value → Except Misuse Int
  | .null => .error (.notNumeric Value.null.kind)
  | .number n => n.toInt
  | .text s => Numeral.integer (.text s) s
  | .blob bytes => Numeral.integer (.blob (bytes.take 200)) (Numeral.ofBytes bytes)

end Value
end GeoConformance
