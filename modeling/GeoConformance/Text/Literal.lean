import GeoConformance.Text.Printable

/-!
# Literal forms

Texts and byte strings as they are shown in messages: between quotes, with what cannot be printed
written as an escape. Single quotes are used unless the content holds one and no double quote.
-/

namespace GeoConformance
namespace Text

def hexDigit (n : Nat) : Char := Char.ofNat (if n < 10 then 0x30 + n else 0x57 + n)

/-- The last `width` hexadecimal digits of `n`. -/
def hexDigits : Nat → Nat → List Char
  | 0, _ => []
  | width + 1, n => hexDigits width (n / 16) ++ [hexDigit (n % 16)]

/-- The quote that encloses a content. -/
def enclosing (content : List Char) : Char :=
  if content.contains '\'' && !content.contains '"' then '"' else '\''

/-- The escape of a character that has a short one inside `quote`. -/
def shortEscape? (quote c : Char) : Option (List Char) :=
  if c = '\\' ∨ c = quote then some ['\\', c]
  else if c = '\t' then some ['\\', 't']
  else if c = '\n' then some ['\\', 'n']
  else if c = '\r' then some ['\\', 'r']
  else none

def codeEscape (n : Nat) : List Char :=
  if n < 0x100 then '\\' :: 'x' :: hexDigits 2 n
  else if n < 0x10000 then '\\' :: 'u' :: hexDigits 4 n
  else '\\' :: 'U' :: hexDigits 8 n

def literalChar (quote c : Char) : List Char :=
  (shortEscape? quote c).getD (if isPrintable c then [c] else codeEscape c.toNat)

def literal (s : String) : String :=
  let quote := enclosing s.toList
  String.ofList (quote :: s.toList.flatMap (literalChar quote) ++ [quote])

def literalByte (quote c : Char) : List Char :=
  (shortEscape? quote c).getD (if ' ' ≤ c ∧ c ≤ '~' then [c] else codeEscape c.toNat)

def bytesLiteral (bytes : List UInt8) : String :=
  let content := bytes.map fun b => Char.ofNat b.toNat
  let quote := enclosing content
  String.ofList ('b' :: quote :: content.flatMap (literalByte quote) ++ [quote])

end Text
end GeoConformance
