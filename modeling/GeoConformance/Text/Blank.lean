import GeoConformance.Text.CodePoint

/-!
# Blanks

The white space of the Unicode database: the separators together with the control characters that
divide lines and fields. Template gaps, type names and numbers all use this one class.
-/

namespace GeoConformance
namespace Text

def blankRanges : List (Nat × Nat) :=
  [(0x9, 0xd), (0x1c, 0x20), (0x85, 0x85), (0xa0, 0xa0), (0x1680, 0x1680), (0x2000, 0x200a),
   (0x2028, 0x2029), (0x202f, 0x202f), (0x205f, 0x205f), (0x3000, 0x3000)]

def isBlank (c : Char) : Bool := inRanges c.toNat blankRanges

/-- A text, or a row of bytes, without what belongs to a class at its two ends. -/
def trimClass {α : Type} (inClass : α → Bool) (s : List α) : List α :=
  ((s.dropWhile inClass).reverse.dropWhile inClass).reverse

def trimBlanks (s : List Char) : List Char := trimClass isBlank s

def trim (s : String) : String := String.ofList (trimBlanks s.toList)

end Text
end GeoConformance
