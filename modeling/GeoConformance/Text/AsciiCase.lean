/-!
# The case of ASCII letters

Object and column names, and the wildcard patterns on them, ignore the case of the ASCII letters
and of no others.
-/

namespace GeoConformance
namespace Text

def sameLetter (a b : Char) : Bool := a.toLower == b.toLower

/-- Equality of names up to the case of ASCII letters. -/
def sameName (a b : String) : Bool := a.toList.map Char.toLower == b.toList.map Char.toLower

@[simp] theorem sameName_refl (a : String) : sameName a a = true := by simp [sameName]

end Text
end GeoConformance
