import GeoConformance.Text.Alphanumeric
import GeoConformance.Value

/-!
# Relation names

A relation is of one of three known kinds, or its name is an extended one: `x-`, an author, a hyphen
or an underscore, and a name, where author and name are letters and digits only.
-/

namespace GeoConformance
namespace RelationName

open Text

def known : List String := ["features", "simple_attributes", "media"]

def isSegment (s : List Char) : Bool := !s.isEmpty && s.all isAlphanumeric

/-- The author is as long as possible: neither separator is alphanumeric. -/
def isExtended : List Char → Bool
  | 'x' :: '-' :: rest =>
    let author := rest.takeWhile isAlphanumeric
    match rest.dropWhile isAlphanumeric with
    | c :: name => !author.isEmpty && (c == '-' || c == '_') && isSegment name
    | [] => false
  | _ => false

def isValid : Value → Bool
  | .text name => known.contains name || isExtended name.toList
  | _ => false

end RelationName
end GeoConformance
