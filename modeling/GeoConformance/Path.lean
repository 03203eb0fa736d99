/-!
# Paths

A path is a text whose parts are divided by slashes. Normal forms drop empty parts and single dots and
take double dots back by one part, without looking at any file.
-/

namespace GeoConformance
namespace Path

def parts (path : String) : List String := path.splitOn "/"

def isAbsolute (path : String) : Bool := path.startsWith "/"

/-- The last part. -/
def fileName (path : String) : String := (parts path).getLast?.getD ""

/-- The names that lead from the root to the end of some parts, nearest to the end first. -/
def trail : List String → List String → List String
  | names, [] => names
  | names, part :: rest =>
    if part = "" ∨ part = "." then trail names rest
    else if part = ".." then trail names.tail rest
    else trail (part :: names) rest

/-- Exactly two slashes in front are kept as they are. -/
def rootOf (path : String) : String :=
  if path.startsWith "//" && !path.startsWith "///" then "//" else "/"

/-- The normal form of a path, which starts from `current` unless it is absolute. -/
def absolute (current path : String) : String :=
  let whole := if isAbsolute path then path else s!"{current}/{path}"
  rootOf whole ++ "/".intercalate (trail [] (parts whole)).reverse

end Path
end GeoConformance
