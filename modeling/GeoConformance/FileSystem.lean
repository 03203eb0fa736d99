import GeoConformance.Path
import GeoConformance.Session

/-!
# Files

What a program sees of the files around it. A package is either some bytes or a database whose
content is known. The database may be damaged or locked in parts, and then some of its queries fail.
A file tree is seen through the places of its files: a folder exists if it was made or if something
lies below it, and a path leads somewhere only if every part but the last names a folder.
-/

namespace GeoConformance

inductive Content
  | bytes (data : List UInt8)
  | database (catalog : Catalog) (looks : List QueryPattern := []) (faults : List Fault := [])
deriving DecidableEq

/-- The faults, if any, befall every reading of a file and every opening of a database. -/
structure FileSystem where
  current : String
  file? : String → Option Content
  readFault : Option String
  openFault : Option String

/-- Places are lists of names from the root. -/
structure FileTree where
  current : List String
  files : List (List String × Content)
  folders : List (List String)

namespace FileTree

def isFolder (t : FileTree) (place : List String) : Bool :=
  place.isPrefixOf t.current || t.folders.any place.isPrefixOf ||
    t.files.any fun (file, _) => place.isPrefixOf file && place != file

/-- The place that is reached from another one. -/
def walk (t : FileTree) : List String → List String → Option (List String)
  | place, [] => some place
  | place, part :: rest =>
    if !t.isFolder place then none
    else if part = "" ∨ part = "." then t.walk place rest
    else if part = ".." then t.walk place.dropLast rest
    else t.walk (place ++ [part]) rest

/-- In bytes; a longer path leads nowhere. -/
def longestPath : Nat := 4095

/-- The content of the file that a path leads to. -/
def file? (t : FileTree) (path : String) : Option Content := do
  guard (path.utf8ByteSize ≤ longestPath)
  let place ← t.walk (if Path.isAbsolute path then [] else t.current) (Path.parts path)
  t.files.lookup place

def view (t : FileTree) (readFault openFault : Option String) : FileSystem where
  current := "/" ++ "/".intercalate t.current
  file? := t.file?
  readFault := readFault
  openFault := openFault

end FileTree
end GeoConformance
