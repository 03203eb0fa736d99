import GeoConformance.Check
import GeoConformance.Column.Expectation

/-!
# Inspecting the schema and its data

The elementary checks, each one query. A value that cannot name a schema object names no table; any
other use of it is a misuse.
-/

namespace GeoConformance
namespace Check

def nameOf (v : Value) : Check String := ofExcept (Identifier.ofValue v)

def tableExists (table : Value) : Check Bool :=
  match Identifier.ofValue table with
  | .error _ => .done false
  | .ok name => do
    let count : Nat ← reply (.tableCount name)
    return 0 < count

/-- The columns of a table in the order of their declaration. -/
def columns (table : Value) : Check (List Column) := do
  reply (.columns (← nameOf table))

/-- The names of the columns of a primary key in the order of the key. -/
def keyOf (columns : List Column) : List String :=
  ((columns.filter (·.keyPosition != 0)).mergeSort
    fun a b => a.keyPosition ≤ b.keyPosition).map (·.name)

def primaryKey (table : Value) : Check (List String) := do
  return keyOf (← columns table)

/-- The generating text of a schema object, if it exists and has one. -/
def definition (name : Value) (kind : String) : Check (Option String) := do
  let found : List (Option String) ← reply (.definitions kind (← nameOf name))
  return found.head?.join

abbrev NamedText := String × Option String

/-- Two objects of one name are ordered by their texts, which needs both or neither. -/
def clashes (a b : NamedText) : Bool := a.1 == b.1 && a.2.isSome != b.2.isSome

def namedTextLe (a b : NamedText) : Bool :=
  a.1 < b.1 || (a.1 == b.1 && !(b.2.getD "" < a.2.getD ""))

def namedTextPrecedes (a b : NamedText) : Except Misuse Bool :=
  if clashes a b then .error (.incomparable (Value.ofText? a.2).kind (Value.ofText? b.2).kind)
  else .ok (!namedTextLe b a)

/-- The objects in order; those that cannot be ordered fail at the first comparison of two such. -/
def inOrder (found : List NamedText) : Except Misuse (List NamedText) :=
  if found.any fun a => found.any (clashes a) then arrange namedTextPrecedes found
  else .ok (found.mergeSort namedTextLe)

/-- The objects of a kind whose name starts exactly with `start`, in the order of their names. -/
def definitionsFrom (start : Value) (kind : String) : Check (List NamedText) := do
  let name ← nameOf start
  let found : List NamedText ← reply (.definitionsFrom kind name)
  ofExcept (inOrder (found.filter fun o => name.toList.isPrefixOf o.1.toList))

def distinctValues (table column : Value) : Check (List Value) := do
  let column ← nameOf column
  let table ← nameOf table
  reply (.distinctValues table column)

def columnValues (table column : Value) : Check (List Value) := do
  let column ← nameOf column
  let table ← nameOf table
  reply (.columnValues table column)

/-- Every expectation is met by a column of the table. An expectation with which a column cannot be
compared is a misuse. -/
def requireColumns (table : Value) (expected : List ColumnExpectation) : Check Unit := do
  let found ← columns table
  ofExcept (requireComparable found expected)
  let missing := maskOf (unmetFlags found expected)
  require (missing == 0) (.schema table missing (unmetReasons found expected))

end Check
end GeoConformance
