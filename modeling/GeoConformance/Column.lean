import GeoConformance.Affinity
import GeoConformance.Text.UpperCase

/-!
# Columns

The shape of a column as a table declares it, and the attributes by which shapes are compared. Types
are the same up to blanks and case, and defaults are the same when they denote the same text. The
type also decides, together with a collation, which values the engine takes for equal to one that
the column holds.
-/

namespace GeoConformance

open Text

/-- The declared shape of a column. `keyPosition` counts from one inside the primary key and is zero
outside it; `default` is the text of the default expression, or null. -/
structure Column where
  name : String
  type : Option String
  notNull : Bool
  default : Value
  keyPosition : Nat
deriving DecidableEq

/-- What is stated of a column, in a table or elsewhere. An attribute need not be stated. -/
structure ColumnAttributes where
  type : Option Value
  notNull : Option Value
  default : Option Value
  keyPosition : Option Value
deriving DecidableEq

/-- A table states every attribute of its columns. -/
def Column.attributes (c : Column) : ColumnAttributes where
  type := some (.ofText? c.type)
  notNull := some (.number (.flag c.notNull))
  default := some c.default
  keyPosition := some (.number (.int c.keyPosition))

def Column.affinity (c : Column) : Affinity := .ofType (c.type.getD "")

/-- Whether the engine takes a value that the column holds for equal to another one. A null equals
nothing. -/
def Column.takes (c : Column) (k : Collation) (stored v : Value) : Bool :=
  !stored.isNull && (c.affinity.apply stored v).sameUnder k (c.affinity.apply v stored)

/-- Types are the same up to blanks around them and case. -/
def canonicalType (type : String) : String := upper (trim type)

/-- The blanks and letters of bytes are those of ASCII. -/
def canonicalBytes (bytes : List UInt8) : List UInt8 :=
  (trimClass (fun b => b == 0x20 || (0x9 ≤ b && b ≤ 0xd)) bytes).map fun b =>
    if 0x61 ≤ b && b ≤ 0x7a then b - 0x20 else b

/-- The form in which types are compared. Nulls and numbers are no types. -/
def Value.canonicalType? : Value → Option Value
  | .text s => some (.text (canonicalType s))
  | .blob bytes => some (.blob (canonicalBytes bytes))
  | _ => none

/-- An absent type is the empty one. -/
def Value.typeOrEmpty (v : Value) : Value := if v.isPresent then v else .text ""

@[simp] theorem Value.typeOrEmpty_ofText? (type : Option String) :
    (Value.ofText? type).typeOrEmpty = .text (type.getD "") := by
  cases type with
  | none => rfl
  | some s => by_cases empty : s = "" <;> simp [typeOrEmpty, ofText?, isPresent, empty]

/-- What a default expression denotes: the content of a quoted text, and any other expression
itself. -/
def denotedDefault (v : Value) : Option String :=
  match v with
  | .null => none
  | v =>
    match v.shown.toList with
    | '\'' :: rest =>
      match rest.reverse with
      | '\'' :: inner => some (String.ofList (replaceAll ['\'', '\''] ['\''] inner.reverse))
      | _ => some v.shown
    | _ => some v.shown

end GeoConformance
