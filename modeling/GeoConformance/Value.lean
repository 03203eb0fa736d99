import GeoConformance.Arrangement
import GeoConformance.Number
import GeoConformance.Text.Literal

/-!
# Stored values

What a row of a package can hold in a column. Values of different kinds are never the same, and
numbers are the same when their exact values are. A null is the same as a null here, which is how
look-ups outside the database see it.
-/

namespace GeoConformance

inductive Value
  | null
  | number (n : Number)
  | text (s : String)
  | blob (bytes : List UInt8)
deriving DecidableEq

namespace Value

instance : Inhabited Value := ⟨.null⟩

/-- The text of a value inside a message. -/
def shown : Value → String
  | .null => "None"
  | .number n => n.text
  | .text s => s
  | .blob bytes => Text.bytesLiteral bytes

def ofText? : Option String → Value
  | some s => .text s
  | none => .null

/-- What a message calls the kind of a value. -/
def kind : Value → String
  | .null => "NoneType"
  | .number (.flag _) => "bool"
  | .number (.int _) => "int"
  | .number (.real _) => "float"
  | .text _ => "str"
  | .blob _ => "bytes"

/-- The text of a value that a message shows as a literal. -/
def literal : Value → String
  | .text s => Text.literal s
  | v => v.shown

def same : Value → Value → Bool
  | .null, .null => true
  | .number m, .number n => m.value.same n.value
  | .text s, .text t => s == t
  | .blob a, .blob b => a == b
  | _, _ => false

def isNull : Value → Bool
  | .null => true
  | _ => false

/-- Nulls, zeros and empty texts and blobs count as absent. -/
def isPresent : Value → Bool
  | .null => false
  | .number n => !n.isZero
  | .text s => !s.isEmpty
  | .blob bytes => !bytes.isEmpty

def isIn (v : Value) (vs : List Value) : Bool := vs.any v.same

/-- The values without those that an earlier one is the same as. -/
def distinct : List Value → List Value
  | [] => []
  | v :: rest => v :: (distinct rest).filter fun w => !v.same w

def rank : Value → Nat
  | .null => 0
  | .number _ => 1
  | _ => 2

/-- The order in which unmatched values are listed: nulls, then numbers by value, then the others by
their text. -/
def before (a b : Value) : Bool :=
  match a, b with
  | .number m, .number n => m.value.below n.value
  | a, b => a.rank < b.rank || (a.rank == 2 && b.rank == 2 && a.shown < b.shown)

/-- Numbers that are none have no place in the order. -/
def hasPlace : Value → Bool
  | .number n => n.value != .undefined
  | _ => true

/-- Stable where every value has a place in the order. -/
def sort (vs : List Value) : List Value :=
  if vs.all hasPlace then vs.mergeSort fun a b => !b.before a
  else Id.run (arrange (fun a b => pure (a.before b)) vs)

theorem same_comm (a b : Value) : a.same b = b.same a := by
  cases a <;> cases b <;> simp only [same]
  · exact Extended.same_comm _ _
  · exact BEq.comm
  · exact BEq.comm

theorem same_text_iff {v : Value} {s : String} : v.same (.text s) = true ↔ v = .text s := by
  cases v <;> simp [same]

theorem sort_perm (vs : List Value) : (sort vs).Perm vs := by
  unfold sort
  split
  · exact List.mergeSort_perm _ _
  · exact arrange_perm before vs

end Value
end GeoConformance
