import GeoConformance.Column
import GeoConformance.Value.Integer

/-!
# What is expected of columns

An expectation names a column and constrains some of its attributes. A table meets a list of
expectations when each named column is present with every constrained attribute as expected; columns
beyond those named do not matter.
-/

namespace GeoConformance

inductive KeyExpectation
  | anyPosition
  | position (expected : Value)
deriving DecidableEq

/-- An attribute without a value is not constrained. -/
structure ColumnExpectation where
  name : String
  type : Option Value := none
  notNull : Option Bool := none
  default : Option Value := none
  key : Option KeyExpectation := none
deriving DecidableEq

inductive ColumnMismatch
  | type (expected found : Value)
  | notNull (expected : Bool) (found : Int)
  | default (expected found : Value)
  | notInKey
  | keyPosition (expected found : Value)
deriving DecidableEq

namespace ColumnMismatch

def message : ColumnMismatch → String
  | .type expected found => s!"type expected [{expected.shown}] but found [{found.shown}]"
  | .notNull expected found => s!"notnull expected [{expected.toNat}] but found [{found}]"
  | .default expected found =>
    s!"default value expected [{expected.shown}] but found [{found.shown}]"
  | .notInKey => "primary key expected but column is not part of it"
  | .keyPosition expected found =>
    s!"primary key expected [{expected.shown}] but found [{found.shown}]"

end ColumnMismatch

/-- What is shown for an attribute that is not stated. -/
def unstated : Value := .text "ANY"

/-- What a message calls the kind of an attribute that is not stated. -/
def unstatedKind : String := "_Any"

namespace ColumnExpectation

/-- What is neither a text nor bytes is no type, and a type that is not stated cannot be compared
either. -/
def compareType (e : ColumnExpectation) (c : ColumnAttributes) :
    Except Misuse (Option ColumnMismatch) :=
  match e.type, c.type with
  | none, _ => .ok none
  | some _, none => .error (.notATypeName unstatedKind)
  | some expected, some found =>
    match found.typeOrEmpty.canonicalType?, expected.canonicalType? with
    | none, _ => .error (.notATypeName found.kind)
    | some _, none => .error (.notATypeName expected.kind)
    | some a, some b => .ok (if a.same b then none else some (.type expected found))

/-- A flag that differs is shown as an integer, so it must have one. -/
def compareNotNull (e : ColumnExpectation) (c : ColumnAttributes) :
    Except Misuse (Option ColumnMismatch) :=
  match e.notNull, c.notNull with
  | none, _ => .ok none
  | some _, none => .error (.notNumeric unstatedKind)
  | some expected, some found =>
    if (Value.number (.flag expected)).same found then .ok none
    else found.toInt.map fun n => some (.notNull expected n)

def defaultMismatch (e : ColumnExpectation) (c : ColumnAttributes) : Option ColumnMismatch := do
  let expected ← e.default
  let found := c.default.getD unstated
  if denotedDefault expected = denotedDefault found then none else some (.default expected found)

/-- A position that is not stated is some position and no particular one. -/
def keyMismatch (e : ColumnExpectation) (c : ColumnAttributes) : Option ColumnMismatch := do
  match ← e.key, c.keyPosition with
  | .anyPosition, some found => if found.isPresent then none else some .notInKey
  | .anyPosition, none => none
  | .position expected, some found =>
    if expected.same found then none else some (.keyPosition expected found)
  | .position expected, none => some (.keyPosition expected unstated)

/-- The constrained attributes in which what is stated of a column differs. -/
def compare (e : ColumnExpectation) (c : ColumnAttributes) :
    Except Misuse (List ColumnMismatch) := do
  let type ← e.compareType c
  let notNull ← e.compareNotNull c
  return [type, notNull, e.defaultMismatch c, e.keyMismatch c].filterMap id

/-- The constrained attributes in which a column differs, if it can be compared. -/
def mismatches (e : ColumnExpectation) (c : Column) : List ColumnMismatch :=
  (e.compare c.attributes).toOption.getD []

def isMetBy (e : ColumnExpectation) (c : Column) : Bool := (e.mismatches c).isEmpty

/-- Whether the expected type, if there is one, is a type at all. -/
def isComparable (e : ColumnExpectation) : Bool := e.type.all (·.canonicalType?.isSome)

theorem compareType_text {e : ColumnExpectation} {type : String} (c : Column)
    (h : e.type = some (.text type)) :
    e.compareType c.attributes =
      .ok (if canonicalType (c.type.getD "") = canonicalType type then none
        else some (.type (.text type) (.ofText? c.type))) := by
  simp [compareType, h, Column.attributes, Value.canonicalType?, Value.same]

theorem compareNotNull_attributes (e : ColumnExpectation) (c : Column) :
    e.compareNotNull c.attributes =
      .ok (e.notNull.bind fun expected =>
        if expected = c.notNull then none else some (.notNull expected c.notNull.toNat)) := by
  unfold compareNotNull
  cases e.notNull with
  | none => rfl
  | some expected =>
    cases expected <;> cases found : c.notNull <;>
      simp [Column.attributes, found, Value.same, Number.value, Extended.same, Value.toInt,
        Number.toInt, Except.map]

theorem compareType_isOk {e : ColumnExpectation} (c : Column) (h : e.isComparable = true) :
    ∃ found, e.compareType c.attributes = .ok found := by
  unfold compareType
  cases wanted : e.type with
  | none => exact ⟨none, rfl⟩
  | some expected =>
    simp only [isComparable, wanted, Option.all_some] at h
    obtain ⟨b, hb⟩ := Option.isSome_iff_exists.1 h
    simp only [Column.attributes, Value.typeOrEmpty_ofText?, hb]
    exact ⟨_, rfl⟩

/-- Only the expected type can keep a column from being compared. -/
theorem compare_isOk {e : ColumnExpectation} (c : Column) (h : e.isComparable = true) :
    ∃ found, e.compare c.attributes = .ok found := by
  obtain ⟨type, hType⟩ := compareType_isOk c h
  unfold compare
  rw [hType, compareNotNull_attributes]
  exact ⟨_, rfl⟩

end ColumnExpectation

/-- The number whose `i`-th bit is the `i`-th flag. -/
def maskOf : List Bool → Nat
  | [] => 0
  | flag :: rest => flag.toNat + 2 * maskOf rest

/-- The expectations that the columns of a table do not meet; of two under one name only the last
counts, and the earlier ones are never met. -/
def unmetFlags (columns : List Column) : List ColumnExpectation → List Bool
  | [] => []
  | e :: rest =>
    (rest.any (·.name == e.name) || !columns.any fun c => c.name == e.name && e.isMetBy c)
      :: unmetFlags columns rest

/-- The expectation that counts for a name. -/
def expectationOf? (expected : List ColumnExpectation) (name : String) :
    Option ColumnExpectation :=
  expected.reverse.find? (·.name == name)

/-- Every column can be compared with the expectation that counts for its name. -/
def requireComparable (columns : List Column) (expected : List ColumnExpectation) :
    Except Misuse Unit :=
  columns.forM fun c =>
    match expectationOf? expected c.name with
    | some e => (e.compare c.attributes).map fun _ => ()
    | none => .ok ()

/-- Why the column that `e` names is not as expected. -/
def unmetReason? (columns : List Column) (e : ColumnExpectation) : Option String :=
  let named := columns.filter (·.name == e.name)
  match (named.filter fun c => !e.isMetBy c).getLast? with
  | some c => some (", ".intercalate ((e.mismatches c).map ColumnMismatch.message))
  | none => if named.isEmpty then some "missing column" else none

/-- The reasons for every expected name, in the order of the expectations. -/
def unmetReasons (columns : List Column) (expected : List ColumnExpectation) :
    List (String × String) :=
  (expected.map (·.name)).eraseDups.filterMap fun name => do
    let e ← expectationOf? expected name
    let reason ← unmetReason? columns e
    return (name, reason)

theorem requireComparable_eq_ok {expected : List ColumnExpectation} (columns : List Column)
    (h : ∀ e ∈ expected, e.isComparable = true) : requireComparable columns expected = .ok () := by
  unfold requireComparable
  induction columns with
  | nil => rfl
  | cons c rest ih =>
    rw [List.forM_eq_forM] at ih ⊢
    rw [List.forM_cons, ih]
    cases counts : expectationOf? expected c.name with
    | none => rfl
    | some e =>
      have member : e ∈ expected := List.mem_reverse.1 (List.mem_of_find?_eq_some counts)
      obtain ⟨found, hFound⟩ := ColumnExpectation.compare_isOk c (h e member)
      simp only [hFound]
      rfl

theorem testBit_maskOf (flags : List Bool) (i : Nat) :
    (maskOf flags).testBit i = flags.getD i false := by
  induction flags generalizing i with
  | nil => simp [maskOf]
  | cons flag rest ih =>
    cases i with
    | zero => cases flag <;> simp [maskOf, Nat.testBit_zero]
    | succ i =>
      rw [Nat.testBit_succ]
      have h : (maskOf (flag :: rest)) / 2 = maskOf rest := by
        cases flag
        · simp [maskOf]
        · simp [maskOf]; omega
      simp [h, ih]

end GeoConformance
