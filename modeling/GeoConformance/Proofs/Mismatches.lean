import GeoConformance.Proofs.Columns

/-!
# Mismatches

The ways in which a column can differ from what is expected of it. A comparison lists each of them
once, in the order of the attributes, and puts it in words of which none reads like the reason for a
column that is absent.
-/

namespace GeoConformance

/-- The attribute that a mismatch is about, in the order in which they are compared. -/
def ColumnMismatch.attribute : ColumnMismatch → Nat
  | .type .. => 0
  | .notNull .. => 1
  | .default .. => 2
  | .notInKey => 3
  | .keyPosition .. => 3

namespace ColumnExpectation

/-- How a column can differ from what is expected of it. Types are the same up to the blanks around
them and case, defaults if they denote the same text; any position in the key is not zero. -/
inductive Differs (e : ColumnExpectation) (k : Column) : ColumnMismatch → Prop
  | type {t : Value} : e.type = some t →
      t.canonicalType? ≠ some (.text (canonicalType (k.type.getD ""))) →
      Differs e k (.type t (.ofText? k.type))
  | notNull {b : Bool} : e.notNull = some b → k.notNull ≠ b →
      Differs e k (.notNull b k.notNull.toNat)
  | default {v : Value} : e.default = some v → denotedDefault v ≠ denotedDefault k.default →
      Differs e k (.default v k.default)
  | notInKey : e.key = some .anyPosition → k.keyPosition = 0 → Differs e k .notInKey
  | keyPosition {p : Value} : e.key = some (.position p) →
      p.same (.number (.int k.keyPosition)) = false →
      Differs e k (.keyPosition p (.number (.int k.keyPosition)))

variable {e : ColumnExpectation} {k : Column} {m : ColumnMismatch}

theorem compareType_of_canonical {t b : Value} (wanted : e.type = some t)
    (canonical : t.canonicalType? = some b) :
    e.compareType k.attributes = .ok (if b = .text (canonicalType (k.type.getD "")) then none
      else some (.type t (.ofText? k.type))) := by
  have found : (Value.text (k.type.getD "")).canonicalType? =
      some (.text (canonicalType (k.type.getD ""))) := rfl
  simp only [compareType, wanted, Column.attributes, Value.typeOrEmpty_ofText?, found, canonical,
    Value.same_comm _ b, Value.same_text_iff]

theorem compareType_of_not_canonical {t : Value} (wanted : e.type = some t)
    (untyped : t.canonicalType? = none) :
    e.compareType k.attributes = .error (.notATypeName t.kind) := by
  have found : (Value.text (k.type.getD "")).canonicalType? =
      some (.text (canonicalType (k.type.getD ""))) := rfl
  simp only [compareType, wanted, Column.attributes, Value.typeOrEmpty_ofText?, found, untyped]

theorem compareType_eq_some (comparable : e.isComparable = true) :
    e.compareType k.attributes = .ok (some m) ↔ ∃ t, e.type = some t ∧
      t.canonicalType? ≠ some (.text (canonicalType (k.type.getD ""))) ∧
      m = .type t (.ofText? k.type) := by
  cases wanted : e.type with
  | none => simp [compareType, wanted]
  | some t =>
    simp only [isComparable, wanted, Option.all_some] at comparable
    obtain ⟨b, canonical⟩ := Option.isSome_iff_exists.1 comparable
    rw [compareType_of_canonical wanted canonical]
    simp [canonical, eq_comm]

theorem compareNotNull_eq_some :
    e.compareNotNull k.attributes = .ok (some m) ↔
      ∃ b, e.notNull = some b ∧ k.notNull ≠ b ∧ m = .notNull b k.notNull.toNat := by
  rw [compareNotNull_attributes]
  cases e.notNull with
  | none => simp
  | some b => simp [eq_comm]

theorem defaultMismatch_eq_some :
    e.defaultMismatch k.attributes = some m ↔ ∃ v, e.default = some v ∧
      denotedDefault v ≠ denotedDefault k.default ∧ m = .default v k.default := by
  unfold defaultMismatch
  cases e.default with
  | none => simp
  | some v =>
    by_cases same : denotedDefault v = denotedDefault k.default
    · simp [Column.attributes, same]
    · simp [Column.attributes, same, eq_comm]

theorem isPresent_keyPosition :
    (Value.number (.int k.keyPosition)).isPresent = !decide (k.keyPosition = 0) := by
  rw [Bool.eq_iff_iff]
  simp only [Value.isPresent, Number.isZero, Number.value, Bool.not_eq_true', beq_eq_false_iff_ne,
    ne_eq, Extended.finite.injEq, decide_eq_false_iff_not]
  rw [show (0 : Rat) = ((0 : Int) : Rat) from rfl, Rat.intCast_inj, Int.natCast_eq_zero]

theorem keyMismatch_eq_some :
    e.keyMismatch k.attributes = some m ↔
      (e.key = some .anyPosition ∧ k.keyPosition = 0 ∧ m = .notInKey) ∨
      ∃ p, e.key = some (.position p) ∧ p.same (.number (.int k.keyPosition)) = false ∧
        m = .keyPosition p (.number (.int k.keyPosition)) := by
  unfold keyMismatch
  cases e.key with
  | none => simp
  | some expected =>
    cases expected with
    | anyPosition =>
      change (if (Value.number (.int k.keyPosition)).isPresent then none else some .notInKey) =
        some m ↔ _
      rw [isPresent_keyPosition]
      by_cases outside : k.keyPosition = 0
      · simp [outside, @eq_comm _ _ m]
      · simp [outside]
    | position p =>
      change (if p.same (.number (.int k.keyPosition)) then none else some _) = some m ↔ _
      cases same : p.same (.number (.int k.keyPosition)) with
      | false => simp [same, @eq_comm _ _ m]
      | true => simp [same]

/-- Where the types can be compared, a mismatch is listed for each attribute in which the column
differs, and nothing else is. -/
theorem mem_mismatches (comparable : e.isComparable = true) :
    m ∈ e.mismatches k ↔ e.Differs k m := by
  obtain ⟨type, hType⟩ := compareType_isOk k comparable
  obtain ⟨notNull, hNotNull⟩ : ∃ m, e.compareNotNull k.attributes = .ok m :=
    ⟨_, compareNotNull_attributes e k⟩
  have typeMismatch := compareType_eq_some (k := k) (m := m) comparable
  have notNullMismatch := compareNotNull_eq_some (e := e) (k := k) (m := m)
  rw [hType, Except.ok.injEq] at typeMismatch
  rw [hNotNull, Except.ok.injEq] at notNullMismatch
  rw [mismatches_eq hType hNotNull]
  simp only [List.mem_filterMap, List.mem_cons, List.not_mem_nil, or_false, id_eq,
    exists_eq_right, @eq_comm _ (some m)]
  rw [typeMismatch, notNullMismatch, defaultMismatch_eq_some, keyMismatch_eq_some]
  constructor
  · rintro (⟨t, wanted, unlike, rfl⟩ | ⟨b, wanted, unlike, rfl⟩ | ⟨v, wanted, unlike, rfl⟩ |
      ⟨wanted, outside, rfl⟩ | ⟨p, wanted, unlike, rfl⟩)
    · exact .type wanted unlike
    · exact .notNull wanted unlike
    · exact .default wanted unlike
    · exact .notInKey wanted outside
    · exact .keyPosition wanted unlike
  · intro differs
    cases differs with
    | type wanted unlike => exact .inl ⟨_, wanted, unlike, rfl⟩
    | notNull wanted unlike => exact .inr (.inl ⟨_, wanted, unlike, rfl⟩)
    | default wanted unlike => exact .inr (.inr (.inl ⟨_, wanted, unlike, rfl⟩))
    | notInKey wanted outside => exact .inr (.inr (.inr (.inl ⟨wanted, outside, rfl⟩)))
    | keyPosition wanted unlike => exact .inr (.inr (.inr (.inr ⟨_, wanted, unlike, rfl⟩)))

/-- The attributes are compared in turn, so no two mismatches are about one of them. -/
theorem pairwise_mismatches (comparable : e.isComparable = true) :
    (e.mismatches k).Pairwise fun a b => a.attribute < b.attribute := by
  obtain ⟨type, hType⟩ := compareType_isOk k comparable
  obtain ⟨notNull, hNotNull⟩ : ∃ m, e.compareNotNull k.attributes = .ok m :=
    ⟨_, compareNotNull_attributes e k⟩
  have ofType : ∀ m, type = some m → m.attribute = 0 := by
    rintro m rfl
    obtain ⟨t, -, -, rfl⟩ := (compareType_eq_some comparable).1 hType
    rfl
  have ofNotNull : ∀ m, notNull = some m → m.attribute = 1 := by
    rintro m rfl
    obtain ⟨b, -, -, rfl⟩ := compareNotNull_eq_some.1 hNotNull
    rfl
  have ofDefault : ∀ m, e.defaultMismatch k.attributes = some m → m.attribute = 2 := by
    intro m found
    obtain ⟨v, -, -, rfl⟩ := defaultMismatch_eq_some.1 found
    rfl
  have ofKey : ∀ m, e.keyMismatch k.attributes = some m → m.attribute = 3 := by
    intro m found
    obtain ⟨-, -, rfl⟩ | ⟨p, -, -, rfl⟩ := keyMismatch_eq_some.1 found <;> rfl
  rw [mismatches_eq hType hNotNull, List.pairwise_filterMap]
  simp only [id_eq, List.pairwise_cons, List.mem_cons, List.not_mem_nil, or_false,
    forall_eq_or_imp, forall_eq, List.Pairwise.nil, and_true, false_imp_iff, implies_true]
  grind

theorem isMetBy_iff_forall (comparable : e.isComparable = true) :
    e.isMetBy k = true ↔ ∀ m, ¬ e.Differs k m := by
  simp only [isMetBy, List.isEmpty_iff, List.eq_nil_iff_forall_not_mem, mem_mismatches comparable]

end ColumnExpectation

theorem head?_toList_append {a b : String} {c : Char} (h : a.toList.head? = some c) :
    (a ++ b).toList.head? = some c := by
  rw [String.toList_append, List.head?_append, h]
  rfl

namespace ColumnMismatch

/-- Every phrase begins with the attribute that it is about. -/
theorem head?_message (m : ColumnMismatch) :
    ∃ c, m.message.toList.head? = some c ∧ c ≠ 'm' := by
  cases m with
  | type expected found =>
    refine ⟨'t', ?_, by decide⟩
    iterate 4 refine head?_toList_append ?_
    rfl
  | notNull expected found =>
    refine ⟨'n', ?_, by decide⟩
    iterate 4 refine head?_toList_append ?_
    rfl
  | default expected found =>
    refine ⟨'d', ?_, by decide⟩
    iterate 4 refine head?_toList_append ?_
    rfl
  | notInKey => exact ⟨'p', rfl, by decide⟩
  | keyPosition expected found =>
    refine ⟨'p', ?_, by decide⟩
    iterate 4 refine head?_toList_append ?_
    rfl

/-- No list of phrases reads like the reason for a column that is absent. -/
theorem intercalate_message_ne {ms : List ColumnMismatch} (nonempty : ms ≠ []) :
    ", ".intercalate (ms.map message) ≠ "missing column" := by
  intro same
  obtain ⟨m, rest, rfl⟩ := List.exists_cons_of_ne_nil nonempty
  obtain ⟨c, first, other⟩ := head?_message m
  have start : (", ".intercalate ((m :: rest).map message)).toList.head? = some c := by
    rw [String.toList_intercalate]
    cases rest with
    | nil => simpa using first
    | cons _ _ =>
      rw [List.map_cons, List.map_cons, List.map_cons, List.map_cons, List.intercalate_cons_cons,
        List.append_assoc, List.head?_append, first]
      rfl
  rw [same] at start
  exact other (Option.some.inj start).symm

end ColumnMismatch

end GeoConformance
