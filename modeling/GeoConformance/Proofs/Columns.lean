import GeoConformance.Proofs.Schema

/-!
# Columns as expected

A table meets a list of expectations under different names just when each of them is met by one of
its columns, attribute by attribute.
-/

namespace GeoConformance

/-- The declared type, up to blanks and case. -/
def Column.HasType (k : Column) (type : String) : Prop := canonicalType (k.type.getD "") = type

instance (k : Column) (type : String) : Decidable (k.HasType type) :=
  inferInstanceAs (Decidable (_ = _))

theorem denotedDefault_eq_none {v : Value} : denotedDefault v = none ↔ v = .null := by
  cases v <;> simp only [denotedDefault, reduceCtorEq, iff_false]
  all_goals
    split
    · split <;> simp
    · simp

namespace ColumnExpectation

variable {e : ColumnExpectation} {k : Column}

theorem typeMismatch_eq_none (typed : ∀ t ∈ e.type, ∃ s, t = .text s) :
    e.compareType k.attributes = .ok none ↔
      ∀ s, e.type = some (.text s) → k.HasType (canonicalType s) := by
  cases wanted : e.type with
  | none => simp [compareType, wanted]
  | some t =>
    obtain ⟨s, rfl⟩ := typed t wanted
    rw [compareType_text k wanted]
    simp [Column.HasType]

theorem notNullMismatch_eq_none :
    e.compareNotNull k.attributes = .ok none ↔ ∀ b, e.notNull = some b → k.notNull = b := by
  rw [compareNotNull_attributes]
  cases e.notNull with
  | none => simp
  | some b => simp [eq_comm]

theorem defaultMismatch_eq_none :
    e.defaultMismatch k.attributes = none ↔
      ∀ v, e.default = some v → denotedDefault k.default = denotedDefault v := by
  unfold defaultMismatch
  cases e.default with
  | none => simp
  | some v =>
    by_cases same : denotedDefault v = denotedDefault k.default
    · simp [Column.attributes, same]
    · simp [Column.attributes, same, Ne.symm same]

theorem mismatches_eq {type notNull : Option ColumnMismatch}
    (hType : e.compareType k.attributes = .ok type)
    (hNotNull : e.compareNotNull k.attributes = .ok notNull) :
    e.mismatches k = [type, notNull, e.defaultMismatch k.attributes,
      e.keyMismatch k.attributes].filterMap id := by
  rw [mismatches, compare, hType, hNotNull]
  rfl

/-- A column meets an expectation when it agrees in every attribute that is constrained. -/
theorem isMetBy_iff (typed : ∀ t ∈ e.type, ∃ s, t = .text s) :
    e.isMetBy k = true ↔
      (∀ s, e.type = some (.text s) → k.HasType (canonicalType s)) ∧
      (∀ b, e.notNull = some b → k.notNull = b) ∧
      (∀ v, e.default = some v → denotedDefault k.default = denotedDefault v) ∧
      e.keyMismatch k.attributes = none := by
  have comparable : e.isComparable = true := by
    cases wanted : e.type with
    | none => simp [isComparable, wanted]
    | some t =>
      obtain ⟨s, rfl⟩ := typed t wanted
      simp [isComparable, wanted, Value.canonicalType?]
  obtain ⟨type, hType⟩ := compareType_isOk k comparable
  obtain ⟨notNull, hNotNull⟩ : ∃ m, e.compareNotNull k.attributes = .ok m :=
    ⟨_, compareNotNull_attributes e k⟩
  rw [← typeMismatch_eq_none typed, ← notNullMismatch_eq_none, ← defaultMismatch_eq_none]
  rw [isMetBy, mismatches_eq hType hNotNull, hType, hNotNull]
  simp

theorem keyMismatch_eq_none_of_unconstrained (h : e.key = none) :
    e.keyMismatch k.attributes = none := by
  unfold keyMismatch
  rw [h]
  rfl

theorem keyMismatch_position {n : Nat} (h : e.key = some (.position (.number (.int n)))) :
    e.keyMismatch k.attributes = none ↔ k.keyPosition = n := by
  have same : (Value.number (.int n)).same (.number (.int k.keyPosition)) =
      decide (k.keyPosition = n) := by
    simp only [Value.same, Number.value, Extended.same, Bool.beq_eq_decide_eq, Rat.intCast_inj,
      Int.natCast_inj, @eq_comm _ n]
  unfold keyMismatch
  rw [h]
  change (if (Value.number (.int n)).same (.number (.int k.keyPosition)) then none else some _) =
    none ↔ _
  rw [same]
  simp

end ColumnExpectation

theorem maskOf_eq_zero {flags : List Bool} : maskOf flags = 0 ↔ ∀ b ∈ flags, b = false := by
  induction flags with
  | nil => simp [maskOf]
  | cons b rest ih =>
    rw [List.forall_mem_cons, ← ih]
    cases b
    · simp only [maskOf, Bool.toNat_false, true_and]
      omega
    · simp [maskOf]

/-- Under different names no expectation gives way to a later one. -/
theorem unmetFlags_eq {columns : List Column} {expected : List ColumnExpectation}
    (distinct : (expected.map (·.name)).Nodup) :
    unmetFlags columns expected =
      expected.map fun e => !columns.any fun k => k.name == e.name && e.isMetBy k := by
  induction expected with
  | nil => rfl
  | cons e rest ih =>
    rw [List.map_cons, List.nodup_cons] at distinct
    have last : rest.any (·.name == e.name) = false := by
      rw [List.any_eq_false]
      intro other hother
      rw [beq_iff_eq]
      intro same
      exact distinct.1 (List.mem_map.2 ⟨other, hother, same⟩)
    rw [unmetFlags, List.map_cons, ih distinct.2, last, Bool.false_or]

namespace Check

variable {c : Catalog} {d : Deadline} {v : Value} {expected : List ColumnExpectation}

theorem requireColumns_eq_ok (comparable : ∀ e ∈ expected, e.isComparable = true)
    (distinct : (expected.map (·.name)).Nodup) :
    (requireColumns v expected).resultIn c d = .ok () ↔
      v.IsUsable ∧ ∃ cols, c.HasColumns v cols ∧
        ∀ e ∈ expected, ∃ k ∈ cols, k.name = e.name ∧ e.isMetBy k = true := by
  have unmet : ∀ cols, (maskOf (unmetFlags cols expected) == 0) = true ↔
      ∀ e ∈ expected, ∃ k ∈ cols, k.name = e.name ∧ e.isMetBy k = true := by
    intro cols
    rw [beq_iff_eq, maskOf_eq_zero, unmetFlags_eq distinct]
    simp
  simp only [requireColumns, resultIn_bind_eq_ok, columns_eq_ok]
  constructor
  · intro h
    obtain ⟨cols, ⟨usable, has⟩, _, -, passed⟩ := h
    exact ⟨usable, cols, has, (unmet cols).1 (resultIn_require_eq_ok.1 passed)⟩
  · intro h
    obtain ⟨usable, cols, has, met⟩ := h
    refine ⟨cols, ⟨usable, has⟩, (), ?_, resultIn_require_eq_ok.2 ((unmet cols).2 met)⟩
    exact resultIn_ofExcept_eq_ok.2 (requireComparable_eq_ok cols comparable)

theorem isDecisive_requireColumns (usable : v.IsUsable)
    (comparable : ∀ e ∈ expected, e.isComparable = true) :
    IsDecisive c d (requireColumns v expected) := by
  apply (isDecisive_columns usable).bind
  intro cols _
  apply (isDecisive_ofExcept (requireComparable_eq_ok cols comparable)).bind
  intro _ _
  exact isDecisive_require _ _

end Check
end GeoConformance
