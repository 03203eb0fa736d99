import GeoConformance.Proofs.Schema

/-!
# References

A check of references looks at the different values of a column only, and at the referenced column
up to the case of its name. It passes just where every stored value occurs among the referenced
ones, provided the collation of the column keeps different values apart.
-/

namespace GeoConformance

namespace Extended

theorem same_trans {a b c : Extended} (h : a.same b = true) (k : b.same c = true) :
    a.same c = true := by
  rw [same_iff] at h k ⊢
  exact ⟨h.1.trans k.1, h.2⟩

end Extended

namespace Value

variable {v w : Value} {vs : List Value}

theorem same_trans {a b c : Value} (h : a.same b = true) (k : b.same c = true) :
    a.same c = true := by
  cases a <;> cases b <;> cases c <;> simp only [same, Bool.false_eq_true, beq_iff_eq] at h k ⊢
  · exact Extended.same_trans h k
  · exact h.trans k
  · exact h.trans k

theorem isNull_of_same (h : v.same w = true) : v.isNull = w.isNull := by
  cases v <;> cases w <;> first | rfl | cases h

theorem isIn_of_same (h : v.same w = true) (k : v.isIn vs = true) : w.isIn vs = true := by
  obtain ⟨u, hu, same⟩ := List.any_eq_true.1 k
  rw [same_comm] at h
  exact List.any_eq_true.2 ⟨u, hu, same_trans h same⟩

theorem mem_of_mem_distinctUnder {k : Collation} (h : v ∈ distinctUnder k vs) : v ∈ vs := by
  induction vs with
  | nil => exact h
  | cons u rest ih =>
    rcases List.mem_cons.1 h with rfl | h
    · exact List.mem_cons_self
    · exact List.mem_cons_of_mem _ (ih (List.mem_filter.1 h).1)

theorem mem_of_mem_distinct (h : v ∈ distinct vs) : v ∈ vs := by
  rw [← distinctUnder_binary] at h
  exact mem_of_mem_distinctUnder h

/-- A value that is left out is the same as one that is kept. -/
theorem exists_mem_distinct (h : v ∈ vs) : ∃ u ∈ distinct vs, u = v ∨ u.same v = true := by
  induction vs with
  | nil => cases h
  | cons w rest ih =>
    rcases List.mem_cons.1 h with rfl | h
    · exact ⟨v, List.mem_cons_self, .inl rfl⟩
    · obtain ⟨u, hu, eq⟩ := ih h
      by_cases repeated : w.same u = true
      · refine ⟨w, List.mem_cons_self, .inr ?_⟩
        rcases eq with rfl | same
        · exact repeated
        · exact same_trans repeated same
      · exact ⟨u, List.mem_cons_of_mem _ (List.mem_filter.2 ⟨hu, by simp [repeated]⟩), eq⟩

theorem forall_mem_distinct {P : Value → Prop}
    (stable : ∀ u w : Value, u.same w = true → P u → P w) :
    (∀ v ∈ distinct vs, P v) ↔ ∀ v ∈ vs, P v := by
  constructor
  · intro h v hv
    obtain ⟨u, hu, eq⟩ := exists_mem_distinct hv
    rcases eq with rfl | same
    · exact h u hu
    · exact stable u v same (h u hu)
  · intro h v hv
    exact h v (mem_of_mem_distinct hv)

/-- Where only equal values are the same under a collation, it does not matter for what is
different. -/
theorem distinctUnder_eq_distinct {k : Collation}
    (apart : ∀ v ∈ vs, ∀ w ∈ vs, v.sameUnder k w = true → v.same w = true) :
    distinctUnder k vs = distinct vs := by
  induction vs with
  | nil => rfl
  | cons v rest ih =>
    rw [distinctUnder, distinct, ih fun u hu w hw =>
      apart u (List.mem_cons_of_mem _ hu) w (List.mem_cons_of_mem _ hw)]
    congr 1
    refine List.filter_congr fun w hw => ?_
    have later : w ∈ v :: rest := List.mem_cons_of_mem _ (mem_of_mem_distinct hw)
    rw [Bool.eq_iff_iff.2 ⟨apart v List.mem_cons_self w later, sameUnder_of_same k⟩]

end Value

/-- Values of a column that its collation takes for the same are equal. -/
def Catalog.KeepsApart (c : Catalog) (table column : Value) : Prop :=
  ∀ name label values, table = .text name → column = .text label → c.Holds table column values →
    ∀ v ∈ values, ∀ w ∈ values,
      v.sameUnder (c.collationOf name label) w = true → v.same w = true

/-- Every value of a column occurs in the referenced column. -/
def Catalog.References (c : Catalog) (table column referencedTable referencedColumn : Value) :
    Prop :=
  ∃ values referenced, c.Holds table column values ∧
    c.Holds referencedTable referencedColumn referenced ∧
    ∀ v ∈ values, v.isNull = false ∧ v.isIn referenced = true

namespace Catalog

variable {c : Catalog} {table column : Value} {values : List Value}

theorem Holds.unique {values' : List Value} (h : c.Holds table column values)
    (h' : c.Holds table column values') : values = values' := by
  obtain ⟨name, label, e, i, rfl, rfl, behind, at_i, rfl⟩ := h
  obtain ⟨name', label', e', i', sameTable, sameColumn, behind', at_i', rfl⟩ := h'
  cases sameTable
  cases sameColumn
  rw [behind] at behind'
  cases behind'
  rw [at_i] at at_i'
  cases at_i'
  rfl

theorem keepsApart_of_binary {name label : String} (binary : c.collationOf name label = .binary) :
    c.KeepsApart (.text name) (.text label) := by
  intro name' label' values sameTable sameColumn _ v _ w _ same
  cases sameTable
  cases sameColumn
  rwa [binary, Value.sameUnder_binary] at same

/-- Where there is no such column its name is read as a text, and that is a single value. -/
theorem KeepsApart.of_read {name label : String} (h : c.KeepsApart (.text name) (.text label))
    (read : c.quotedColumn name label = .ok values) :
    ∀ v ∈ values, ∀ w ∈ values,
      v.sameUnder (c.collationOf name label) w = true → v.same w = true := by
  obtain ⟨e, behind, read⟩ := bind_eq_ok.1 read
  cases found : e.position? label with
  | some i =>
    rw [found] at read
    cases read
    exact h name label _ rfl rfl ⟨name, label, e, i, rfl, rfl, behind, found, rfl⟩
  | none =>
    rw [found] at read
    cases read
    intro v hv w hw _
    obtain ⟨_, -, rfl⟩ := List.mem_map.1 hv
    obtain ⟨_, -, rfl⟩ := List.mem_map.1 hw
    exact Value.same_text_iff.2 rfl

theorem HasColumn.names (h : c.HasColumn table column) : c.Names table := by
  obtain ⟨columns, has, k, hk, -⟩ := h
  exact names_of_mem_columns has hk

theorem HasColumn.holds (h : c.HasColumn table column) : ∃ values, c.Holds table column values := by
  obtain ⟨columns, ⟨name, rfl, listed⟩, k, hk, rfl⟩ := h
  obtain ⟨e, behind, rfl⟩ := fullExtent_of_mem_columns listed hk
  cases found : e.extent.position? k.name with
  | some i => exact ⟨_, name, k.name, _, i, rfl, rfl, extent_of_fullExtent behind, found, rfl⟩
  | none =>
    have unlike := List.findIdx?_eq_none_iff.1 found k (FullExtent.mem_of_mem_listed hk)
    simp at unlike

/-- Under the name of a column that exists, a quoted column is that column and no text. -/
theorem quotedColumn_eq_ok {name label : String} (h : c.HasColumn (.text name) (.text label)) :
    c.quotedColumn name label = .ok values ↔ c.Holds (.text name) (.text label) values := by
  obtain ⟨stored, held⟩ := h.holds
  obtain ⟨name', label', e, i, sameTable, sameColumn, behind, at_i, rfl⟩ := id held
  cases sameTable
  cases sameColumn
  have read : c.quotedColumn name label = .ok (e.rows.map fun row => row.getD i .null) := by
    refine bind_eq_ok.2 ⟨e, behind, ?_⟩
    rw [at_i]
    rfl
  rw [read]
  constructor
  · intro eq
    cases eq
    exact held
  · intro other
    rw [held.unique other]

end Catalog

namespace Check

variable {c : Catalog} {d : Deadline} {table column mapping idColumn : Value} {values : List Value}

theorem columnValues_eq_ok (h : c.HasColumn table column) :
    (columnValues table column).resultIn c d = .ok values ↔
      column.IsUsable ∧ table.IsUsable ∧ c.Holds table column values := by
  simp only [columnValues, resultIn_bind_eq_ok, nameOf_eq_ok]
  constructor
  · intro given
    obtain ⟨label, ⟨rfl, usableColumn⟩, name, ⟨rfl, usable⟩, read⟩ := given
    exact ⟨usableColumn, usable, (Catalog.quotedColumn_eq_ok h).1 (resultIn_reply_eq_ok.1 read)⟩
  · intro given
    obtain ⟨⟨label, rfl, usableColumn⟩, ⟨name, rfl, usable⟩, held⟩ := given
    exact ⟨label, ⟨rfl, Value.isUsable_text.2 usableColumn⟩, name,
      ⟨rfl, Value.isUsable_text.2 usable⟩,
      resultIn_reply_eq_ok.2 ((Catalog.quotedColumn_eq_ok h).2 held)⟩

theorem distinctValues_eq_ok (h : c.HasColumn table column) (apart : c.KeepsApart table column) :
    (distinctValues table column).resultIn c d = .ok values ↔
      column.IsUsable ∧ table.IsUsable ∧
        ∃ stored, c.Holds table column stored ∧ values = Value.distinct stored := by
  have listed : ∀ {name label stored}, table = .text name → column = .text label →
      c.Holds table column stored →
        Value.distinctUnder (c.collationOf name label) stored = Value.distinct stored :=
    fun sameTable sameColumn held =>
      Value.distinctUnder_eq_distinct (apart _ _ _ sameTable sameColumn held)
  simp only [distinctValues, resultIn_bind_eq_ok, nameOf_eq_ok]
  constructor
  · intro given
    obtain ⟨label, ⟨rfl, usableColumn⟩, name, ⟨rfl, usable⟩, read⟩ := given
    have answered : (c.quotedColumn name label).map
        (Value.distinctUnder (c.collationOf name label)) = .ok values := resultIn_reply_eq_ok.1 read
    cases stored : c.quotedColumn name label with
    | ok vs =>
      rw [stored] at answered
      cases answered
      have held := (Catalog.quotedColumn_eq_ok h).1 stored
      exact ⟨usableColumn, usable, vs, held, listed rfl rfl held⟩
    | error e =>
      rw [stored] at answered
      cases answered
  · intro given
    obtain ⟨⟨label, rfl, usableColumn⟩, ⟨name, rfl, usable⟩, stored, held, rfl⟩ := given
    have read : (c.quotedColumn name label).map (Value.distinctUnder (c.collationOf name label)) =
        .ok (Value.distinct stored) := by
      rw [(Catalog.quotedColumn_eq_ok h).2 held, ← listed rfl rfl held]
      rfl
    exact ⟨label, ⟨rfl, Value.isUsable_text.2 usableColumn⟩, name,
      ⟨rfl, Value.isUsable_text.2 usable⟩, resultIn_reply_eq_ok.2 read⟩

theorem orphans_eq_nil {referenced : List Value} :
    orphans referenced values = [] ↔
      ∀ v ∈ values, v.isNull = false ∧ v.isIn referenced = true := by
  have perm := Value.sort_perm (values.filter fun v => v.isNull || !v.isIn referenced)
  have empty : orphans referenced values = [] ↔
      values.filter (fun v => v.isNull || !v.isIn referenced) = [] := by
    unfold orphans
    constructor
    · intro h
      rw [h] at perm
      exact perm.nil_eq.symm
    · intro h
      rw [h] at perm
      rw [h]
      exact perm.eq_nil
  simp [empty]

theorem orphans_distinct_eq_nil {referenced : List Value} :
    orphans referenced (Value.distinct values) = [] ↔
      ∀ v ∈ values, v.isNull = false ∧ v.isIn referenced = true := by
  rw [orphans_eq_nil]
  refine Value.forall_mem_distinct ?_
  intro v w same h
  obtain ⟨notNull, found⟩ := h
  exact ⟨Value.isNull_of_same same ▸ notNull, Value.isIn_of_same same found⟩

theorem requireReferences_eq_ok (apart : c.KeepsApart mapping idColumn) :
    (requireReferences mapping idColumn table column).resultIn c d = .ok () ↔
      (mapping.IsUsable ∧ table.IsUsable ∧ idColumn.IsUsable ∧ column.IsUsable) ∧
        c.HasColumn mapping idColumn ∧ c.HasColumn table column ∧
        c.References mapping idColumn table column := by
  simp only [requireReferences, resultIn_bind_eq_ok]
  constructor
  · intro h
    obtain ⟨_, -, _, -, _, passedId, _, passed, referenced, read, ids, readIds, matched⟩ := h
    obtain ⟨usableMapping, hasId⟩ := requireColumn_eq_ok.1 passedId
    obtain ⟨usable, has⟩ := requireColumn_eq_ok.1 passed
    obtain ⟨usableColumn, -, held⟩ := (columnValues_eq_ok has).1 read
    obtain ⟨usableId, -, stored, heldIds, rfl⟩ := (distinctValues_eq_ok hasId apart).1 readIds
    refine ⟨⟨usableMapping, usable, usableId, usableColumn⟩, hasId, has, stored, referenced,
      heldIds, held, ?_⟩
    rw [← orphans_distinct_eq_nil]
    split at matched
    · assumption
    · cases matched
  · intro h
    obtain ⟨⟨usableMapping, usable, usableId, usableColumn⟩, hasId, has, stored, referenced,
      heldIds, held, found⟩ := h
    have read := (columnValues_eq_ok (d := d) has).2 ⟨usableColumn, usable, held⟩
    have readIds := (distinctValues_eq_ok (d := d) hasId apart).2
      ⟨usableId, usableMapping, stored, heldIds, rfl⟩
    refine ⟨(), requireTable_eq_ok.2 ⟨usableMapping, hasId.names⟩, (),
      requireTable_eq_ok.2 ⟨usable, has.names⟩, (), requireColumn_eq_ok.2 ⟨usableMapping, hasId⟩,
      (), requireColumn_eq_ok.2 ⟨usable, has⟩, referenced, read, _, readIds, ?_⟩
    rw [orphans_distinct_eq_nil.2 found]
    rfl

theorem isDecisive_distinctValues (usable : table.IsUsable) (usableColumn : column.IsUsable) :
    IsDecisive c d (distinctValues table column) :=
  (isDecisive_nameOf usableColumn).bind fun _ _ =>
    (isDecisive_nameOf usable).bind fun _ _ => isDecisive_reply _

/-- All but the name of the referenced column is looked at before it is used. -/
theorem requireReferences_failsAs {P : Failure → Prop} (adverse : ∀ f, f.IsAdverse → P f)
    (usableId : idColumn.IsUsable)
    (named : c.HasColumn table column → FailsAs P ((nameOf column).resultIn c d)) :
    FailsAs P ((requireReferences mapping idColumn table column).resultIn c d) := by
  apply failsAs_bind (isDecisive_requireTable.mono adverse)
  intro _ foundMapping
  apply failsAs_bind (isDecisive_requireTable.mono adverse)
  intro _ found
  have usableMapping := (requireTable_eq_ok.1 foundMapping).1
  have usable := (requireTable_eq_ok.1 found).1
  apply failsAs_bind ((isDecisive_requireColumn usableMapping).mono adverse)
  intro _ _
  apply failsAs_bind ((isDecisive_requireColumn usable).mono adverse)
  intro _ has
  refine failsAs_bind ?_ fun referenced _ => ?_
  · apply failsAs_bind (named (requireColumn_eq_ok.1 has).2)
    intro _ _
    apply failsAs_bind ((isDecisive_nameOf usable).mono adverse)
    exact fun _ _ => (isDecisive_reply _).mono adverse
  · apply failsAs_bind ((isDecisive_distinctValues usableMapping usableId).mono adverse)
    intro ids _
    cases orphans referenced ids with
    | nil => exact (isDecisive_pure ()).mono adverse
    | cons v rest => exact (isDecisive_violate _).mono adverse

end Check
end GeoConformance
