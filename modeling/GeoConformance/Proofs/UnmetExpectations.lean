import GeoConformance.Proofs.Mismatches
import GeoConformance.Proofs.Orphans
import Mathlib.Data.List.Nodup

/-!
# Unmet expectations

An expectation is unmet when no column goes by its name or the one that does differs in an attribute
that is constrained. What is reported of a table is exactly its unmet expectations: one bit and one
reason for each of them. Neither the order of the columns nor those that nothing is expected of can
show in the report.
-/

namespace GeoConformance

namespace ColumnExpectation

/-- No column has exactly the expected name, or the one that has it is not as expected. -/
def IsUnmet (columns : List Column) (e : ColumnExpectation) : Prop :=
  (∀ k ∈ columns, k.name ≠ e.name) ∨ ∃ k ∈ columns, k.name = e.name ∧ ∃ m, e.Differs k m

/-- A name with the reason why it is reported: that there is no such column, or one phrase for each
attribute in which the column differs. -/
structure ExplainedBy (columns : List Column) (e : ColumnExpectation) (reason : String × String) :
    Prop where
  name : reason.1 = e.name
  missing : reason.2 = "missing column" ↔ ∀ k ∈ columns, k.name ≠ e.name
  differing : ∀ k ∈ columns, k.name = e.name → ∃ ms : List ColumnMismatch,
    (∀ m, m ∈ ms ↔ e.Differs k m) ∧ (ms.Pairwise fun a b => a.attribute < b.attribute) ∧
      reason.2 = ", ".intercalate (ms.map ColumnMismatch.message)

end ColumnExpectation

/-- Under different names a name stands for at most one thing. -/
theorem find?_name_eq_some {α : Type} {name : α → String} {as : List α} {a : α} {s : String}
    (distinct : (as.map name).Nodup) :
    as.find? (fun a => name a == s) = some a ↔ a ∈ as ∧ name a = s := by
  constructor
  · intro found
    exact ⟨List.mem_of_find?_eq_some found, by simpa using List.find?_some found⟩
  · rintro ⟨member, rfl⟩
    cases found : as.find? (fun b => name b == name a) with
    | none => exact absurd (beq_self_eq_true (name a)) (List.find?_eq_none.1 found a member)
    | some b =>
      have named : name b = name a := by simpa using List.find?_some found
      rw [List.inj_on_of_nodup_map distinct (List.mem_of_find?_eq_some found) member named]

theorem filter_name_eq {α : Type} {name : α → String} {as : List α}
    (distinct : (as.map name).Nodup) (s : String) :
    as.filter (fun a => name a == s) = (as.find? fun a => name a == s).toList := by
  induction as with
  | nil => rfl
  | cons a rest ih =>
    rw [List.map_cons, List.nodup_cons] at distinct
    by_cases named : (name a == s) = true
    · have alone : rest.filter (fun b => name b == s) = [] := by
        rw [List.filter_eq_nil_iff]
        intro b hb also
        rw [beq_iff_eq] at named also
        exact distinct.1 (named ▸ also ▸ List.mem_map_of_mem hb)
      simp [named, alone]
    · simp [named, ih distinct.2]

theorem eraseDups_of_nodup {names : List String} (distinct : names.Nodup) :
    names.eraseDups = names := by
  induction names with
  | nil => rfl
  | cons name rest ih =>
    rw [List.nodup_cons] at distinct
    have others : rest.filter (fun b => !b == name) = rest := by
      rw [List.filter_eq_self]
      intro b hb
      simpa using fun same : b = name => distinct.1 (same ▸ hb)
    rw [List.eraseDups_cons, others, ih distinct.2]

theorem forall₂_filter_filterMap {α β : Type} {R : α → β → Prop} {f : α → Option β} {as : List α}
    (h : ∀ a ∈ as, ∀ b, f a = some b → R a b) :
    (as.filter fun a => (f a).isSome).Forall₂ R (as.filterMap f) := by
  induction as with
  | nil => exact .nil
  | cons a rest ih =>
    rw [List.forall_mem_cons] at h
    cases image : f a with
    | none => simpa [image] using ih h.2
    | some b => simpa [image] using ⟨h.1 b image, ih h.2⟩

section Names

variable {columns columns' : List Column} {expected : List ColumnExpectation}
  {e : ColumnExpectation} {k : Column}

theorem expectationOf?_eq_some {name : String} (distinct : (expected.map (·.name)).Nodup) :
    expectationOf? expected name = some e ↔ e ∈ expected ∧ e.name = name := by
  have reversed : (expected.reverse.map (·.name)).Nodup := by
    rw [List.map_reverse]
    exact List.nodup_reverse.2 distinct
  rw [expectationOf?, find?_name_eq_some reversed, List.mem_reverse]

theorem unmetReason?_eq (distinct : (columns.map (·.name)).Nodup) :
    unmetReason? columns e =
      match columns.find? fun k => k.name == e.name with
      | none => some "missing column"
      | some k =>
        if e.isMetBy k then none
        else some (", ".intercalate ((e.mismatches k).map ColumnMismatch.message)) := by
  rw [unmetReason?, filter_name_eq distinct]
  cases columns.find? fun k => k.name == e.name with
  | none => rfl
  | some k => cases met : e.isMetBy k <;> simp [met]

theorem unmetFlags_eq_isSome (distinctColumns : (columns.map (·.name)).Nodup)
    (distinct : (expected.map (·.name)).Nodup) :
    unmetFlags columns expected = expected.map fun e => (unmetReason? columns e).isSome := by
  rw [unmetFlags_eq distinct]
  refine List.map_congr_left fun e _ => ?_
  rw [← List.any_filter, filter_name_eq distinctColumns, unmetReason?_eq distinctColumns]
  cases columns.find? fun k => k.name == e.name with
  | none => rfl
  | some k => cases met : e.isMetBy k <;> simp [met]

theorem unmetReasons_eq (distinct : (expected.map (·.name)).Nodup) :
    unmetReasons columns expected =
      expected.filterMap fun e => (unmetReason? columns e).map (e.name, ·) := by
  rw [unmetReasons, eraseDups_of_nodup distinct, List.filterMap_map]
  refine List.filterMap_congr fun e he => ?_
  have counts : expectationOf? expected e.name = some e :=
    (expectationOf?_eq_some distinct).2 ⟨he, rfl⟩
  simp only [Function.comp_apply, counts, Option.bind_eq_bind, Option.bind_some]
  cases unmetReason? columns e <;> rfl

/-- What is said of an expectation depends on the column of its name alone. -/
theorem unmetReason?_congr (distinct : (columns.map (·.name)).Nodup)
    (distinct' : (columns'.map (·.name)).Nodup)
    (agree : ∀ k : Column, k.name = e.name → (k ∈ columns' ↔ k ∈ columns)) :
    unmetReason? columns' e = unmetReason? columns e := by
  have found : (columns'.find? fun k => k.name == e.name) =
      columns.find? fun k => k.name == e.name := by
    refine Option.ext fun k => ?_
    rw [find?_name_eq_some distinct, find?_name_eq_some distinct']
    exact and_congr_left (agree k)
  rw [unmetReason?_eq distinct, unmetReason?_eq distinct', found]

/-- The expectations that count for the columns of a table state types that can be compared. -/
def IsComparableWith (columns : List Column) (expected : List ColumnExpectation) : Prop :=
  ∀ k ∈ columns, ∀ e ∈ expected, k.name = e.name → e.isComparable = true

/-- At most one column goes by the expected name, and what is said hangs on it alone. -/
theorem unmetReason?_cases (e : ColumnExpectation) (distinct : (columns.map (·.name)).Nodup) :
    ((∀ k ∈ columns, k.name ≠ e.name) ∧ unmetReason? columns e = some "missing column") ∨
      ∃ k ∈ columns, k.name = e.name ∧ (∀ k' ∈ columns, k'.name = e.name → k' = k) ∧
        unmetReason? columns e =
          if e.isMetBy k then none
          else some (", ".intercalate ((e.mismatches k).map ColumnMismatch.message)) := by
  have byName (k : Column) := find?_name_eq_some (a := k) (s := e.name) distinct
  rw [unmetReason?_eq distinct]
  cases found : columns.find? fun k => k.name == e.name with
  | none => exact .inl ⟨by simpa using found, rfl⟩
  | some k =>
    obtain ⟨hk, named⟩ := (byName k).1 found
    refine .inr ⟨k, hk, named, fun k' hk' named' => ?_, rfl⟩
    exact Option.some.inj (((byName k').2 ⟨hk', named'⟩).symm.trans found)

theorem unmetReason?_isSome (distinct : (columns.map (·.name)).Nodup)
    (comparable : ∀ k ∈ columns, k.name = e.name → e.isComparable = true) :
    (unmetReason? columns e).isSome = true ↔ e.IsUnmet columns := by
  obtain ⟨absent, reason⟩ | ⟨k, hk, named, unique, reason⟩ := unmetReason?_cases e distinct
  · rw [reason]
    exact iff_of_true rfl (.inl absent)
  · have only : e.IsUnmet columns ↔ ∃ m, e.Differs k m := by
      constructor
      · rintro (absent | ⟨k', hk', named', differs⟩)
        · exact absurd named (absent k hk)
        · rwa [← unique k' hk' named']
      · exact fun differs => .inr ⟨k, hk, named, differs⟩
    rw [reason, only, ← not_iff_not, not_exists,
      ← ColumnExpectation.isMetBy_iff_forall (comparable k hk named)]
    cases met : e.isMetBy k <;> simp

theorem explainedBy_of_unmetReason? {reason : String} (distinct : (columns.map (·.name)).Nodup)
    (comparable : ∀ k ∈ columns, k.name = e.name → e.isComparable = true)
    (h : unmetReason? columns e = some reason) : e.ExplainedBy columns (e.name, reason) := by
  obtain ⟨absent, missing⟩ | ⟨k, hk, named, unique, verdict⟩ := unmetReason?_cases e distinct
  · cases h.symm.trans missing
    exact ⟨rfl, iff_of_true rfl absent, fun k hk named => absurd named (absent k hk)⟩
  · rw [verdict] at h
    cases met : e.isMetBy k with
    | true => simp [met] at h
    | false =>
      simp only [met, Bool.false_eq_true, ↓reduceIte, Option.some.injEq] at h
      have differs : e.mismatches k ≠ [] := by
        intro none
        rw [ColumnExpectation.isMetBy, none] at met
        cases met
      refine ⟨rfl, iff_of_false ?_ fun absent => absent k hk named, fun k' hk' named' => ?_⟩
      · exact h ▸ ColumnMismatch.intercalate_message_ne differs
      · cases unique k' hk' named'
        exact ⟨e.mismatches k, fun m => ColumnExpectation.mem_mismatches (comparable k hk named),
          ColumnExpectation.pairwise_mismatches (comparable k hk named), h.symm⟩

theorem ColumnExpectation.exists_type_of_not_comparable (h : ¬ e.isComparable = true) :
    ∃ t, e.type = some t ∧ t.canonicalType? = none := by
  cases wanted : e.type with
  | none => simp [isComparable, wanted] at h
  | some t => exact ⟨t, rfl, by simpa [isComparable, wanted] using h⟩

/-- The comparison of one column with the expectation that counts for its name. -/
def compareWithExpected (expected : List ColumnExpectation) (k : Column) : Except Misuse Unit :=
  match expectationOf? expected k.name with
  | some e => (e.compare k.attributes).map fun _ => ()
  | none => .ok ()

theorem requireComparable_cons (k : Column) (rest : List Column) :
    requireComparable (k :: rest) expected =
      compareWithExpected expected k >>= fun _ => requireComparable rest expected := by
  rw [requireComparable, List.forM_eq_forM, List.forM_cons]
  rfl

theorem compareWithExpected_ends (k : Column) (distinct : (expected.map (·.name)).Nodup) :
    (compareWithExpected expected k = .ok () ∧
        ∀ e ∈ expected, k.name = e.name → e.isComparable = true) ∨
      ∃ e ∈ expected, k.name = e.name ∧ ∃ t, e.type = some t ∧ t.canonicalType? = none ∧
        compareWithExpected expected k = .error (.notATypeName t.kind) := by
  have counting : ∀ e ∈ expected, k.name = e.name → expectationOf? expected k.name = some e :=
    fun e he named => (expectationOf?_eq_some distinct).2 ⟨he, named.symm⟩
  unfold compareWithExpected
  cases counts : expectationOf? expected k.name with
  | none =>
    refine .inl ⟨rfl, fun e he named => ?_⟩
    cases counts.symm.trans (counting e he named)
  | some e =>
    obtain ⟨he, named⟩ := (expectationOf?_eq_some distinct).1 counts
    by_cases comparable : e.isComparable = true
    · obtain ⟨found, compared⟩ := ColumnExpectation.compare_isOk k comparable
      refine .inl ⟨by simp [compared, Except.map], fun e' he' named' => ?_⟩
      cases counts.symm.trans (counting e' he' named')
      exact comparable
    · obtain ⟨t, wanted, untyped⟩ := ColumnExpectation.exists_type_of_not_comparable comparable
      have compared : e.compare k.attributes = .error (.notATypeName t.kind) := by
        unfold ColumnExpectation.compare
        rw [ColumnExpectation.compareType_of_not_canonical wanted untyped]
        rfl
      exact .inr ⟨e, he, named.symm, t, wanted, untyped, by simp [compared, Except.map]⟩

/-- The first column that cannot be compared decides how the comparison ends. -/
theorem requireComparable_ends (columns : List Column)
    (distinct : (expected.map (·.name)).Nodup) :
    (requireComparable columns expected = .ok () ∧ IsComparableWith columns expected) ∨
      ∃ k ∈ columns, ∃ e ∈ expected, k.name = e.name ∧ ∃ t, e.type = some t ∧
        t.canonicalType? = none ∧
        requireComparable columns expected = .error (.notATypeName t.kind) := by
  induction columns with
  | nil => exact .inl ⟨rfl, fun _ hk => nomatch hk⟩
  | cons k rest ih =>
    rw [requireComparable_cons]
    obtain ⟨compared, comparable⟩ | ⟨e, he, named, t, wanted, untyped, failed⟩ :=
      compareWithExpected_ends k distinct
    · rw [compared, ok_bind]
      refine ih.imp ?_ ?_
      · exact fun ⟨ok, others⟩ => ⟨ok, List.forall_mem_cons.2 ⟨comparable, others⟩⟩
      · exact fun ⟨k', hk', found⟩ => ⟨k', List.mem_cons_of_mem k hk', found⟩
    · rw [failed]
      exact .inr ⟨k, List.mem_cons_self, e, he, named, t, wanted, untyped, rfl⟩

theorem unmetReason?_isSome_of_mem (distinct : (columns.map (·.name)).Nodup)
    (comparable : IsComparableWith columns expected) (he : e ∈ expected) :
    (unmetReason? columns e).isSome = true ↔ e.IsUnmet columns :=
  unmetReason?_isSome distinct fun k hk named => comparable k hk e he named

/-- One bit for each expectation, in their order, and none beyond them. -/
theorem testBit_maskOf_unmetFlags (distinctColumns : (columns.map (·.name)).Nodup)
    (distinct : (expected.map (·.name)).Nodup) (comparable : IsComparableWith columns expected)
    (i : Nat) :
    (maskOf (unmetFlags columns expected)).testBit i = true ↔
      ∃ e, expected[i]? = some e ∧ e.IsUnmet columns := by
  rw [testBit_maskOf, unmetFlags_eq_isSome distinctColumns distinct,
    List.getD_eq_getElem?_getD, List.getElem?_map]
  cases found : expected[i]? with
  | none => simp
  | some e =>
    have unmet := unmetReason?_isSome_of_mem distinctColumns comparable
      (List.mem_of_getElem? found)
    simpa using unmet

theorem maskOf_unmetFlags_eq_zero (distinctColumns : (columns.map (·.name)).Nodup)
    (distinct : (expected.map (·.name)).Nodup) (comparable : IsComparableWith columns expected) :
    maskOf (unmetFlags columns expected) = 0 ↔ ∀ e ∈ expected, ¬ e.IsUnmet columns := by
  rw [maskOf_eq_zero, unmetFlags_eq_isSome distinctColumns distinct, List.forall_mem_map]
  refine forall₂_congr fun e he => ?_
  rw [← unmetReason?_isSome_of_mem distinctColumns comparable he, Bool.not_eq_true]

theorem requireComparable_eq_ok_of_comparable (distinct : (expected.map (·.name)).Nodup)
    (comparable : IsComparableWith columns expected) :
    requireComparable columns expected = .ok () := by
  obtain ⟨ok, -⟩ | ⟨k, hk, e, he, named, t, wanted, untyped, -⟩ :=
    requireComparable_ends columns distinct
  · exact ok
  · have typed := comparable k hk e he named
    rw [ColumnExpectation.isComparable, wanted] at typed
    simp [untyped] at typed

end Names

namespace Check

/-- How a check of columns ends, given the columns of the table. -/
inductive ColumnsEnd (columns : List Column) (table : Value) (expected : List ColumnExpectation) :
    Except Failure Unit → Prop
  /-- The name of the table cannot be put into a query. -/
  | unusableTable {m : Misuse} : Identifier.ofValue table = .error m →
      ColumnsEnd columns table expected (.error (.misuse m))
  /-- What is expected of a column that is present is no type at all. -/
  | incomparable {k : Column} {e : ColumnExpectation} {t : Value} : table.IsUsable → k ∈ columns →
      e ∈ expected → k.name = e.name → e.type = some t → t.canonicalType? = none →
      ColumnsEnd columns table expected (.error (.misuse (.notATypeName t.kind)))
  | met : table.IsUsable → IsComparableWith columns expected →
      (∀ e ∈ expected, ¬ e.IsUnmet columns) → ColumnsEnd columns table expected (.ok ())
  | unmet {mask : Nat} {reasons : List (String × String)} {unmet : List ColumnExpectation} :
      table.IsUsable → IsComparableWith columns expected →
      (∀ i, mask.testBit i = true ↔ ∃ e, expected[i]? = some e ∧ e.IsUnmet columns) →
      unmet ≠ [] → unmet.Sublist expected → (∀ e ∈ expected, e ∈ unmet ↔ e.IsUnmet columns) →
      unmet.Forall₂ (fun e reason => e.ExplainedBy columns reason) reasons →
      ColumnsEnd columns table expected (.error (.violation (.schema table mask reasons)))

variable {c c' : Catalog} {d d' : Deadline} {table : Value} {columns columns' : List Column}
  {expected : List ColumnExpectation}

theorem resultIn_requireColumns (usable : table.IsUsable) (has : c.HasColumns table columns) :
    (requireColumns table expected).resultIn c d =
      (ofExcept (requireComparable columns expected)).resultIn c d >>= fun _ =>
        if maskOf (unmetFlags columns expected) = 0 then .ok ()
        else .error (.violation (.schema table (maskOf (unmetFlags columns expected))
          (unmetReasons columns expected))) := by
  rw [requireColumns, resultIn_bind, columns_eq_ok.2 ⟨usable, has⟩, ok_bind]
  rw [resultIn_bind]
  congr 1
  funext _
  by_cases none : maskOf (unmetFlags columns expected) = 0 <;> simp [none, require]

theorem resultIn_requireColumns_eq_error {m : Misuse} (h : Identifier.ofValue table = .error m) :
    (requireColumns table expected).resultIn c d = .error (.misuse m) := by
  rw [requireColumns, resultIn_bind, Check.columns, resultIn_bind, resultIn_nameOf_eq_error h]
  rfl

theorem columnsEnd_of_comparable (usable : table.IsUsable)
    (distinctColumns : (columns.map (·.name)).Nodup)
    (distinct : (expected.map (·.name)).Nodup) (comparable : IsComparableWith columns expected) :
    ColumnsEnd columns table expected
      (if maskOf (unmetFlags columns expected) = 0 then .ok ()
        else .error (.violation (.schema table (maskOf (unmetFlags columns expected))
          (unmetReasons columns expected)))) := by
  have isSome {e} (he : e ∈ expected) :=
    unmetReason?_isSome_of_mem distinctColumns comparable he
  have none := maskOf_unmetFlags_eq_zero distinctColumns distinct comparable
  split
  case isTrue zero => exact .met usable comparable (none.1 zero)
  case isFalse nonzero =>
    have member : ∀ e ∈ expected, (e ∈ expected.filter fun e => (unmetReason? columns e).isSome) ↔
        e.IsUnmet columns := by
      intro e he
      rw [List.mem_filter, isSome he]
      exact and_iff_right he
    have nonempty : (expected.filter fun e => (unmetReason? columns e).isSome) ≠ [] := by
      intro empty
      refine nonzero (none.2 fun e he isUnmet => ?_)
      have listed := (member e he).2 isUnmet
      rw [empty] at listed
      cases listed
    have explained : (expected.filter fun e => (unmetReason? columns e).isSome).Forall₂
        (fun e reason => e.ExplainedBy columns reason) (unmetReasons columns expected) := by
      have sameFilter : (fun e : ColumnExpectation => (unmetReason? columns e).isSome) =
          fun e => ((unmetReason? columns e).map (e.name, ·)).isSome := by
        funext e
        rw [Option.isSome_map]
      rw [unmetReasons_eq distinct, sameFilter]
      refine forall₂_filter_filterMap fun e he reason found => ?_
      obtain ⟨why, because, rfl⟩ := Option.map_eq_some_iff.1 found
      exact explainedBy_of_unmetReason? distinctColumns
        (fun k hk named => comparable k hk e he named) because
    exact .unmet usable comparable
      (testBit_maskOf_unmetFlags distinctColumns distinct comparable) nonempty
      List.filter_sublist member explained

/-- The report depends on nothing but the columns of the names that are expected. -/
theorem resultIn_requireColumns_congr (has : c.HasColumns table columns)
    (has' : c'.HasColumns table columns') (distinctColumns : (columns.map (·.name)).Nodup)
    (distinctColumns' : (columns'.map (·.name)).Nodup)
    (distinct : (expected.map (·.name)).Nodup) (comparable : IsComparableWith columns expected)
    (agree : ∀ k : Column, (∃ e ∈ expected, k.name = e.name) → (k ∈ columns' ↔ k ∈ columns)) :
    (requireColumns table expected).resultIn c' d' =
      (requireColumns table expected).resultIn c d := by
  by_cases usable : table.IsUsable
  case neg =>
    obtain ⟨m, refused⟩ := exists_misuse_of_not_usable usable
    rw [resultIn_requireColumns_eq_error refused, resultIn_requireColumns_eq_error refused]
  case pos =>
    have comparable' : IsComparableWith columns' expected := by
      intro k hk e he named
      exact comparable k ((agree k ⟨e, he, named⟩).1 hk) e he named
    have reason : ∀ e ∈ expected, unmetReason? columns' e = unmetReason? columns e :=
      fun e he => unmetReason?_congr distinctColumns distinctColumns'
        fun k named => agree k ⟨e, he, named⟩
    have flags : unmetFlags columns' expected = unmetFlags columns expected := by
      rw [unmetFlags_eq_isSome distinctColumns distinct,
        unmetFlags_eq_isSome distinctColumns' distinct]
      exact List.map_congr_left fun e he => by rw [reason e he]
    have reasons : unmetReasons columns' expected = unmetReasons columns expected := by
      rw [unmetReasons_eq distinct, unmetReasons_eq distinct]
      exact List.filterMap_congr fun e he => by rw [reason e he]
    rw [resultIn_requireColumns usable has, resultIn_requireColumns usable has', flags, reasons,
      requireComparable_eq_ok_of_comparable distinct comparable,
      requireComparable_eq_ok_of_comparable distinct comparable']
    rfl

/-- What is reported of a table is exactly what is unmet of the expectations, whatever the order of
its columns and whatever else it has. -/
theorem requireColumns_reports (d : Deadline) (has : c.HasColumns table columns)
    (distinctColumns : (columns.map (·.name)).Nodup)
    (distinct : (expected.map (·.name)).Nodup) :
    ColumnsEnd columns table expected ((requireColumns table expected).resultIn c d) ∧
      (IsComparableWith columns expected → ∀ c' columns' d', c'.HasColumns table columns' →
        (columns'.map (·.name)).Nodup →
        (∀ k : Column, (∃ e ∈ expected, k.name = e.name) → (k ∈ columns' ↔ k ∈ columns)) →
        (requireColumns table expected).resultIn c' d' =
          (requireColumns table expected).resultIn c d) := by
  refine ⟨?_, fun comparable _ _ _ has' distinctColumns' agree =>
    resultIn_requireColumns_congr has has' distinctColumns distinctColumns' distinct comparable
      agree⟩
  by_cases usable : table.IsUsable
  case neg =>
    obtain ⟨m, refused⟩ := exists_misuse_of_not_usable usable
    rw [resultIn_requireColumns_eq_error refused]
    exact .unusableTable refused
  case pos =>
    rw [resultIn_requireColumns usable has]
    obtain ⟨ok, comparable⟩ | ⟨k, hk, e, he, named, t, wanted, untyped, failed⟩ :=
      requireComparable_ends columns distinct
    · rw [ok]
      exact columnsEnd_of_comparable usable distinctColumns distinct comparable
    · rw [failed]
      exact .incomparable usable hk he named wanted untyped

section Samples

def misshapenColumns : List Column :=
  [⟨"note", some " text ", false, .text "'x'", 0⟩, ⟨"id", some "TEXT", false, .null, 0⟩,
   ⟨"extra", none, false, .null, 0⟩]

/-- The columns that matter, in another order and among other ones. -/
def reorderedColumns : List Column :=
  [⟨"ID", some "INTEGER", true, .null, 1⟩, ⟨"id", some "TEXT", false, .null, 0⟩,
   ⟨"note", some " text ", false, .text "'x'", 0⟩]

def misshapenExpectations : List ColumnExpectation :=
  [{ name := "id", type := some (.text "INTEGER"), notNull := some true, key := some .anyPosition },
   { name := "geom", type := some (.text "BLOB") },
   { name := "note", type := some (.text "TEXT"), default := some (.text "x") }]

/-- A table without a name, and one that has a name. -/
def identifiedTables : Catalog :=
  [.table "" ⟨[⟨"id", some "INTEGER", false, .null, 1⟩], []⟩,
   .table "t" ⟨[⟨"id", some "INTEGER", false, .null, 1⟩], []⟩]

theorem misshapenColumns_reported :
    Catalog.HasColumns [.table "places" ⟨misshapenColumns, []⟩] (.text "places")
        misshapenColumns ∧
      (misshapenColumns.map (·.name)).Nodup ∧ (misshapenExpectations.map (·.name)).Nodup ∧
      ColumnsEnd misshapenColumns (.text "places") misshapenExpectations
        ((requireColumns (.text "places") misshapenExpectations).resultIn
          [.table "places" ⟨misshapenColumns, []⟩] ⟨none, false⟩) ∧
      IsComparableWith misshapenColumns misshapenExpectations ∧
      (requireColumns (.text "places") misshapenExpectations).resultIn
          [.table "places" ⟨reorderedColumns, []⟩] ⟨none, false⟩ =
        (requireColumns (.text "places") misshapenExpectations).resultIn
          [.table "places" ⟨misshapenColumns, []⟩] ⟨none, false⟩ ∧
      (requireColumns (.text "places") misshapenExpectations).resultIn
          [.table "places" ⟨misshapenColumns, []⟩] ⟨none, false⟩ =
        .error (.violation (.schema (.text "places") 0b011
          [("id", "type expected [INTEGER] but found [TEXT], notnull expected [1] but found [0]" ++
            ", primary key expected but column is not part of it"),
           ("geom", "missing column")])) := by
  have has : Catalog.HasColumns [.table "places" ⟨misshapenColumns, []⟩] (.text "places")
      misshapenColumns := ⟨"places", rfl, rfl⟩
  have has' : Catalog.HasColumns [.table "places" ⟨reorderedColumns, []⟩] (.text "places")
      reorderedColumns := ⟨"places", rfl, rfl⟩
  have typed : ∀ e ∈ misshapenExpectations, e.isComparable = true := by decide
  have comparable : IsComparableWith misshapenColumns misshapenExpectations :=
    fun _ _ e he _ => typed e he
  have shared : ∀ k ∈ reorderedColumns ++ misshapenColumns,
      k.name ∈ misshapenExpectations.map (·.name) →
      k ∈ reorderedColumns ∧ k ∈ misshapenColumns := by decide
  have agree : ∀ k : Column, (∃ e ∈ misshapenExpectations, k.name = e.name) →
      (k ∈ reorderedColumns ↔ k ∈ misshapenColumns) := by
    rintro k ⟨e, he, named⟩
    have expected : k.name ∈ misshapenExpectations.map (·.name) :=
      named ▸ List.mem_map_of_mem he
    exact ⟨fun hk => (shared k (List.mem_append_left _ hk) expected).2,
      fun hk => (shared k (List.mem_append_right _ hk) expected).1⟩
  have distinctColumns : (misshapenColumns.map (·.name)).Nodup := by decide
  have distinct : (misshapenExpectations.map (·.name)).Nodup := by decide
  obtain ⟨ends, same⟩ := requireColumns_reports ⟨none, false⟩ has distinctColumns distinct
  exact ⟨has, distinctColumns, distinct, ends, comparable,
    same comparable _ _ _ has' (by decide) agree, by decide +kernel⟩

/-- A table without a name has all that is expected of it and cannot be asked for. What is no type
differs from every type and cannot be compared with one. -/
theorem identifiedTables_refused :
    (∃ columns, identifiedTables.HasColumns (.text "") columns ∧
      (columns.map (·.name)).Nodup ∧
      (∀ e ∈ [{ name := "id", type := some (.text "INTEGER") : ColumnExpectation }],
        ¬ e.IsUnmet columns) ∧
      (requireColumns (.text "") [{ name := "id", type := some (.text "INTEGER") }]).resultIn
        identifiedTables ⟨none, false⟩ = .error (.misuse (.invalidIdentifier (.text "")))) ∧
    ∃ columns, identifiedTables.HasColumns (.text "t") columns ∧
      (columns.map (·.name)).Nodup ∧
      (∀ e ∈ [{ name := "id", type := some .null : ColumnExpectation }], e.IsUnmet columns) ∧
      (requireColumns (.text "t") [{ name := "id", type := some .null }]).resultIn
        identifiedTables ⟨none, false⟩ = .error (.misuse (.notATypeName "NoneType")) := by
  constructor
  · refine ⟨_, ⟨"", rfl, rfl⟩, by decide, ?_, by decide⟩
    intro e he
    rw [List.mem_singleton] at he
    subst he
    rw [← unmetReason?_isSome (by decide) fun _ _ _ => by decide]
    decide
  · refine ⟨_, ⟨"t", rfl, rfl⟩, by decide, ?_, by decide⟩
    intro e he
    rw [List.mem_singleton] at he
    subst he
    exact .inr ⟨_, List.mem_cons_self, rfl, _, .type rfl nofun⟩

end Samples

end Check

end GeoConformance
