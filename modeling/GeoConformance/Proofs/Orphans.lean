import GeoConformance.Proofs.Asked
import GeoConformance.Proofs.References
import Mathlib.Algebra.Order.Ring.Unbundled.Rat
import Mathlib.Data.Prod.Lex
import Mathlib.Data.String.Basic
import Mathlib.Order.WithBot

/-!
# Orphans

A value is an orphan if it is null or occurs nowhere among the referenced ones. A check of
references makes sure of both tables and both columns before it reads a value, and then reports
every orphan that a row holds, each once and in order. Equal values are dropped from the rows before
they are looked up, and no orphan is lost by that, since the look-up takes the same values for
equal. This holds as long as the collation of the column drops no others.
-/

namespace GeoConformance

/-- The place of a number on the extended line. -/
def Extended.position : Extended → WithBot (WithTop Rat)
  | .undefined => ⊥
  | .minusInfinity => ⊥
  | .finite q => ((q : WithTop Rat) : WithBot (WithTop Rat))
  | .plusInfinity => ((⊤ : WithTop Rat) : WithBot (WithTop Rat))

theorem Extended.below_iff {a b : Extended} (ha : a ≠ .undefined) (hb : b ≠ .undefined) :
    a.below b = true ↔ a.position < b.position := by
  cases a <;> cases b
  case finite.plusInfinity q =>
    simp only [below, position, WithBot.coe_lt_coe, true_iff]
    exact WithTop.coe_lt_top q
  all_goals simp_all [below, position]

namespace Value

/-- The place of a value in a list of orphans: nulls come first, then the numbers by value, then all
others by their text. -/
def place : Value → Nat ×ₗ (WithBot (WithTop Rat)) ×ₗ String
  | .null => toLex (0, toLex (⊥, ""))
  | .number n => toLex (1, toLex (n.value.position, ""))
  | v => toLex (2, toLex (⊥, v.shown))

/-- A value that refers to nothing. -/
def IsOrphan (referenced : List Value) (v : Value) : Prop :=
  v = .null ∨ ∀ r ∈ referenced, v.same r = false

/-- A list of the orphans among some values: each of them once, up to equality, nothing else, and in
order. -/
structure ListsOrphans (values referenced found : List Value) : Prop where
  complete : ∀ v ∈ values, v.IsOrphan referenced → v.isIn found = true
  sound : ∀ o ∈ found, o ∈ values ∧ o.IsOrphan referenced
  once : found.Pairwise fun a b => a.same b = false
  ordered : found.Pairwise fun a b => a.place ≤ b.place

variable {v w : Value} {vs referenced : List Value}

theorem before_iff (hv : v.hasPlace = true) (hw : w.hasPlace = true) :
    v.before w = true ↔ v.place < w.place := by
  cases v <;> cases w
  case number.number m n =>
    simp only [hasPlace, bne_iff_ne, ne_eq] at hv hw
    simp [before, place, Prod.Lex.toLex_lt_toLex, Extended.below_iff hv hw]
  all_goals simp [before, place, Prod.Lex.toLex_lt_toLex, rank]

/-- Where every value has a place, the order is that of the places. -/
theorem sort_eq_mergeSort (h : ∀ v ∈ vs, v.hasPlace = true) :
    sort vs = vs.mergeSort fun a b => decide (a.place ≤ b.place) := by
  rw [sort, if_pos (List.all_eq_true.2 h), ← List.map_id (vs.mergeSort _)]
  conv_rhs => rw [← List.map_id vs]
  refine List.map_mergeSort ?_
  intro a ha b hb
  rw [Bool.eq_iff_iff, Bool.not_eq_true', ← Bool.not_eq_true, before_iff (h b hb) (h a ha),
    decide_eq_true_iff, not_lt]
  rfl

theorem pairwise_sort (h : ∀ v ∈ vs, v.hasPlace = true) :
    (sort vs).Pairwise fun a b => a.place ≤ b.place := by
  have transitive : ∀ a b c : Value, decide (a.place ≤ b.place) = true →
      decide (b.place ≤ c.place) = true → decide (a.place ≤ c.place) = true := by
    intro a b c hab hbc
    exact decide_eq_true ((of_decide_eq_true hab).trans (of_decide_eq_true hbc))
  have total : ∀ a b : Value, (decide (a.place ≤ b.place) || decide (b.place ≤ a.place)) = true := by
    intro a b
    rw [Bool.or_eq_true, decide_eq_true_iff, decide_eq_true_iff]
    exact le_total a.place b.place
  rw [sort_eq_mergeSort h]
  exact (List.pairwise_mergeSort transitive total vs).imp of_decide_eq_true

theorem same_refl (h : v.hasPlace = true) : v.same v = true := by
  cases v with
  | number n =>
    simp only [hasPlace, bne_iff_ne, ne_eq] at h
    exact Extended.same_iff.2 ⟨rfl, h⟩
  | _ => simp [same]

theorem pairwise_distinct (vs : List Value) :
    (distinct vs).Pairwise fun a b => a.same b = false := by
  induction vs with
  | nil => exact .nil
  | cons v rest ih =>
    refine .cons ?_ (ih.filter _)
    intro w hw
    simpa using (List.mem_filter.1 hw).2

theorem isOrphan_iff : v.IsOrphan referenced ↔ (v.isNull || !v.isIn referenced) = true := by
  simp [IsOrphan, isIn, isNull_iff]

theorem IsOrphan.of_same (h : v.IsOrphan referenced) (same : v.same w = true) :
    w.IsOrphan referenced := by
  rw [isOrphan_iff, Bool.or_eq_true, Bool.not_eq_true', ← Bool.not_eq_true] at h ⊢
  refine h.imp (fun null => isNull_of_same same ▸ null) fun unmatched found => unmatched ?_
  exact isIn_of_same (same_comm v w ▸ same) found

end Value

open Value

/-- No orphan of a row is lost when equal values are dropped, and none is reported twice. -/
theorem Check.listsOrphans {values referenced : List Value}
    (placed : ∀ v ∈ values, v.hasPlace = true) :
    ListsOrphans values referenced (orphans referenced (distinct values)) := by
  have mem : ∀ o, o ∈ orphans referenced (distinct values) ↔
      o ∈ distinct values ∧ o.IsOrphan referenced := by
    intro o
    rw [orphans, (sort_perm _).mem_iff, List.mem_filter, isOrphan_iff]
  exact {
    complete := by
      intro v hv orphan
      obtain ⟨u, hu, eq⟩ := exists_mem_distinct hv
      have same : u.same v = true := by
        rcases eq with rfl | same
        · exact same_refl (placed u hv)
        · exact same
      have found := (mem u).2 ⟨hu, orphan.of_same (same_comm u v ▸ same)⟩
      exact List.any_eq_true.2 ⟨u, found, same_comm u v ▸ same⟩
    sound := by
      intro o ho
      obtain ⟨kept, orphan⟩ := (mem o).1 ho
      exact ⟨mem_of_mem_distinct kept, orphan⟩
    once := by
      have different := (pairwise_distinct values).filter fun v => v.isNull || !v.isIn referenced
      refine (sort_perm _).symm.pairwise different ?_
      intro a b unlike
      rw [same_comm, unlike]
    ordered := by
      refine pairwise_sort fun o ho => ?_
      exact placed o (mem_of_mem_distinct (List.mem_filter.1 ho).1) }

namespace Catalog

/-- A value names a table or view and can be looked up. -/
def Finds (c : Catalog) (v : Value) : Prop := v.IsUsable ∧ c.Names v

/-- If a value names a table or view, its rows can be read and its columns listed. -/
def IsReadable (c : Catalog) (v : Value) : Prop :=
  c.Names v → c.ListsColumns ∧ ∃ columns, c.StoresColumns v columns

/-- Both tables and both columns of a reference exist. -/
structure Connects (c : Catalog) (mapping idColumn table column : Value) : Prop where
  findsMapping : c.Finds mapping
  findsTable : c.Finds table
  hasIdColumn : c.HasColumn mapping idColumn
  hasColumn : c.HasColumn table column

end Catalog

/-- Values are asked for only of a column that exists under exactly its name. -/
def Query.IsSafe (c : Catalog) : Query → Prop
  | .columnValues table column => c.HasColumn (.text table) (.text column)
  | .distinctValues table column => c.HasColumn (.text table) (.text column)
  | _ => True

namespace Check

/-- How a check of references ends where the tables can be read. -/
inductive ReferencesEnd (c : Catalog) (mapping idColumn table column : Value) :
    Except Failure Unit → Prop
  | noMappingTable : ¬ c.Finds mapping →
      ReferencesEnd c mapping idColumn table column (.error (.violation (.missingTable mapping)))
  | noTable : c.Finds mapping → ¬ c.Finds table →
      ReferencesEnd c mapping idColumn table column (.error (.violation (.missingTable table)))
  | noIdColumn : c.Finds mapping → c.Finds table → ¬ c.HasColumn mapping idColumn →
      ReferencesEnd c mapping idColumn table column
        (.error (.violation (.columnShape mapping idColumn (.text "column does not exist"))))
  | noColumn : c.Finds mapping → c.Finds table → c.HasColumn mapping idColumn →
      ¬ c.HasColumn table column →
      ReferencesEnd c mapping idColumn table column
        (.error (.violation (.columnShape table column (.text "column does not exist"))))
  /-- The name of a column cannot be put into a query. -/
  | unusableColumn {m : Misuse} : c.Connects mapping idColumn table column →
      Identifier.ofValue column = .error m →
      ReferencesEnd c mapping idColumn table column (.error (.misuse m))
  | unusableIdColumn {m : Misuse} : c.Connects mapping idColumn table column → column.IsUsable →
      Identifier.ofValue idColumn = .error m →
      ReferencesEnd c mapping idColumn table column (.error (.misuse m))
  | matched {values referenced : List Value} : c.Connects mapping idColumn table column →
      column.IsUsable → idColumn.IsUsable → c.Holds mapping idColumn values →
      c.Holds table column referenced → (∀ v ∈ values, ¬ v.IsOrphan referenced) →
      ReferencesEnd c mapping idColumn table column (.ok ())
  | orphans {values referenced rest : List Value} {v : Value} :
      c.Connects mapping idColumn table column → column.IsUsable → idColumn.IsUsable →
      c.Holds mapping idColumn values → c.Holds table column referenced →
      ListsOrphans values referenced (v :: rest) →
      ReferencesEnd c mapping idColumn table column
        (.error (.violation (.orphanReference mapping idColumn v table (v :: rest))))

variable {c : Catalog} {d : Deadline} {mapping idColumn table column v : Value}

theorem resultIn_requireTable_eq_error (h : ¬ c.Finds v) :
    (requireTable v).resultIn c d = .error (.violation (.missingTable v)) := by
  have absent : (tableExists v).resultIn c d = .ok false :=
    tableExists_eq_ok.2 ⟨fun present => absurd present Bool.false_ne_true,
      fun found => absurd found h⟩
  rw [requireTable, resultIn_bind, absent]
  rfl

theorem resultIn_requireColumn_eq_error (found : c.Finds table) (readable : c.IsReadable table)
    (h : ¬ c.HasColumn table column) :
    (requireColumn table column).resultIn c d =
      .error (.violation (.columnShape table column (.text "column does not exist"))) := by
  obtain ⟨usable, named⟩ := found
  obtain ⟨lists, cols, name, e, rfl, behind, rfl⟩ := readable named
  have has : c.HasColumns (.text name) e.listed :=
    ⟨name, rfl, Catalog.columnsOf_of_fullExtent lists behind⟩
  have listed := columns_eq_ok (d := d).2 ⟨usable, has⟩
  have absent : column.isIn (e.listed.map fun c => Value.text c.name) = false := by
    rw [← Bool.not_eq_true]
    intro present
    refine h (requireColumn_eq_ok (d := d).1 ?_).2
    rw [requireColumn, resultIn_bind, listed]
    exact resultIn_require_eq_ok.2 present
  rw [requireColumn, resultIn_bind, listed]
  change (require (column.isIn (e.listed.map fun c => Value.text c.name)) _).resultIn c d = _
  rw [absent]
  rfl

theorem resultIn_nameOf_eq_error {m : Misuse} (h : Identifier.ofValue v = .error m) :
    (nameOf v).resultIn c d = .error (.misuse m) := by
  rw [nameOf, h]
  rfl

theorem exists_misuse_of_not_usable (h : ¬ v.IsUsable) : ∃ m, Identifier.ofValue v = .error m := by
  cases identified : Identifier.ofValue v with
  | ok name => exact absurd (Identifier.ofValue_eq_ok.1 identified).2 h
  | error m => exact ⟨m, rfl⟩

/-- What is left of the check once both tables and both columns have been found. -/
theorem resultIn_requireReferences (connects : c.Connects mapping idColumn table column) :
    (requireReferences mapping idColumn table column).resultIn c d =
      (columnValues table column).resultIn c d >>= fun referenced =>
        (distinctValues mapping idColumn).resultIn c d >>= fun values =>
          match Check.orphans referenced values with
          | [] => .ok ()
          | v :: rest =>
            .error (.violation (.orphanReference mapping idColumn v table (v :: rest))) := by
  obtain ⟨foundMapping, found, hasId, has⟩ := connects
  rw [requireReferences, resultIn_bind, requireTable_eq_ok.2 foundMapping]
  change (requireTable table >>= _).resultIn c d = _
  rw [resultIn_bind, requireTable_eq_ok.2 found]
  change (requireColumn mapping idColumn >>= _).resultIn c d = _
  rw [resultIn_bind, requireColumn_eq_ok.2 ⟨foundMapping.1, hasId⟩]
  change (requireColumn table column >>= _).resultIn c d = _
  rw [resultIn_bind, requireColumn_eq_ok.2 ⟨found.1, has⟩]
  change (columnValues table column >>= _).resultIn c d = _
  rw [resultIn_bind]
  congr 1
  funext referenced
  rw [resultIn_bind]
  congr 1
  funext values
  cases Check.orphans referenced values with
  | nil => rfl
  | cons v rest => rfl

theorem referencesEnd_of_connects (connects : c.Connects mapping idColumn table column)
    (apart : c.KeepsApart mapping idColumn)
    (placed : ∀ values, c.Holds mapping idColumn values → ∀ v ∈ values, v.hasPlace = true) :
    ReferencesEnd c mapping idColumn table column
      ((requireReferences mapping idColumn table column).resultIn c d) := by
  rw [resultIn_requireReferences connects]
  by_cases usable : column.IsUsable
  · obtain ⟨referenced, held⟩ := connects.hasColumn.holds
    rw [(columnValues_eq_ok connects.hasColumn).2 ⟨usable, connects.findsTable.1, held⟩]
    by_cases usableId : idColumn.IsUsable
    · obtain ⟨values, heldIds⟩ := connects.hasIdColumn.holds
      rw [ok_bind, (distinctValues_eq_ok connects.hasIdColumn apart).2
        ⟨usableId, connects.findsMapping.1, values, heldIds, rfl⟩, ok_bind]
      have listed : ListsOrphans values referenced (Check.orphans referenced (distinct values)) :=
        listsOrphans (placed values heldIds)
      cases found : Check.orphans referenced (distinct values) with
      | nil =>
        refine .matched connects usable usableId heldIds held fun v hv orphan => ?_
        have present := (found ▸ listed).complete v hv orphan
        cases present
      | cons v rest => exact .orphans connects usable usableId heldIds held (found ▸ listed)
    · obtain ⟨m, refused⟩ := exists_misuse_of_not_usable usableId
      rw [ok_bind, distinctValues, resultIn_bind, resultIn_nameOf_eq_error refused]
      exact .unusableIdColumn connects usable refused
  · obtain ⟨m, refused⟩ := exists_misuse_of_not_usable usable
    rw [columnValues, resultIn_bind, resultIn_nameOf_eq_error refused]
    exact .unusableColumn connects refused

/-- Whatever faults befall it, the check asks for no values before it has found their column. -/
theorem asks_requireReferences (looks : List QueryPattern) (faults : List Fault) :
    (requireReferences mapping idColumn table column).Asks (Query.IsSafe c)
      ⟨.database c looks, faults⟩ := by
  have inspects : ∀ v, Inspects (Query.IsSafe c) v := fun _ _ _ => ⟨trivial, trivial⟩
  refine (asksOnly_requireTable (inspects _)).asks.bind fun _ _ _ =>
    (asksOnly_requireTable (inspects _)).asks.bind fun _ _ _ =>
    (asksOnly_requireColumn (inspects _)).asks.bind fun _ _ passedId =>
    (asksOnly_requireColumn (inspects _)).asks.bind fun d _ passed => ?_
  have hasId := (requireColumn_eq_ok.1 (resultIn_of_run (d := d) passedId)).2
  have has := (requireColumn_eq_ok.1 (resultIn_of_run (d := d) passed)).2
  refine AsksOnly.asks ?_
  refine AsksOnly.bind ?_ fun referenced => AsksOnly.bind ?_ fun values => ?_
  · refine asksOnly_nameOf_bind fun label sameColumn => asksOnly_nameOf_bind fun name same => ?_
    exact asksOnly_reply (show c.HasColumn _ _ from same ▸ sameColumn ▸ has)
  · refine asksOnly_nameOf_bind fun label sameColumn => asksOnly_nameOf_bind fun name same => ?_
    exact asksOnly_reply (show c.HasColumn _ _ from same ▸ sameColumn ▸ hasId)
  · cases Check.orphans referenced values with
    | nil => exact asksOnly_pure _
    | cons v rest => exact asksOnly_violate _

/-- Where the tables can be read, the check reports the first of mapping table, referenced table and
their columns that is missing, and else the orphans, if there are any. -/
theorem requireReferences_reports (d : Deadline) (readableMapping : c.IsReadable mapping)
    (readable : c.IsReadable table) (apart : c.KeepsApart mapping idColumn)
    (placed : ∀ values, c.Holds mapping idColumn values → ∀ v ∈ values, v.hasPlace = true) :
    ReferencesEnd c mapping idColumn table column
        ((requireReferences mapping idColumn table column).resultIn c d) ∧
      (requireReferences mapping idColumn table column).Asks (Query.IsSafe c)
        (.undisturbed c) := by
  refine ⟨?_, asks_requireReferences [] []⟩
  by_cases foundMapping : c.Finds mapping
  case neg =>
    rw [requireReferences, resultIn_bind, resultIn_requireTable_eq_error foundMapping]
    exact .noMappingTable foundMapping
  by_cases found : c.Finds table
  case neg =>
    rw [requireReferences, resultIn_bind, requireTable_eq_ok.2 foundMapping, ok_bind,
      resultIn_bind, resultIn_requireTable_eq_error found]
    exact .noTable foundMapping found
  by_cases hasId : c.HasColumn mapping idColumn
  case neg =>
    rw [requireReferences, resultIn_bind, requireTable_eq_ok.2 foundMapping, ok_bind,
      resultIn_bind, requireTable_eq_ok.2 found, ok_bind, resultIn_bind,
      resultIn_requireColumn_eq_error foundMapping readableMapping hasId]
    exact .noIdColumn foundMapping found hasId
  by_cases has : c.HasColumn table column
  case neg =>
    rw [requireReferences, resultIn_bind, requireTable_eq_ok.2 foundMapping, ok_bind,
      resultIn_bind, requireTable_eq_ok.2 found, ok_bind, resultIn_bind,
      requireColumn_eq_ok.2 ⟨foundMapping.1, hasId⟩, ok_bind, resultIn_bind,
      resultIn_requireColumn_eq_error found readable has]
    exact .noColumn foundMapping found hasId has
  exact referencesEnd_of_connects ⟨foundMapping, found, hasId, has⟩ apart placed

section Samples

/-- Rows that refer to places by numbers, by a text and by nothing at all. -/
def scatteredReferences : Catalog :=
  [.table "visits" ⟨[⟨"base_id", some "INTEGER", true, .null, 0⟩],
     [[.number (.int 3000)], [.number (.int 1)], [.null], [.number (.real (.finite false 2000))],
      [.text "1"], [.number (.int 2000)], [.null], [.number (.real (.finite false 1))]]⟩,
   .table "places" ⟨[⟨"id", some "INTEGER", false, .null, 1⟩], [[.number (.int 1)]]⟩]

/-- A column and a table whose names are empty. -/
def namelessReferences : Catalog :=
  [.table "visits" ⟨[⟨"", some "INTEGER", true, .null, 0⟩], [[.number (.int 1)]]⟩,
   .table "" ⟨[⟨"base_id", some "INTEGER", true, .null, 0⟩], [[.number (.int 1)]]⟩,
   .table "places" ⟨[⟨"id", some "INTEGER", false, .null, 1⟩], [[.number (.int 1)]]⟩]

/-- Two texts that their column takes for the same. -/
def foldedReferences : Catalog :=
  [.table "visits" ⟨[⟨"base_id", some "TEXT", true, .null, 0⟩], [[.text "a"], [.text "A"]]⟩
     [{ collation := .noCase }],
   .table "places" ⟨[⟨"id", some "TEXT", false, .null, 1⟩], [[.text "a"]]⟩]

theorem scatteredReferences_reported :
    scatteredReferences.IsReadable (.text "visits") ∧
      scatteredReferences.IsReadable (.text "places") ∧
      scatteredReferences.KeepsApart (.text "visits") (.text "base_id") ∧
      (∀ values, scatteredReferences.Holds (.text "visits") (.text "base_id") values →
        ∀ v ∈ values, v.hasPlace = true) ∧
      ReferencesEnd scatteredReferences (.text "visits") (.text "base_id") (.text "places")
        (.text "id") ((requireReferences (.text "visits") (.text "base_id") (.text "places")
          (.text "id")).resultIn scatteredReferences ⟨none, false⟩) ∧
      (requireReferences (.text "visits") (.text "base_id") (.text "places") (.text "id")).Asks
        (Query.IsSafe scatteredReferences) (.undisturbed scatteredReferences) := by
  have readableMapping : scatteredReferences.IsReadable (.text "visits") :=
    fun _ => ⟨rfl, _, "visits", _, rfl, rfl, rfl⟩
  have readable : scatteredReferences.IsReadable (.text "places") :=
    fun _ => ⟨rfl, _, "places", _, rfl, rfl, rfl⟩
  have placed : ∀ values, scatteredReferences.Holds (.text "visits") (.text "base_id") values →
      ∀ v ∈ values, v.hasPlace = true := by
    intro values held
    rw [held.unique ⟨"visits", "base_id", _, 0, rfl, rfl, rfl, rfl, rfl⟩]
    decide
  have apart : scatteredReferences.KeepsApart (.text "visits") (.text "base_id") :=
    Catalog.keepsApart_of_binary rfl
  exact ⟨readableMapping, readable, apart, placed,
    requireReferences_reports ⟨none, false⟩ readableMapping readable apart placed⟩

theorem foldedReferences_connects :
    foldedReferences.Connects (.text "visits") (.text "base_id") (.text "places") (.text "id") where
  findsMapping := ⟨Value.isUsable_text.2 (by decide), "visits", rfl, by decide⟩
  findsTable := ⟨Value.isUsable_text.2 (by decide), "places", rfl, by decide⟩
  hasIdColumn := ⟨_, ⟨"visits", rfl, rfl⟩, _, List.mem_cons_self, rfl⟩
  hasColumn := ⟨_, ⟨"places", rfl, rfl⟩, _, List.mem_cons_self, rfl⟩

/-- A name that is empty cannot be looked up, so the table of that name counts as missing, and the
column of that name, though found, cannot be read. An orphan that the column takes for another value
is not looked up. -/
theorem namelessReferences_and_foldedReferences :
    (namelessReferences.Connects (.text "visits") (.text "") (.text "places") (.text "id") ∧
      namelessReferences.References (.text "visits") (.text "") (.text "places") (.text "id") ∧
      (requireReferences (.text "visits") (.text "") (.text "places") (.text "id")).resultIn
        namelessReferences ⟨none, false⟩ = .error (.misuse (.invalidIdentifier (.text "")))) ∧
    (namelessReferences.Names (.text "") ∧
      namelessReferences.References (.text "") (.text "base_id") (.text "places") (.text "id") ∧
      (requireReferences (.text "") (.text "base_id") (.text "places") (.text "id")).resultIn
        namelessReferences ⟨none, false⟩ = .error (.violation (.missingTable (.text "")))) ∧
    ¬ foldedReferences.References (.text "visits") (.text "base_id") (.text "places")
        (.text "id") ∧
      (requireReferences (.text "visits") (.text "base_id") (.text "places") (.text "id")).resultIn
        foldedReferences ⟨none, false⟩ = .ok () := by
  have usable : ∀ name ∈ ["visits", "places"], (Value.text name).IsUsable := by
    intro name member
    rw [Value.isUsable_text]
    revert name
    decide
  have places : namelessReferences.Finds (.text "places") :=
    ⟨usable _ (by simp), "places", rfl, by decide⟩
  have ids : namelessReferences.Holds (.text "places") (.text "id") [.number (.int 1)] :=
    ⟨"places", "id", _, 0, rfl, rfl, rfl, rfl, rfl⟩
  refine ⟨⟨⟨⟨usable _ (by simp), "visits", rfl, by decide⟩, places,
    ⟨_, ⟨"visits", rfl, rfl⟩, _, List.mem_cons_self, rfl⟩,
    ⟨_, ⟨"places", rfl, rfl⟩, _, List.mem_cons_self, rfl⟩⟩, ⟨_, _,
    ⟨"visits", "", _, 0, rfl, rfl, rfl, rfl, rfl⟩, ids, by decide⟩, by decide⟩,
    ⟨⟨"", rfl, by decide⟩, ⟨_, _, ⟨"", "base_id", _, 0, rfl, rfl, rfl, rfl, rfl⟩, ids,
      by decide⟩, by decide⟩, ?_, ?_⟩
  · rintro ⟨values, referenced, held, known, found⟩
    rw [held.unique ⟨"visits", "base_id", _, 0, rfl, rfl, rfl, rfl, rfl⟩,
      known.unique ⟨"places", "id", _, 0, rfl, rfl, rfl, rfl, rfl⟩] at found
    revert found
    decide
  · have read : (columnValues (.text "places") (.text "id")).resultIn foldedReferences
        ⟨none, false⟩ = .ok [.text "a"] := rfl
    have folded : (distinctValues (.text "visits") (.text "base_id")).resultIn foldedReferences
        ⟨none, false⟩ = .ok [.text "a"] := rfl
    have matched : Check.orphans [.text "a"] [.text "a"] = [] := orphans_eq_nil.2 (by decide)
    rw [resultIn_requireReferences foldedReferences_connects, read, folded, ok_bind, ok_bind,
      matched]

end Samples

end Check

end GeoConformance
