import Mathlib.Data.List.Perm.Subperm
import GeoConformance.Proofs.Asked
import GeoConformance.Proofs.RelatedTables.Asking
import GeoConformance.Proofs.RelatedTables.Conformance
import GeoConformance.Proofs.SpatialIndex.Installation

/-!
# Tables that nothing refers to

A package may hold tables of any other kind. As long as neither the bookkeeping nor a view names
such a table and it takes the place neither of an index nor of the function that lists columns, no
query of a validation is about it, and the queries that are asked have the answers that they have
without it. They may take longer; this matters only to a deadline that has passed.
-/

namespace GeoConformance

open Text

namespace Catalog

variable {c before after : Catalog} {name label : String} {added : Extent} {ts : List Trait}

/-- No view shows a table of this name. -/
def IsUnseen (c : Catalog) (name : String) : Prop :=
  ∀ view source, SchemaObject.view view source ∈ c → sameName name source = false

/-- Where more views may be followed than there are objects, one more makes no difference. -/
theorem follow_succ {visited : List String} {depth : Nat} {shown : String} (once : visited.Nodup)
    (known : visited ⊆ c.map SchemaObject.name) (deep : c.length < depth + visited.length) :
    c.follow visited (depth + 1) label shown = c.follow visited depth label shown := by
  induction depth generalizing visited label shown with
  | zero =>
    have bound := (List.subperm_of_subset once known).length_le
    rw [List.length_map] at bound
    omega
  | succ depth ih =>
    rw [follow, follow]
    cases found : c.readable? label with
    | none => rfl
    | some o =>
      cases o with
      | table name extent traits => rfl
      | computed name isView sql extent traits => rfl
      | entry name kind sql => rfl
      | view view source =>
        simp only
        split
        · rfl
        · rename_i fresh
          have member : view ∈ c.map SchemaObject.name :=
            List.mem_map_of_mem (f := SchemaObject.name) (List.mem_of_find?_eq_some found)
          rw [ih]
          · exact List.nodup_cons.2 ⟨by simpa using fresh, once⟩
          · exact List.cons_subset.2 ⟨member, known⟩
          · rw [List.length_cons]
            omega

theorem readable?_insert (other : sameName name label = false) :
    readable? (before ++ .table name added ts :: after) label =
      readable? (before ++ after) label := by
  have passed : ((SchemaObject.table name added ts).isReadable &&
      sameName (SchemaObject.table name added ts).name label) = false := other
  rw [readable?, readable?, List.find?_append, List.find?_append, List.find?_cons, passed]

theorem follow_insert (unseen : (before ++ after).IsUnseen name)
    (other : sameName name label = false) (visited : List String) (depth : Nat) (shown : String) :
    follow (before ++ .table name added ts :: after) visited depth label shown =
      follow (before ++ after) visited depth label shown := by
  induction depth generalizing visited label shown with
  | zero => rfl
  | succ depth ih =>
    -- What a view shows is again not the table, since no view shows it.
    rw [follow, follow, readable?_insert other]
    cases found : readable? (before ++ after) label with
    | none => rfl
    | some o =>
      cases o with
      | table name extent traits => rfl
      | computed name isView sql extent traits => rfl
      | entry name kind sql => rfl
      | view view source =>
        simp only [ih (unseen view source (List.mem_of_find?_eq_some found))]

theorem fullExtent_insert (unseen : (before ++ after).IsUnseen name)
    (other : sameName name label = false) :
    fullExtent (before ++ .table name added ts :: after) label =
      fullExtent (before ++ after) label := by
  have length : (before ++ .table name added ts :: after : Catalog).length =
      (before ++ after).length + 1 := by
    simp [Nat.add_assoc]
  -- The longer catalog lets one more view be followed.
  rw [fullExtent, fullExtent, follow_insert unseen other, length]
  exact follow_succ List.nodup_nil (List.nil_subset _) (Nat.lt_succ_self _)

theorem extent_insert (unseen : (before ++ after).IsUnseen name)
    (other : sameName name label = false) :
    extent (before ++ .table name added ts :: after) label = extent (before ++ after) label := by
  rw [extent, extent, fullExtent_insert unseen other]

theorem collationOf_insert (unseen : (before ++ after).IsUnseen name)
    (other : sameName name label = false) (column : String) :
    collationOf (before ++ .table name added ts :: after) label column =
      collationOf (before ++ after) label column := by
  rw [collationOf, collationOf, fullExtent_insert unseen other]

theorem columnsOf_insert (unseen : (before ++ after).IsUnseen name)
    (unlisted : sameName name columnLister = false) (other : sameName name label = false) :
    columnsOf (before ++ .table name added ts :: after) label =
      columnsOf (before ++ after) label := by
  rw [columnsOf, columnsOf, listerError?, listerError?, readable?_insert unlisted,
    readable?_insert other, fullExtent_insert unseen other]

theorem filter_insert {p : SchemaObject → Bool} (passed : p (.table name added ts) = false) :
    (before ++ .table name added ts :: after).filter p = (before ++ after).filter p := by
  rw [List.filter_append, List.filter_cons, passed, List.filter_append]
  rfl

theorem namedTables_insert (other : sameName name label = false) :
    namedTables (before ++ .table name added ts :: after) label =
      namedTables (before ++ after) label := by
  unfold namedTables
  rw [filter_insert]
  rw [Bool.and_eq_false_imp]
  exact fun _ => other

theorem definitions_insert {kind : String} (other : kind = "table" → sameName name label = false) :
    definitions (before ++ .table name added ts :: after) kind label =
      definitions (before ++ after) kind label := by
  unfold definitions
  rw [filter_insert]
  rw [Bool.and_eq_false_imp, beq_iff_eq, beq_eq_false_iff_ne]
  intro isTable same
  have different := other isTable.symm
  rw [← same] at different
  simp [SchemaObject.name] at different

theorem definitionsLike_insert {kind pattern : String} (other : kind ≠ "table") :
    definitionsLike (before ++ .table name added ts :: after) kind pattern =
      definitionsLike (before ++ after) kind pattern := by
  unfold definitionsLike
  rw [filter_insert]
  rw [Bool.and_eq_false_imp, beq_iff_eq]
  exact fun isTable => absurd isTable.symm other

end Catalog

namespace Query

variable {before after : Catalog} {name : String} {added : Extent} {ts : List Trait} {q : Query}

/-- A query that is not about a table of this name. Objects of another kind may be looked up by it,
and none but these by the start of their names. -/
def Avoids (name : String) : Query → Prop
  | .definitions kind label => kind = "table" → sameName name label = false
  | .definitionsFrom kind _ => kind ≠ "table"
  | q => sameName name q.subject = false

/-- Wherever a table is added, a query that is not about it has the answer that it had. -/
theorem answer_insert (unseen : (before ++ after).IsUnseen name)
    (unlisted : sameName name Catalog.columnLister = false) (avoids : q.Avoids name) :
    q.answer (before ++ .table name added ts :: after) = q.answer (before ++ after) := by
  have extent : ∀ label, sameName name label = false →
      Catalog.extent (before ++ .table name added ts :: after) label =
        Catalog.extent (before ++ after) label :=
    fun label other => Catalog.extent_insert unseen other
  have collation : ∀ label column, sameName name label = false →
      Catalog.collationOf (before ++ .table name added ts :: after) label column =
        Catalog.collationOf (before ++ after) label column :=
    fun label column other => Catalog.collationOf_insert unseen other column
  cases q with
  | tableCount label =>
    have other : sameName name label = false := avoids
    simp only [answer, Catalog.namedTables_insert other]
  | definitions kind label => simp only [answer, Catalog.definitions_insert avoids]
  | definitionsFrom kind start => simp only [answer, Catalog.definitionsLike_insert avoids]
  | columns table => exact Catalog.columnsOf_insert unseen unlisted avoids
  | declarationCount names =>
    simp only [answer, Catalog.select, extent extensionsTable avoids,
      collation extensionsTable _ avoids]
  | declarations => simp only [answer, Catalog.select, extent extensionsTable avoids]
  | relations => simp only [answer, extent relationsTable avoids]
  | contentsCount table =>
    simp only [answer, Catalog.select, extent contentsTable avoids,
      collation contentsTable _ avoids]
  | contentsTypes table =>
    simp only [answer, Catalog.select, extent contentsTable avoids,
      collation contentsTable _ avoids]
  | geometryColumns => simp only [answer, Catalog.select, extent geometryColumnsTable avoids]
  | distinctValues table column =>
    simp only [answer, Catalog.quotedColumn, extent table avoids, collation table _ avoids]
  | columnValues table column => simp only [answer, Catalog.quotedColumn, extent table avoids]

end Query

/-- Nothing in the bookkeeping of a package, no view and no spatial index goes by this name. -/
structure Catalog.IsUnrelated (c : Catalog) (name : String) : Prop where
  notBookkeeping : ∀ table ∈ [extensionsTable, contentsTable, geometryColumnsTable, relationsTable],
    sameName name table = false
  unseen : c.IsUnseen name
  undeclared : ∀ ds, c.Declares ds → ∀ e ∈ ds, ∀ table, e.table = .text table →
    sameName name table = false
  unrelated : ∀ rs, c.Relates rs → ∀ r ∈ rs, ∀ table,
    .text table ∈ [r.baseTable, r.relatedTable, r.mappingTable] → sameName name table = false
  unindexed : ∀ pairs, c.Registers pairs → ∀ table column, (.text table, .text column) ∈ pairs →
    sameName name (Template.indexName table column) = false

namespace Check

variable {name : String} {v : Value}
  (other : ∀ table, v = .text table → sameName name table = false)

include other

theorem inspects_avoids : Inspects (Query.Avoids name) v :=
  fun table named => ⟨other table named, other table named⟩

theorem reads_avoids : Reads (Query.Avoids name) v :=
  fun table named _ => ⟨other table named, other table named⟩

end Check

section Agendas

open Check

variable {c : Catalog} {looks : List QueryPattern} {faults : List Fault} {name : String}
  (h : c.IsUnrelated name)

include h

namespace RelatedTables

theorem asks_onRelations : onRelations.Asks (Query.Avoids name) ⟨.database c looks, faults⟩ := by
  have contents : sameName name contentsTable = false := h.notBookkeeping _ (by simp)
  have relations : sameName name relationsTable = false := h.notBookkeeping _ (by simp)
  refine Agenda.asks_done.gather (asksOnly_relations relations relations).asks fun d rs result => ?_
  obtain ⟨e, behind, rfl⟩ := relations_eq_ok.1 (resultIn_of_run (d := d) result)
  refine Agenda.asks_done.evaluateAll fun evaluation member => ?_
  apply AsksOnly.asks
  refine asksOnly_relationEvaluations (fun r hr v hv => ?_) contents (fun _ => contents)
    (fun _ => contents) evaluation member
  obtain ⟨row, hrow, rfl⟩ := List.mem_map.1 hr
  have other : ∀ table, v = .text table → sameName name table = false := by
    rintro table rfl
    exact h.unrelated _ ⟨e, behind, rfl⟩ _ (List.mem_map_of_mem hrow) table
      (Relation.text_mem_tables hv)
  exact ⟨inspects_avoids other, reads_avoids other⟩

theorem asks_agenda : agenda.Asks (Query.Avoids name) ⟨.database c looks, faults⟩ := by
  have extensions : sameName name extensionsTable = false := h.notBookkeeping _ (by simp)
  have relations : sameName name relationsTable = false := h.notBookkeeping _ (by simp)
  have applicable : isApplicable.AsksOnly (Query.Avoids name) :=
    asksOnly_extensionActive extensions fun _ => extensions
  refine Agenda.asks_done.gather applicable.asks fun d applies result => ?_
  cases applies with
  | false => exact Agenda.asks_skipAll _ _
  | true =>
    -- Where the suite applies the table exists, so what is read from it is what it declares.
    have named := ((extensionActive_eq_ok (by decide)).1
      (resultIn_of_run (d := d) result)).2.1 rfl |>.names
    have gathered : mappingRows.AsksOnly (Query.Avoids name) :=
      asksOnly_mappingRows extensions extensions
    have onTable : onRelationsTable.Asks (Query.Avoids name) ⟨.database c looks, faults⟩ := by
      refine (asks_onRelations h).evaluate (asksOnly_relationsDefinition ?_).asks
      exact inspects_avoids fun table named => Value.text.inj named ▸ relations
    refine Agenda.Asks.evaluate (Agenda.Asks.evaluate ?_ ?_)
      (asksOnly_relationsTableDeclared extensions extensions).asks
    · refine onTable.gather gathered.asks fun d ms result => onTable.evaluateAll fun e he => ?_
      obtain ⟨m, -, rfl⟩ := List.mem_map.1 he
      exact (asksOnly_ofViolation _).asks
    · refine gathered.asks.bind fun d ms result => (asksOnly_forEach fun m hm => ?_).asks
      obtain ⟨ds, declared, -, rfl⟩ := (mappingRows_eq_ok named).1 (resultIn_of_run (d := d) result)
      exact asksOnly_requireTable
        (inspects_avoids (h.undeclared ds declared m (List.mem_filter.1 hm).1))

end RelatedTables

namespace SpatialIndex

omit h in
theorem asks_onColumns {indexed : List (Value × Value)}
    (other : ∀ table column, (.text table, .text column) ∈ indexed →
      sameName name (Template.indexName table column) = false) :
    (onColumns indexed).Asks (Query.Avoids name) ⟨.database c looks, faults⟩ := by
  induction indexed with
  | nil => exact Agenda.asks_done
  | cons column rest ih =>
    have later := ih fun table label member => other table label (List.mem_cons_of_mem _ member)
    refine later.gather (asksOnly_installed ?_ ?_ ?_).asks fun d artifacts _ => ?_
    · intro table label named labelled _
      exact other table label (List.mem_cons.2 (.inl (Prod.ext named.symm labelled.symm)))
    · exact fun _ isTable => nomatch isTable
    · exact fun _ isTable => nomatch isTable
    · refine later.evaluateAll fun e he => ?_
      obtain ⟨i, -, rfl⟩ := List.mem_map.1 he
      exact (asksOnly_ofViolation _).asks

theorem asks_onImplementation (named : c.Names (.text extensionsTable)) :
    onImplementation.Asks (Query.Avoids name) ⟨.database c looks, faults⟩ := by
  have extensions : sameName name extensionsTable = false := h.notBookkeeping _ (by simp)
  have columns : sameName name geometryColumnsTable = false := h.notBookkeeping _ (by simp)
  refine Agenda.asks_done.gather (asksOnly_indexedGeometryColumns extensions extensions columns
    columns).asks fun d indexed result => ?_
  obtain ⟨ds, pairs, -, registered, rfl⟩ :=
    (indexedGeometryColumns_eq_ok named).1 (resultIn_of_run (d := d) result)
  exact asks_onColumns fun table column member =>
    h.unindexed pairs registered table column (List.mem_filter.1 member).1

theorem asks_agenda : agenda.Asks (Query.Avoids name) ⟨.database c looks, faults⟩ := by
  have extensions : sameName name extensionsTable = false := h.notBookkeeping _ (by simp)
  have columns : sameName name geometryColumnsTable = false := h.notBookkeeping _ (by simp)
  have applicable : isApplicable.AsksOnly (Query.Avoids name) :=
    asksOnly_extensionActive extensions fun _ => extensions
  refine Agenda.asks_done.gather applicable.asks fun d applies result => ?_
  cases applies with
  | false => exact Agenda.asks_skipAll _ _
  | true =>
    -- Where the suite applies the table exists, so what is read from it is what it declares.
    have named := ((extensionActive_eq_ok (by decide)).1
      (resultIn_of_run (d := d) result)).2.1 rfl |>.names
    have rest : onImplementation.Asks (Query.Avoids name) ⟨.database c looks, faults⟩ :=
      asks_onImplementation h named
    refine rest.gather (asksOnly_geometryColumns columns columns).asks fun d pairs _ => ?_
    refine rest.gather (asksOnly_spatialIndexDeclarations extensions extensions).asks
      fun d ds _ => rest.evaluateAll fun e he => ?_
    obtain ⟨_, -, rfl⟩ := List.mem_map.1 he
    exact (asksOnly_ofViolation _).asks

end SpatialIndex

theorem Suite.asks_agenda (suite : Suite) :
    suite.agenda.Asks (Query.Avoids name) ⟨.database c looks, faults⟩ := by
  cases suite with
  | relatedTables => exact RelatedTables.asks_agenda h
  | spatialIndex => exact SpatialIndex.asks_agenda h

end Agendas

namespace Validation

variable {before after : Catalog} {name : String} {looks looks' : List QueryPattern}
  {faults : List Fault} {d : Deadline}

theorem validate_insert (unrelated : (before ++ after).IsUnrelated name)
    (unlisted : sameName name Catalog.columnLister = false) (added : Extent) (ts : List Trait)
    (alike : ∀ q : Query, looks'.any (·.covers q) = looks.any (·.covers q)) (names : List String)
    (r : Report) :
    validate ⟨.database (before ++ .table name added ts :: after) looks', faults⟩ names d r =
      validate ⟨.database (before ++ after) looks, faults⟩ names d r := by
  have avoids : ∀ q ∈ queries ⟨.database (before ++ after) looks, faults⟩ names d,
      q.Avoids name := by
    unfold queries
    cases Suite.select names with
    | ok suites => exact asked_of_agendas (fun suite => suite.asks_agenda unrelated) d
    | error m => exact List.forall_mem_nil _
  refine validate_eq_of_queries (I := fun _ => True) (fun _ _ _ => trivial) trivial
    (fun q hq d _ => ?_) r
  exact Session.ask_eq_of_answer (Query.answer_insert unrelated.unseen unlisted (avoids q hq))
    fun _ => alike q

end Validation

section Samples

open RelatedTables

/-- The photographed places name seven tables, whatever is stored beside them. -/
theorem photographedPlaces_isUnrelated {more : Catalog} {name : String}
    (others : ∀ table ∈ [extensionsTable, contentsTable, geometryColumnsTable, relationsTable,
      "places", "photos", "places_photos"], sameName name table = false)
    (unseen : (photographedPlaces ++ more).IsUnseen name)
    (unindexed : ∀ pairs, (photographedPlaces ++ more).Registers pairs → ∀ table column,
      (.text table, .text column) ∈ pairs →
        sameName name (Template.indexName table column) = false) :
    (photographedPlaces ++ more).IsUnrelated name where
  notBookkeeping := fun table among => others table (by simp at among ⊢; tauto)
  unseen := unseen
  undeclared := by
    intro ds declared e he table named
    rw [declared.unique ⟨_, ⟨_, rfl, rfl⟩, rfl⟩] at he
    have tables : e.table ∈ [Value.text relationsTable, .text "places_photos"] :=
      List.mem_map_of_mem (f := Declaration.table) he
    rw [named] at tables
    simp only [List.mem_cons, Value.text.injEq, List.not_mem_nil, or_false] at tables
    rcases tables with rfl | rfl <;> exact others _ (by simp)
  unrelated := by
    intro rs related r hr table among
    rw [related.unique ⟨_, rfl, rfl⟩] at hr
    cases List.mem_singleton.1 hr
    have tables : Value.text table ∈ [.text "places", .text "photos", .text "places_photos"] :=
      among
    simp only [List.mem_cons, Value.text.injEq, List.not_mem_nil, or_false] at tables
    rcases tables with rfl | rfl | rfl <;> exact others _ (by simp)
  unindexed := unindexed

/-- A column for the geometry of the places and a view on the photographs. -/
def placesOnMap : Catalog :=
  [.table geometryColumnsTable ⟨["table_name", "column_name"].map (requiredColumn · "TEXT"),
    [[.text "places", .text "geom"]]⟩,
   .view "gallery" "photos"]

/-- A name may begin as that of an index does. -/
theorem placesOnMap_isUnrelated :
    (photographedPlaces ++ placesOnMap).IsUnrelated "rtree_places_geom_update1" := by
  refine photographedPlaces_isUnrelated (by decide) ?_ ?_
  · intro view source member
    have seen : source = "photos" := by
      simp [placesOnMap, photographedPlaces, packageOf] at member
      exact member.2
    subst seen
    decide
  · intro pairs registered table column member
    rw [registered.unique ⟨_, ⟨_, rfl, rfl⟩, rfl⟩] at member
    cases List.mem_singleton.1 member
    decide

/-- An unrelated table may be called as the function that lists columns, or in some other way. -/
theorem columnLister_isUnrelated {name : String} (h : name ∈ [Catalog.columnLister, "notes"]) :
    photographedPlaces.IsUnrelated name := by
  change (photographedPlaces ++ ([] : Catalog)).IsUnrelated name
  refine photographedPlaces_isUnrelated ?_ ?_ ?_
  · revert name
    decide
  · intro view source member
    simp [photographedPlaces, packageOf] at member
  · rintro pairs ⟨rows, ⟨e, selected, -⟩, -⟩
    cases selected

/-- The declarations of spatial indexes cannot be counted, and the deadline is cancelled. -/
def cancelledCount : Fault :=
  ⟨.only (.declarationCount [spatialIndexExtension]), none, ⟨.operational, "interrupted"⟩, true⟩

end Samples

end GeoConformance
