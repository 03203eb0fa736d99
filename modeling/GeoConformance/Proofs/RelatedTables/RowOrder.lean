import GeoConformance.Proofs.Ledger
import GeoConformance.Proofs.RelatedTables.Asking
import GeoConformance.Proofs.RelatedTables.Endings

/-!
# The order of rows and the suite for related tables

The order of rows decides nothing but the order of outcomes, with one exception: only the first
declaration of the relations table counts. A table that several relations name is looked at once,
which is the same table whatever the order of the relations, provided that it goes by a text. The
identifiers in a mapping table are looked at once each, and these are the same whatever their order,
provided that their collation keeps different ones apart.
-/

namespace GeoConformance

namespace Value

variable {v w : Value} {vs vs' : List Value}

/-- What may stand where a name is stored. -/
def IsName (v : Value) : Prop := v = .null ∨ ∃ s, v = .text s

theorem IsName.same_iff (h : v.IsName) : v.same w = true ↔ v = w := by
  rcases h with rfl | ⟨s, rfl⟩
  · cases w <;> simp [same]
  · rw [same_comm, same_text_iff, eq_comm]

theorem mem_distinct (names : ∀ v ∈ vs, v.IsName) : v ∈ distinct vs ↔ v ∈ vs := by
  refine ⟨mem_of_mem_distinct, fun h => ?_⟩
  obtain ⟨u, hu, rfl | same⟩ := exists_mem_distinct h
  · exact hu
  · rw [(names u (mem_of_mem_distinct hu)).same_iff] at same
    exact same ▸ hu

theorem nodup_distinct (names : ∀ v ∈ vs, v.IsName) : (distinct vs).Nodup := by
  induction vs with
  | nil => exact List.nodup_nil
  | cons v rest ih =>
    obtain ⟨first, others⟩ := List.forall_mem_cons.1 names
    refine List.nodup_cons.2 ⟨fun again => ?_, (ih others).filter _⟩
    have other := (List.mem_filter.1 again).2
    rw [first.same_iff.2 rfl] at other
    cases other

theorem distinct_perm (perm : vs.Perm vs') (names : ∀ v ∈ vs, v.IsName) :
    (distinct vs).Perm (distinct vs') := by
  have names' : ∀ v ∈ vs', v.IsName := fun v hv => names v (perm.mem_iff.2 hv)
  rw [List.perm_ext_iff_of_nodup (nodup_distinct names) (nodup_distinct names')]
  intro v
  rw [mem_distinct names, mem_distinct names', perm.mem_iff]

end Value

namespace RelatedTables

open Check

/-- The declarations of the relations table are all as required, or none of them is. -/
def RelationsDeclaredAlike (c : Catalog) : Prop :=
  ∀ ds, c.Declares ds → ∀ e ∈ ds, ∀ e' ∈ ds, e.table = .text relationsTable →
    e'.table = .text relationsTable → IsForRelatedTables e → HasAcceptedFlags e →
    IsForRelatedTables e' ∧ HasAcceptedFlags e'

/-- The tables that a relation names are texts where they are stored at all. -/
structure HasNames (r : Relation) : Prop where
  baseTable : r.baseTable.IsName
  relatedTable : r.relatedTable.IsName
  mappingTable : r.mappingTable.IsName

def RelatesNames (c : Catalog) : Prop := ∀ rs, c.Relates rs → ∀ r ∈ rs, HasNames r

variable {c c' : Catalog} {d : Deadline} {rs rs' : List Relation} {r : Relation} {v : Value}

theorem hasNames_of_relations (h : RelatesNames c) (found : Check.relations.resultIn c d = .ok rs) :
    ∀ r ∈ rs, HasNames r := by
  obtain ⟨e, behind, rfl⟩ := relations_eq_ok.1 found
  have stored : ∀ row ∈ e.rows, HasNames (e.relation row) := fun row hrow =>
    h _ ⟨e, behind, rfl⟩ _ (List.mem_map_of_mem hrow)
  have read : ∀ row name, (e.cell row name).IsName →
      (Relation.field e.columns row name .null).IsName := by
    intro row name isName
    rcases Relation.field_eq_or e row name .null with eq | eq
    · rw [eq]
      exact isName
    · rw [eq]
      exact .inl rfl
  intro r hr
  obtain ⟨row, hrow, rfl⟩ := List.mem_map.1 hr
  exact ⟨read row _ (stored row hrow).baseTable, read row _ (stored row hrow).relatedTable,
    read row _ (stored row hrow).mappingTable⟩

/-- Behind a relation that is read with a default in place of its mapping table there is nothing to
keep apart. -/
theorem apart_of_relations (h : KeepsIdsApart c)
    (found : Check.relations.resultIn c d = .ok rs) :
    ∀ r ∈ rs, ∀ id ∈ ["base_id", "related_id"], c.KeepsApart r.mappingTable (.text id) := by
  obtain ⟨e, behind, rfl⟩ := relations_eq_ok.1 found
  intro r hr id hid
  obtain ⟨row, hrow, rfl⟩ := List.mem_map.1 hr
  have stored : c.KeepsApart (e.relation row).mappingTable (.text id) :=
    h _ ⟨e, behind, rfl⟩ _ (List.mem_map_of_mem hrow) id hid
  rcases Relation.field_eq_or e row "mapping_table_name" .null with eq | eq
  · change c.KeepsApart (Relation.field e.columns row "mapping_table_name" .null) (.text id)
    rw [eq]
    exact stored
  · change c.KeepsApart (Relation.field e.columns row "mapping_table_name" .null) (.text id)
    rw [eq]
    intro name label values isName
    cases isName

/-- Each rule is evaluated on the same tables and the same relations. -/
theorem relationEvaluations_perm (perm : rs.Perm rs') (names : ∀ r ∈ rs, HasNames r) :
    (relationEvaluations rs).Perm (relationEvaluations rs') := by
  have tables : ∀ role : Relation → Value, (∀ r ∈ rs, (role r).IsName) →
      (Value.distinct (rs.map role)).Perm (Value.distinct (rs'.map role)) := by
    intro role isName
    exact Value.distinct_perm (perm.map _) (List.forall_mem_map.2 isName)
  have ofKind : ∀ p : Relation → Bool,
      (Value.distinct ((rs.filter p).map Relation.relatedTable)).Perm
        (Value.distinct ((rs'.filter p).map Relation.relatedTable)) := by
    intro p
    refine Value.distinct_perm ((perm.filter p).map _) (List.forall_mem_map.2 fun r hr => ?_)
    exact (names r (List.mem_filter.1 hr).1).relatedTable
  have bases := tables Relation.baseTable fun r hr => (names r hr).baseTable
  have related := tables Relation.relatedTable fun r hr => (names r hr).relatedTable
  have mappings := tables Relation.mappingTable fun r hr => (names r hr).mappingTable
  unfold relationEvaluations
  exact ((((((((((bases.map _).append (bases.map _)).append (related.map _)).append
    (related.map _)).append (mappings.map _)).append (perm.map _)).append
    (mappings.map _)).append (perm.map _)).append (perm.map _)).append
    ((ofKind _).map _)).append ((ofKind _).map _)

section Reordered

variable (h : c.Reorders c') (once : c.ListsOnce)

include h once

theorem standing_relationEvaluations
    (apart : ∀ r ∈ rs, ∀ id ∈ ["base_id", "related_id"], c.KeepsApart r.mappingTable (.text id)) :
    ∀ e ∈ relationEvaluations rs, e.check.standing c d = e.check.standing c' d := by
  have inspects := inspects_isOrderBlind
  have joined : ∀ r ∈ rs, ∀ id ∈ ["base_id", "related_id"], ∀ table column : Value,
      Alike c c' d Eq (joins r.mappingTable (.text id) table column)
        (joins r.mappingTable (.text id) table column) :=
    fun r hr id hid _ _ => (alike_requireReferences h once (apart r hr id hid)).bind
      fun _ _ _ _ => (asksOnly_requirePrimaryKey (inspects _)).alike h once
  have blind : ∀ {k : Check Unit}, k.AsksOnly Query.IsOrderBlind →
      k.standing c d = k.standing c' d := fun asks => (asks.alike h once).standing
  rw [forall_relationEvaluations (P := fun k => k.standing c d = k.standing c' d)]
  have requireTable := fun v => blind (asksOnly_requireTable (inspects v))
  have inContents : ∀ v role : Value, (requireInContents v role).standing c d =
      (requireInContents v role).standing c' d :=
    fun _ _ => blind (asksOnly_requireInContents trivial trivial)
  exact ⟨fun v _ => ⟨requireTable v, inContents v _⟩, fun v _ => ⟨requireTable v, inContents v _⟩,
    fun v _ => ⟨requireTable v, blind (asksOnly_mappingTable (inspects v))⟩,
    fun r hr => ⟨blind (asksOnly_ofViolation _), (joined r hr "base_id" (by simp) _ _).standing,
      (joined r hr "related_id" (by simp) _ _).standing⟩,
    fun v _ => blind (asksOnly_mediaTable (inspects v) trivial fun name named => ⟨name, named⟩),
    fun v _ => blind (asksOnly_simpleAttributesTable (inspects v) trivial
      fun name named => ⟨name, named⟩)⟩

/-- Whichever declaration of the relations table comes first, it is as good as the others. -/
theorem alike_relationsTableDeclared (named : c.Names (.text extensionsTable))
    (alike : RelationsDeclaredAlike c) :
    Alike c c' d Eq relationsTableDeclared relationsTableDeclared := by
  refine (alike_declarations h once).bind fun ds ds' found perm => ?_
  have declared := (declarations_eq_ok named).1 found
  have rows := perm.filter fun e => e.table.same (.text relationsTable)
  have asGood : ∀ e ∈ ds.filter fun e => e.table.same (.text relationsTable),
      ∀ e' ∈ ds.filter fun e => e.table.same (.text relationsTable),
        flaws e true = [] → flaws e' true = [] := by
    intro e he e' he' good
    rw [List.mem_filter, Value.same_text_iff] at he he'
    rw [flaws_eq_nil] at good ⊢
    obtain ⟨isFor, flags⟩ := alike ds declared e he.1 e' he'.1 he.2 he'.2 (good.2 rfl) good.1
    exact ⟨flags, fun _ => isFor⟩
  cases first : ds.filter fun e => e.table.same (.text relationsTable) with
  | nil =>
    rw [first] at rows
    rw [← rows.nil_eq]
    exact .error rfl
  | cons e rest =>
    cases first' : ds'.filter fun e => e.table.same (.text relationsTable) with
    | nil =>
      rw [first, first'] at rows
      cases rows.eq_nil
    | cons e' rest' =>
      have member := first ▸ List.mem_cons_self
      have member' := rows.mem_iff.2 (first' ▸ List.mem_cons_self)
      refine alike_require ?_ _ _
      rw [Bool.eq_iff_iff, List.isEmpty_iff, List.isEmpty_iff]
      exact ⟨asGood e member e' member', asGood e' member' e member⟩

theorem alike_mappingRows : Alike c c' d List.Perm mappingRows mappingRows := by
  refine Alike.bind (R := List.Perm) ?_ fun rows rows' _ perm => ?_
  · exact (alike_declarations h once).bind fun ds ds' _ perm => alike_pure (perm.filter _)
  · have same : rows.isEmpty = rows'.isEmpty := by
      rw [Bool.eq_iff_iff, List.isEmpty_iff_length_eq_zero, List.isEmpty_iff_length_eq_zero,
        perm.length_eq]
    exact (alike_require (congrArg not same) _ _).bind fun _ _ _ _ => alike_pure perm

theorem alike_mappingTablesDeclared :
    Alike c c' d Eq mappingTablesDeclared mappingTablesDeclared :=
  (alike_mappingRows h once).bind fun _ _ _ perm => alike_forEach perm
    (fun _ _ => requireTable_failsAs) fun v =>
      (asksOnly_requireTable (inspects_isOrderBlind v.table)).resultIn_eq h once

theorem onRelations_perm (names : RelatesNames c) (apart : KeepsIdsApart c) :
    (onRelations.ledger c d).Perm (onRelations.ledger c' d) := by
  refine Agenda.perm_gather (alike_relations h once) (fun rs rs' found perm => ?_)
    (List.Perm.refl _)
  exact Agenda.perm_evaluateAll
    (relationEvaluations_perm perm (hasNames_of_relations names found))
    (standing_relationEvaluations h once (apart_of_relations apart found)) (List.Perm.refl _)

theorem onRelationsTable_perm (names : RelatesNames c) (apart : KeepsIdsApart c) :
    (onRelationsTable.ledger c d).Perm (onRelationsTable.ledger c' d) :=
  Agenda.perm_evaluate
    ((asksOnly_relationsDefinition (inspects_isOrderBlind _)).alike h once).standing
    (onRelations_perm h once names apart)

theorem onDeclarations_perm (named : c.Names (.text extensionsTable))
    (alike : RelationsDeclaredAlike c) (names : RelatesNames c) (apart : KeepsIdsApart c) :
    (onDeclarations.ledger c d).Perm (onDeclarations.ledger c' d) := by
  have rest := onRelationsTable_perm (d := d) h once names apart
  refine Agenda.perm_evaluate (alike_relationsTableDeclared h once named alike).standing
    (Agenda.perm_evaluate (alike_mappingTablesDeclared h once).standing
      (Agenda.perm_gather (alike_mappingRows h once) (fun ms ms' _ perm => ?_) rest))
  refine Agenda.perm_evaluateAll (perm.map _) (List.forall_mem_map.2 fun e _ => ?_) rest
  exact ((asksOnly_ofViolation _).alike h once).standing

theorem agenda_perm (alike : RelationsDeclaredAlike c) (names : RelatesNames c)
    (apart : KeepsIdsApart c) : (agenda.ledger c d).Perm (agenda.ledger c' d) := by
  have blind : isApplicable.AsksOnly Query.IsOrderBlind :=
    asksOnly_extensionActive trivial fun _ => trivial
  refine Agenda.perm_gather_blind h once blind (fun applicable found => ?_) (List.Perm.refl _)
  cases applicable with
  | false => exact List.Perm.refl _
  | true =>
    have named := (((extensionActive_eq_ok (by decide)).1 found).2.1 rfl).names
    exact onDeclarations_perm h once named alike names apart

end Reordered

end RelatedTables
end GeoConformance
