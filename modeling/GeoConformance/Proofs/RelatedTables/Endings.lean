import GeoConformance.Proofs.Faulted
import GeoConformance.Proofs.RelatedTables.Verdicts

/-!
# What can end the suite for related tables

Every check of the suite comes to a verdict, with one exception: a key column that a relation names
is looked up as soon as its table is known to have it, and a column can have a name under which
nothing is looked up.
-/

namespace GeoConformance
namespace RelatedTables

open Check

/-- A relation names a key column that its table has and that no query can name. -/
inductive IsHinderedBy (c : Catalog) (m : Misuse) : Prop
  | baseKey {rs : List Relation} {r : Relation} :
    c.Relates rs → r ∈ rs → c.HasColumn r.baseTable r.baseColumn →
    Identifier.ofValue r.baseColumn = .error m → IsHinderedBy c m
  | relatedKey {rs : List Relation} {r : Relation} :
    c.Relates rs → r ∈ rs → c.HasColumn r.relatedTable r.relatedColumn →
    Identifier.ofValue r.relatedColumn = .error m → IsHinderedBy c m

variable {c : Catalog} {d : Deadline} {rs : List Relation} {r : Relation}

theorem exists_of_mem_tables {name : Relation → Value} {v : Value}
    (h : v ∈ Value.distinct (rs.map name)) : ∃ r ∈ rs, name r = v :=
  List.mem_map.1 (Value.mem_of_mem_distinct h)

/-- A table in some role of some of the relations is one of the three that a relation names. -/
theorem exists_of_mem_role {role : Relation → Value} {rs' : List Relation} {v : Value}
    (among : ∀ r : Relation, role r ∈ [r.baseTable, r.relatedTable, r.mappingTable])
    (part : ∀ r ∈ rs', r ∈ rs) (h : v ∈ Value.distinct (rs'.map role)) :
    ∃ r ∈ rs, v ∈ [r.baseTable, r.relatedTable, r.mappingTable] := by
  obtain ⟨r, hr, rfl⟩ := exists_of_mem_tables h
  exact ⟨r, part r hr, among r⟩

/-- What holds of every check that follows from the relations holds of each of these. -/
theorem forall_relationEvaluations {P : Check Unit → Prop} :
    (∀ e ∈ relationEvaluations rs, P e.check) ↔
      (∀ v ∈ Value.distinct (rs.map Relation.baseTable),
        P (requireTable v) ∧ P (requireInContents v (.text "base"))) ∧
      (∀ v ∈ Value.distinct (rs.map Relation.relatedTable),
        P (requireTable v) ∧ P (requireInContents v (.text "related"))) ∧
      (∀ v ∈ Value.distinct (rs.map Relation.mappingTable),
        P (requireTable v) ∧ P (mappingTable v)) ∧
      (∀ r ∈ rs, P (relationName r) ∧ P (mappingBase r) ∧ P (mappingRelated r)) ∧
      (∀ v ∈ Value.distinct ((rs.filter fun r => r.name.same (.text "media")).map
        Relation.relatedTable), P (mediaTable v)) ∧
      ∀ v ∈ Value.distinct ((rs.filter fun r => r.name.same (.text "simple_attributes")).map
        Relation.relatedTable), P (simpleAttributesTable v) := by
  simp only [relationEvaluations, List.forall_mem_append, List.forall_mem_map]
  constructor
  · intro h
    obtain ⟨⟨⟨⟨⟨⟨⟨⟨⟨⟨h1, h2⟩, h3⟩, h4⟩, h5⟩, h6⟩, h7⟩, h8⟩, h9⟩, h10⟩, h11⟩ := h
    exact ⟨fun v hv => ⟨h1 v hv, h2 v hv⟩, fun v hv => ⟨h3 v hv, h4 v hv⟩,
      fun v hv => ⟨h5 v hv, h7 v hv⟩, fun r hr => ⟨h6 r hr, h8 r hr, h9 r hr⟩, h10, h11⟩
  · intro h
    obtain ⟨bases, related, mappings, relations, media, simple⟩ := h
    exact ⟨⟨⟨⟨⟨⟨⟨⟨⟨⟨fun v hv => (bases v hv).1, fun v hv => (bases v hv).2⟩,
      fun v hv => (related v hv).1⟩, fun v hv => (related v hv).2⟩,
      fun v hv => (mappings v hv).1⟩, fun r hr => (relations r hr).1⟩,
      fun v hv => (mappings v hv).2⟩, fun r hr => (relations r hr).2.1⟩,
      fun r hr => (relations r hr).2.2⟩, media⟩, simple⟩

/-- Only the names of the key columns are not looked at before they are used. -/
theorem relationEvaluations_failsAs {P : Failure → Prop} (adverse : ∀ f, f.IsAdverse → P f)
    (named : ∀ r ∈ rs,
      (c.HasColumn r.baseTable r.baseColumn → FailsAs P ((nameOf r.baseColumn).resultIn c d)) ∧
      (c.HasColumn r.relatedTable r.relatedColumn →
        FailsAs P ((nameOf r.relatedColumn).resultIn c d))) :
    ∀ e ∈ relationEvaluations rs, FailsAs P (e.check.resultIn c d) := by
  rw [forall_relationEvaluations (P := fun k => FailsAs P (k.resultIn c d))]
  refine ⟨fun v _ => ⟨isDecisive_requireTable.mono adverse,
      isDecisive_requireInContents.mono adverse⟩,
    fun v _ => ⟨isDecisive_requireTable.mono adverse, isDecisive_requireInContents.mono adverse⟩,
    fun v _ => ⟨isDecisive_requireTable.mono adverse, isDecisive_mappingTable.mono adverse⟩,
    fun r hr => ⟨(isDecisive_ofViolation _).mono adverse, ?_, ?_⟩,
    fun v _ => isDecisive_mediaTable.mono adverse,
    fun v _ => isDecisive_simpleAttributesTable.mono adverse⟩
  · exact joins_failsAs adverse (Value.isUsable_text.2 (by decide)) (named r hr).1
  · exact joins_failsAs adverse (Value.isUsable_text.2 (by decide)) (named r hr).2

/-- What holds of every key column that a relation states and of the default holds of those that are
read. -/
theorem keys_ofRow {P : Value → Prop} (default : P (.text "id"))
    (stated : ∀ rs, c.Relates rs → ∀ r ∈ rs,
      (c.HasColumn r.baseTable r.baseColumn → P r.baseColumn) ∧
      (c.HasColumn r.relatedTable r.relatedColumn → P r.relatedColumn)) {e : Extent}
    (behind : c.extent relationsTable = .ok e) :
    ∀ r ∈ e.rows.map (Relation.ofRow e.columns),
      (c.HasColumn r.baseTable r.baseColumn → P r.baseColumn) ∧
      (c.HasColumn r.relatedTable r.relatedColumn → P r.relatedColumn) := by
  have read : ∀ row : Row, ∀ tableName columnName : String,
      (c.HasColumn (e.cell row tableName) (e.cell row columnName) →
        P (e.cell row columnName)) →
      c.HasColumn (Relation.field e.columns row tableName .null)
        (Relation.field e.columns row columnName (.text "id")) →
      P (Relation.field e.columns row columnName (.text "id")) := by
    intro row tableName columnName stated has
    rcases Relation.field_eq_or e row columnName (.text "id") with column | column
    · rw [column] at has ⊢
      rcases Relation.field_eq_or e row tableName .null with table | table
      · rw [table] at has
        exact stated has
      · rw [table] at has
        obtain ⟨columns, ⟨name, eq, -⟩, -⟩ := has
        cases eq
    · rw [column]
      exact default
  intro r hr
  obtain ⟨row, hrow, rfl⟩ := List.mem_map.1 hr
  have stated := stated _ ⟨e, behind, rfl⟩ _ (List.mem_map_of_mem hrow)
  exact ⟨read row _ _ stated.1, read row _ _ stated.2⟩

theorem endsOnlyBy_relationEvaluations {e : Extent} (behind : c.extent relationsTable = .ok e) :
    ∀ k ∈ relationEvaluations (e.rows.map (Relation.ofRow e.columns)),
      k.check.EndsOnlyBy (IsHinderedBy c) c d := by
  apply relationEvaluations_failsAs (P := fun f => f.HasVerdict ∨ f.IsMisuse (IsHinderedBy c))
    fun _ adverse => .inl adverse.hasVerdict
  refine keys_ofRow (P := fun v => (nameOf v).EndsOnlyBy (IsHinderedBy c) c d) ?_
    (fun rs related r hr => ?_) behind
  · have usable : (Value.text "id").IsUsable := Value.isUsable_text.2 (by decide)
    exact (isDecisive_nameOf usable).endsOnlyBy
  · exact ⟨fun has => endsOnlyBy_ofExcept fun m refused => .baseKey related hr has refused,
      fun has => endsOnlyBy_ofExcept fun m refused => .relatedKey related hr has refused⟩

theorem endsOnlyBy_onRelationsTable : onRelationsTable.EndsOnlyBy (IsHinderedBy c) c d := by
  refine ⟨isDecisive_relationsDefinition.endsOnlyBy, isDecisive_relations.endsOnlyBy,
    fun rs found => ?_, trivial⟩
  obtain ⟨e, behind, rfl⟩ := relations_eq_ok.1 found
  exact Agenda.endsOnlyBy_evaluateAll (endsOnlyBy_relationEvaluations behind) trivial

theorem endsOnlyBy_onDeclarations : onDeclarations.EndsOnlyBy (IsHinderedBy c) c d := by
  refine ⟨isDecisive_relationsTableDeclared.endsOnlyBy, isDecisive_mappingTablesDeclared.endsOnlyBy,
    isDecisive_mappingRows.endsOnlyBy, fun ms _ => ?_, endsOnlyBy_onRelationsTable⟩
  refine Agenda.endsOnlyBy_evaluateAll (fun e he => ?_) endsOnlyBy_onRelationsTable
  obtain ⟨m, -, rfl⟩ := List.mem_map.1 he
  exact isDecisive_mappingRow.endsOnlyBy

theorem endsOnlyBy_agenda : agenda.EndsOnlyBy (IsHinderedBy c) c d := by
  refine ⟨isDecisive_extensionActive.endsOnlyBy, fun applicable _ => ?_, trivial⟩
  cases applicable
  · exact Agenda.endsOnlyBy_skipAll _ _
  · exact endsOnlyBy_onDeclarations

end RelatedTables
end GeoConformance
