import GeoConformance.Proofs.Asking
import GeoConformance.Proofs.RelatedTables.Endings

/-!
# What the checks on related tables ask

Apart from the two tables that declare and relate, a check looks only at the tables it is on and at
their place in the contents table.
-/

namespace GeoConformance
namespace RelatedTables

open Check

variable {P : Query → Prop} {v w id column : Value}

theorem asksOnly_mappingRows (looked : P (.tableCount extensionsTable)) (read : P .declarations) :
    mappingRows.AsksOnly P :=
  ((asksOnly_declarations looked read).bind fun _ => asksOnly_pure _).bind fun _ =>
    (asksOnly_require _ _).bind fun _ => asksOnly_pure _

theorem asksOnly_relationsTableDeclared (looked : P (.tableCount extensionsTable))
    (read : P .declarations) : relationsTableDeclared.AsksOnly P := by
  refine (asksOnly_declarations looked read).bind fun ds => ?_
  cases ds.filter fun d => d.table.same (.text relationsTable) with
  | nil => exact asksOnly_violate _
  | cons d rest => exact asksOnly_require _ _

theorem asksOnly_relationsDefinition (h : Inspects P (.text relationsTable)) :
    relationsDefinition.AsksOnly P :=
  (asksOnly_requireTable h).bind fun _ => (asksOnly_requirePrimaryKey h).bind fun _ =>
    asksOnly_requireColumns h _

theorem asksOnly_mappingTable (h : Inspects P v) : (mappingTable v).AsksOnly P :=
  (asksOnly_requireTable h).bind fun _ => asksOnly_requireColumns h _

theorem asksOnly_joins (hMapping : Inspects P v) (readMapping : Reads P v) (hTable : Inspects P w)
    (readTable : Reads P w) : (joins v id w column).AsksOnly P :=
  (asksOnly_requireReferences hMapping readMapping hTable readTable).bind fun _ =>
    asksOnly_requirePrimaryKey hTable

section Attributes

variable (h : Inspects P v) (looked : P (.tableCount contentsTable))
  (read : ∀ name, v = .text name → P (.contentsTypes v))

include h looked read

/-- The data type of a table is asked for only where the table exists and so goes by a text. -/
theorem asksOnly_attributesTable : (attributesTable v).AsksOnly P := by
  cases v with
  | text s =>
    exact (asksOnly_requireTable h).bind fun _ => (asksOnly_primaryKey h).bind fun _ =>
      (asksOnly_require _ _).bind fun _ => (asksOnly_contentsType looked (read s rfl)).bind fun _ =>
      asksOnly_require _ _
  | null => trivial
  | number n => trivial
  | blob bytes => trivial

theorem asksOnly_mediaTable : (mediaTable v).AsksOnly P :=
  (asksOnly_attributesTable h looked read).bind fun _ => asksOnly_requireColumns h _

theorem asksOnly_simpleAttributesTable : (simpleAttributesTable v).AsksOnly P :=
  (asksOnly_attributesTable h looked read).bind fun _ => (asksOnly_columns h).bind fun _ =>
    asksOnly_forEach fun _ _ => asksOnly_require _ _

end Attributes

theorem asksOnly_relationEvaluations {rs : List Relation}
    (tables : ∀ r ∈ rs, ∀ v ∈ [r.baseTable, r.relatedTable, r.mappingTable],
      Inspects P v ∧ Reads P v)
    (looked : P (.tableCount contentsTable)) (counted : ∀ v, P (.contentsCount v))
    (typed : ∀ v, P (.contentsTypes v)) :
    ∀ e ∈ relationEvaluations rs, e.check.AsksOnly P := by
  have inspects : ∀ v, (∃ r ∈ rs, v ∈ [r.baseTable, r.relatedTable, r.mappingTable]) →
      Inspects P v := by
    intro v h
    obtain ⟨r, hr, hv⟩ := h
    exact (tables r hr v hv).1
  have bases : ∀ r : Relation, r.baseTable ∈ [r.baseTable, r.relatedTable, r.mappingTable] :=
    fun _ => by simp
  have related : ∀ r : Relation, r.relatedTable ∈ [r.baseTable, r.relatedTable, r.mappingTable] :=
    fun _ => by simp
  have mappings : ∀ r : Relation, r.mappingTable ∈ [r.baseTable, r.relatedTable, r.mappingTable] :=
    fun _ => by simp
  rw [forall_relationEvaluations (P := fun k => k.AsksOnly P)]
  refine ⟨fun v hv => ?_, fun v hv => ?_, fun v hv => ?_, fun r hr => ?_, fun v hv => ?_,
    fun v hv => ?_⟩
  · have onBase := inspects v (exists_of_mem_role bases (fun _ hr => hr) hv)
    exact ⟨asksOnly_requireTable onBase, asksOnly_requireInContents looked (counted v)⟩
  · have onRelated := inspects v (exists_of_mem_role related (fun _ hr => hr) hv)
    exact ⟨asksOnly_requireTable onRelated, asksOnly_requireInContents looked (counted v)⟩
  · have onMapping := inspects v (exists_of_mem_role mappings (fun _ hr => hr) hv)
    exact ⟨asksOnly_requireTable onMapping, asksOnly_mappingTable onMapping⟩
  · obtain ⟨inspectsMapping, readsMapping⟩ := tables r hr _ (mappings r)
    obtain ⟨inspectsBase, readsBase⟩ := tables r hr _ (bases r)
    obtain ⟨inspectsRelated, readsRelated⟩ := tables r hr _ (related r)
    exact ⟨asksOnly_ofViolation _,
      asksOnly_joins inspectsMapping readsMapping inspectsBase readsBase,
      asksOnly_joins inspectsMapping readsMapping inspectsRelated readsRelated⟩
  · have onMedia :=
      inspects v (exists_of_mem_role related (fun _ hr => (List.mem_filter.1 hr).1) hv)
    exact asksOnly_mediaTable onMedia looked fun _ _ => typed v
  · have onAttributes :=
      inspects v (exists_of_mem_role related (fun _ hr => (List.mem_filter.1 hr).1) hv)
    exact asksOnly_simpleAttributesTable onAttributes looked fun _ _ => typed v

end RelatedTables
end GeoConformance
