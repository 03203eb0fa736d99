import GeoConformance.Proofs.Faulted
import GeoConformance.Proofs.SpatialIndex.Conformance

/-!
# What can end the suite for spatial indexes

The names of the artifacts are made of stored texts, and nothing is looked up under a name with a
NUL in it. The update triggers of an index are put in order by their names and then by their texts,
which fails where one of two of the same name has no text. Apart from that every check of the suite
comes to a verdict.
-/

namespace GeoConformance
namespace SpatialIndex

open Check

/-- The artifacts of a column are looked at: it is registered, and its table declared. -/
def IsLookedAt (c : Catalog) (p : Value × Value) : Prop :=
  ∃ ds pairs, c.Declares ds ∧ c.Registers pairs ∧ p ∈ pairs ∧ IsIndexed ds p

/-- The artifacts of some column that is looked at cannot be looked up or put in order. -/
inductive IsHinderedBy (c : Catalog) : Misuse → Prop
  | nul {table column : String} : IsLookedAt c (.text table, .text column) →
    '\x00' ∈ table.toList ∨ '\x00' ∈ column.toList →
    IsHinderedBy c (.identifierHoldsNul (Template.indexName table column))
  | clash {table column : String} {a b : NamedText} {m : Misuse} :
    IsLookedAt c (.text table, .text column) →
    a ∈ c.textsFrom "trigger" (Template.indexName table column ++ "_update") →
    b ∈ c.textsFrom "trigger" (Template.indexName table column ++ "_update") →
    clashes a b = true →
    inOrder (c.textsFrom "trigger" (Template.indexName table column ++ "_update")) = .error m →
    IsHinderedBy c m

variable {c : Catalog} {d : Deadline}

/-- The name of an index is never empty, so that only a NUL keeps it from being looked up. -/
theorem ofValue_indexName_eq_error {table column : String} {m : Misuse}
    (h : Identifier.ofValue (.text (Template.indexName table column)) = .error m) :
    ('\x00' ∈ table.toList ∨ '\x00' ∈ column.toList) ∧
      m = .identifierHoldsNul (Template.indexName table column) := by
  have refused := Identifier.ofValue_eq_error h
  rw [isUsable_indexName, ← Decidable.or_iff_not_not_and_not] at refused
  refine ⟨refused, ?_⟩
  unfold Identifier.ofValue at h
  simp only at h
  split at h
  · rename_i empty
    exact absurd (String.isEmpty_iff.1 empty) indexName_ne_empty
  · split at h <;> cases h
    rfl

theorem clashes_of_inOrder_eq_error {found : List NamedText} {m : Misuse}
    (h : inOrder found = .error m) : ∃ a ∈ found, ∃ b ∈ found, clashes a b = true := by
  unfold inOrder at h
  split at h
  · rename_i clash
    simpa only [List.any_eq_true] using clash
  · cases h

theorem endsOnlyBy_installed {p : Value × Value} (lookedAt : IsLookedAt c p) :
    (installed p.1 p.2).EndsOnlyBy (IsHinderedBy c) c d := by
  refine installed_failsAs (P := fun f => f.HasVerdict ∨ f.IsMisuse (IsHinderedBy c))
    (fun _ adverse => .inl adverse.hasVerdict) fun table column first second => ?_
  have lookedAt : IsLookedAt c (.text table, .text column) := by
    rw [← first, ← second]
    exact lookedAt
  constructor
  · refine endsOnlyBy_ofExcept fun m refused => ?_
    obtain ⟨nul, rfl⟩ := ofValue_indexName_eq_error refused
    exact .nul lookedAt nul
  · refine endsOnlyBy_ofExcept fun m unordered => ?_
    obtain ⟨a, ha, b, hb, clash⟩ := clashes_of_inOrder_eq_error unordered
    exact .clash lookedAt ha hb clash unordered

theorem endsOnlyBy_onColumns {ps : List (Value × Value)} (lookedAt : ∀ p ∈ ps, IsLookedAt c p) :
    (onColumns ps).EndsOnlyBy (IsHinderedBy c) c d := by
  induction ps with
  | nil => trivial
  | cons p ps ih =>
    obtain ⟨first, others⟩ := List.forall_mem_cons.1 lookedAt
    refine ⟨endsOnlyBy_installed first, fun found _ => ?_, ih others⟩
    refine Agenda.endsOnlyBy_evaluateAll (fun e he => ?_) (ih others)
    obtain ⟨i, -, rfl⟩ := List.mem_map.1 he
    exact (isDecisive_ofViolation _).endsOnlyBy

theorem endsOnlyBy_onImplementation (named : c.Names (.text extensionsTable)) :
    onImplementation.EndsOnlyBy (IsHinderedBy c) c d := by
  refine ⟨isDecisive_indexedGeometryColumns.endsOnlyBy, fun ps found => ?_, trivial⟩
  obtain ⟨ds, pairs, declared, registered, rfl⟩ := (indexedGeometryColumns_eq_ok named).1 found
  refine endsOnlyBy_onColumns fun p hp => ?_
  obtain ⟨member, indexed⟩ := mem_indexedColumns.1 hp
  exact ⟨ds, pairs, declared, registered, member, indexed⟩

theorem endsOnlyBy_onDeclarations (named : c.Names (.text extensionsTable))
    (registered : List (Value × Value)) :
    (onDeclarations registered).EndsOnlyBy (IsHinderedBy c) c d := by
  refine ⟨isDecisive_spatialIndexDeclarations.endsOnlyBy, fun rows _ => ?_,
    endsOnlyBy_onImplementation named⟩
  refine Agenda.endsOnlyBy_evaluateAll (fun e he => ?_) (endsOnlyBy_onImplementation named)
  obtain ⟨row, -, rfl⟩ := List.mem_map.1 he
  exact (isDecisive_ofViolation _).endsOnlyBy

theorem endsOnlyBy_agenda : agenda.EndsOnlyBy (IsHinderedBy c) c d := by
  refine ⟨isDecisive_extensionActive.endsOnlyBy, fun applicable found => ?_, trivial⟩
  cases applicable with
  | false => exact Agenda.endsOnlyBy_skipAll _ _
  | true =>
    have named := (((extensionActive_eq_ok (by decide)).1 found).2.1 rfl).names
    exact ⟨isDecisive_geometryColumns.endsOnlyBy,
      fun registered _ => endsOnlyBy_onDeclarations named registered,
      endsOnlyBy_onImplementation named⟩

end SpatialIndex
end GeoConformance
