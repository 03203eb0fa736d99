import Mathlib.Data.List.Perm.Basic
import GeoConformance.Proofs.Ledger
import GeoConformance.Proofs.SpatialIndex.Installation

/-!
# The order of rows and the suite for spatial indexes

Declarations and registered columns are looked at one by one, and each is held against all of the
others, so their order shows in nothing but the order of outcomes.
-/

namespace GeoConformance
namespace SpatialIndex

open Check

variable {c c' : Catalog} {d : Deadline} {ps ps' : List (Value × Value)}

theorem declaration_perm (perm : ps.Perm ps') : declaration ps = declaration ps' := by
  funext e
  simp only [declaration, declarationViolation?, perm.any_eq]

/-- Every column has its own entries. -/
theorem ledger_onColumns :
    (onColumns ps).ledger c d = ps.flatMap fun p => (onColumns [p]).ledger c d := by
  induction ps with
  | nil => rfl
  | cons p rest ih =>
    rw [List.flatMap_cons, ← ih, onColumns, onColumns, Agenda.ledger, Agenda.ledger]
    cases (installed p.1 p.2).resultIn c d with
    | ok found =>
      simp only [Agenda.ledger_evaluateAll, onColumns, Agenda.ledger, List.append_nil]
    | error f => simp only [onColumns, Agenda.ledger, List.append_nil]

section Reordered

variable (h : c.Reorders c') (once : c.ListsOnce)

include h once

theorem alike_spatialIndexDeclarations :
    Alike c c' d List.Perm spatialIndexDeclarations spatialIndexDeclarations :=
  (alike_declarations h once).bind fun _ _ _ perm => alike_pure (perm.filter _)

theorem alike_indexedGeometryColumns :
    Alike c c' d List.Perm indexedGeometryColumns indexedGeometryColumns := by
  refine (alike_spatialIndexDeclarations h once).bind fun ds ds' _ declared => ?_
  refine (alike_geometryColumns h once).bind fun pairs pairs' _ perm => alike_pure ?_
  have same : ∀ v : Value, v.isIn (ds.map (·.table)) = v.isIn (ds'.map (·.table)) :=
    fun v => (declared.map _).any_eq
  simp only [same]
  exact perm.filter _

theorem onColumns_perm (perm : ps.Perm ps') :
    ((onColumns ps).ledger c d).Perm ((onColumns ps').ledger c' d) := by
  have each : ∀ p, ((onColumns [p]).ledger c d).Perm ((onColumns [p]).ledger c' d) := by
    intro p
    have blind : (installed p.1 p.2).AsksOnly Query.IsOrderBlind :=
      asksOnly_installed (fun _ _ _ _ => trivial) (fun _ => trivial) fun _ => trivial
    refine Agenda.perm_gather_blind h once blind (fun found _ => ?_) (List.Perm.refl _)
    refine Agenda.perm_evaluateAll (List.Perm.refl _) (List.forall_mem_map.2 fun i _ => ?_)
      (List.Perm.refl _)
    exact ((asksOnly_ofViolation _).alike h once).standing
  rw [ledger_onColumns, ledger_onColumns]
  exact perm.flatMap fun p _ => each p

theorem onImplementation_perm :
    (onImplementation.ledger c d).Perm (onImplementation.ledger c' d) :=
  Agenda.perm_gather (alike_indexedGeometryColumns h once)
    (fun _ _ _ perm => onColumns_perm h once perm) (List.Perm.refl _)

theorem onDeclarations_perm {registered registered' : List (Value × Value)}
    (perm : registered.Perm registered') :
    ((onDeclarations registered).ledger c d).Perm ((onDeclarations registered').ledger c' d) := by
  have rest := onImplementation_perm (d := d) h once
  refine Agenda.perm_gather (alike_spatialIndexDeclarations h once)
    (fun ds ds' _ declared => ?_) rest
  rw [declaration_perm perm]
  refine Agenda.perm_evaluateAll (declared.map _) (List.forall_mem_map.2 fun e _ => ?_) rest
  exact ((asksOnly_ofViolation _).alike h once).standing

theorem agenda_perm : (agenda.ledger c d).Perm (agenda.ledger c' d) := by
  have blind : isApplicable.AsksOnly Query.IsOrderBlind :=
    asksOnly_extensionActive trivial fun _ => trivial
  refine Agenda.perm_gather_blind h once blind (fun applicable _ => ?_) (List.Perm.refl _)
  cases applicable with
  | false => exact List.Perm.refl _
  | true =>
    exact Agenda.perm_gather (alike_geometryColumns h once)
      (fun _ _ _ perm => onDeclarations_perm h once perm) (onImplementation_perm h once)

end Reordered

end SpatialIndex
end GeoConformance
