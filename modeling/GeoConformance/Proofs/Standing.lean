import GeoConformance.Proofs.Asking
import GeoConformance.Proofs.References
import GeoConformance.Proofs.Reordering

/-!
# Checks on reordered rows

How a check stands on a database is the status of its outcome. A check that asks only for what has
no order is the same on a database with reordered rows. Of the others, those that read rows come to
the same rows in some order, and those that follow references fail, if they do, by a violation on
both databases, though perhaps of other values.
-/

namespace GeoConformance

namespace Failure

/-- The status of the outcome that stands for a failure, if there is one. -/
def status? (f : Failure) : Option Status := f.verdict?.map Verdict.status

def IsViolation (f : Failure) : Prop := ∃ v, f = .violation v

end Failure

namespace Check

variable {α β : Type} {c c' : Catalog} {d : Deadline} {v table column mapping idColumn : Value}

/-- How a rule stands whose check this is; none if the check has no verdict. -/
def standing (c : Catalog) (d : Deadline) (k : Check Unit) : Option Status :=
  match k.resultIn c d with
  | .ok () => some .pass
  | .error f => f.status?

/-- Two checks, each on its own database, come to related results or to failures of one status. -/
def Alike (c c' : Catalog) (d : Deadline) (R : α → α → Prop) (k k' : Check α) : Prop :=
  Agree (fun f g => f.status? = g.status?) R (k.resultIn c d) (k'.resultIn c' d)

theorem Alike.bind {R : α → α → Prop} {S : β → β → Prop} {k k' : Check α}
    {next next' : α → Check β} (h : Alike c c' d R k k')
    (hn : ∀ a b, k.resultIn c d = .ok a → R a b → Alike c c' d S (next a) (next' b)) :
    Alike c c' d S (k >>= next) (k' >>= next') := by
  unfold Alike
  rw [resultIn_bind, resultIn_bind]
  exact Agree.bind h fun a b found _ related => hn a b found related

theorem Alike.standing {R : Unit → Unit → Prop} {k k' : Check Unit} (h : Alike c c' d R k k') :
    k.standing c d = k'.standing c' d := by
  unfold Alike at h
  unfold Check.standing
  generalize k.resultIn c d = x at h
  generalize k'.resultIn c' d = y at h
  cases h with
  | ok related => rfl
  | error same => exact same

theorem alike_of_eq {k : Check α} (h : k.resultIn c d = k.resultIn c' d) :
    Alike c c' d Eq k k := by
  unfold Alike
  rw [h]
  cases k.resultIn c' d with
  | ok a => exact .ok rfl
  | error f => exact .error rfl

theorem alike_pure {R : α → α → Prop} {a b : α} (h : R a b) :
    Alike c c' d R (pure a) (pure b) := .ok h

theorem alike_require {b b' : Bool} (same : b = b') (v w : Violation) :
    Alike c c' d Eq (require b v) (require b' w) := by
  cases same
  cases b
  · exact .error rfl
  · exact .ok rfl

theorem alike_reply (q : Query) {R : q.Reply → q.Reply → Prop}
    (h : Agree Eq R (q.answer c) (q.answer c')) : Alike c c' d R (reply q) (reply q) := by
  unfold Alike
  rw [resultIn_reply, resultIn_reply]
  generalize q.answer c = x at h
  generalize q.answer c' = y at h
  cases h with
  | ok related => exact .ok related
  | error same => exact .error (by rw [same])

/-- Checks that fail by violations alone are alike where they pass together. -/
theorem alike_of_violations {k k' : Check Unit}
    (h : FailsAs Failure.IsViolation (k.resultIn c d))
    (h' : FailsAs Failure.IsViolation (k'.resultIn c' d))
    (together : k.resultIn c d = .ok () ↔ k'.resultIn c' d = .ok ()) :
    Alike c c' d Eq k k' := by
  unfold Alike
  cases passed : k.resultIn c d with
  | ok u =>
    rw [together.1 passed]
    exact .ok rfl
  | error f =>
    cases passed' : k'.resultIn c' d with
    | ok u =>
      rw [together.2 passed'] at passed
      cases passed
    | error g =>
      obtain ⟨v, rfl⟩ := h f passed
      obtain ⟨w, rfl⟩ := h' g passed'
      exact .error rfl

/-- The schema of a table does not depend on the order of its rows. -/
theorem inspects_isOrderBlind (v : Value) : Inspects Query.IsOrderBlind v :=
  fun _ _ => ⟨trivial, trivial⟩

/-! ## Checks on rows -/

/-- Whether a table exists is always known. -/
theorem requireTable_failsAs : FailsAs Failure.IsViolation ((requireTable v).resultIn c d) := by
  have known : ∃ b, (tableExists v).resultIn c d = .ok b := by
    by_cases named : v.IsUsable ∧ c.Names v
    · exact ⟨true, tableExists_eq_ok.2 (by simp [named])⟩
    · exact ⟨false, tableExists_eq_ok.2 (by simp [named])⟩
  obtain ⟨b, found⟩ := known
  rw [requireTable, resultIn_bind, found]
  cases b
  · exact failsAs_error ⟨_, rfl⟩
  · exact failsAs_ok ()

/-- In which order checks that fail by violations alone are performed does not matter. -/
theorem alike_forEach {check : β → Check Unit} {bs bs' : List β} (perm : bs.Perm bs')
    (fails : ∀ c b, FailsAs Failure.IsViolation ((check b).resultIn c d))
    (same : ∀ b, (check b).resultIn c d = (check b).resultIn c' d) :
    Alike c c' d Eq (forEach check bs) (forEach check bs') := by
  refine alike_of_violations (failsAs_forEach fun b _ => fails c b)
    (failsAs_forEach fun b _ => fails c' b) ?_
  rw [resultIn_forEach_eq_ok, resultIn_forEach_eq_ok]
  simp only [same, perm.mem_iff]

section Reordered

variable (h : c.Reorders c') (once : c.ListsOnce)

include h once

theorem AsksOnly.resultIn_eq {k : Check α} (blind : k.AsksOnly Query.IsOrderBlind) :
    k.resultIn c d = k.resultIn c' d :=
  (blind.mono fun _ => Query.answer_eq_of_reorders h once).resultIn_congr d

theorem AsksOnly.alike {k : Check α} (blind : k.AsksOnly Query.IsOrderBlind) :
    Alike c c' d Eq k k :=
  alike_of_eq (blind.resultIn_eq h once)

/-- Behind a check that asks for nothing that has an order, its result is one and the same. -/
theorem AsksOnly.alike_bind {S : β → β → Prop} {k : Check α} {next next' : α → Check β}
    (blind : k.AsksOnly Query.IsOrderBlind) (hn : ∀ a, Alike c c' d S (next a) (next' a)) :
    Alike c c' d S (k >>= next) (k >>= next') := by
  refine (blind.alike h once).bind fun a b _ same => ?_
  cases same
  exact hn a

theorem alike_declarations : Alike c c' d List.Perm declarations declarations := by
  refine (asksOnly_tableExists fun _ _ => trivial).alike_bind h once fun found => ?_
  cases found
  · exact alike_pure (List.Perm.refl _)
  · exact alike_reply .declarations (Query.declarations_perm h)

theorem alike_relations : Alike c c' d List.Perm relations relations :=
  (asksOnly_tableExists fun _ _ => trivial).alike_bind h once fun _ =>
    (asksOnly_require _ _).alike_bind h once fun _ =>
      alike_reply .relations (Query.relations_perm h)

theorem alike_geometryColumns : Alike c c' d List.Perm geometryColumns geometryColumns :=
  (asksOnly_tableExists fun _ _ => trivial).alike_bind h once fun _ =>
    (asksOnly_require _ _).alike_bind h once fun _ =>
      alike_reply .geometryColumns (Query.geometryColumns_perm h)

theorem alike_columnValues :
    Alike c c' d List.Perm (columnValues table column) (columnValues table column) :=
  (asksOnly_ofExcept _).alike_bind h once fun label =>
    (asksOnly_ofExcept _).alike_bind h once fun name =>
      alike_reply (.columnValues name label) (h.quotedColumn name label)

/-- Which of several values that are the same is kept depends on their order. -/
theorem alike_distinctValues (apart : c.KeepsApart table column) :
    Alike c c' d (fun values values' => ∃ stored stored', stored.Perm stored' ∧
      values = Value.distinct stored ∧ values' = Value.distinct stored')
      (distinctValues table column) (distinctValues table column) := by
  refine ((asksOnly_ofExcept _).alike h once).bind fun label _ labelled same => ?_
  cases same
  refine ((asksOnly_ofExcept _).alike h once).bind fun name _ named same => ?_
  cases same
  obtain ⟨rfl, -⟩ := nameOf_eq_ok.1 labelled
  obtain ⟨rfl, -⟩ := nameOf_eq_ok.1 named
  refine alike_reply (.distinctValues name label) ?_
  have perms := h.quotedColumn name label
  have listed := fun values (read : c.quotedColumn name label = .ok values) =>
    Value.distinctUnder_eq_distinct (apart.of_read read)
  have listed' := fun values values' (read : c.quotedColumn name label = .ok values)
      (perm : values.Perm values') =>
    Value.distinctUnder_eq_distinct fun v hv w hw =>
      apart.of_read read v (perm.mem_iff.2 hv) w (perm.mem_iff.2 hw)
  simp only [Query.answer, ← h.collationOf]
  generalize read : c.quotedColumn name label = x at perms
  generalize c'.quotedColumn name label = y at perms
  cases perms with
  | ok perm => exact .ok ⟨_, _, perm, listed _ read, listed' _ _ read perm⟩
  | error same => exact .error same

theorem alike_requireReferences (apart : c.KeepsApart mapping idColumn) :
    Alike c c' d Eq (requireReferences mapping idColumn table column)
      (requireReferences mapping idColumn table column) := by
  have inspects := inspects_isOrderBlind
  refine (asksOnly_requireTable (inspects _)).alike_bind h once fun _ => ?_
  refine (asksOnly_requireTable (inspects _)).alike_bind h once fun _ => ?_
  refine (asksOnly_requireColumn (inspects _)).alike_bind h once fun _ => ?_
  refine (asksOnly_requireColumn (inspects _)).alike_bind h once fun _ => ?_
  refine (alike_columnValues h once).bind fun referenced referenced' _ sameReferenced => ?_
  refine (alike_distinctValues h once apart).bind fun values values' _ related => ?_
  obtain ⟨stored, stored', perm, rfl, rfl⟩ := related
  have together : orphans referenced (Value.distinct stored) = [] ↔
      orphans referenced' (Value.distinct stored') = [] := by
    simp only [orphans_distinct_eq_nil, perm.mem_iff, Value.isIn, sameReferenced.any_eq]
  cases left : orphans referenced (Value.distinct stored) with
  | nil =>
    rw [together.1 left]
    exact alike_pure rfl
  | cons v rest =>
    cases right : orphans referenced' (Value.distinct stored') with
    | nil =>
      rw [together.2 right] at left
      cases left
    | cons w rest' => exact .error rfl

end Reordered

end Check
end GeoConformance
