import GeoConformance.Inspection
import GeoConformance.Proofs.Arrangement
import Mathlib.Data.List.Pairwise
import Mathlib.Data.Prod.Lex
import Mathlib.Data.String.Basic

/-!
# Named texts in order

Objects found by the beginning of their names are put in the order of the names, and those of one
name in the order of their texts. Of one name, an object with a text and one without have no order,
and whatever comparisons are made, two such among the objects come to light.
-/

namespace GeoConformance
namespace Check

open Arrangement

/-- One object goes before another by its name, or by its text if both or neither have one. -/
def Precedes (a b : NamedText) : Prop :=
  a.1 < b.1 ∨ a.1 = b.1 ∧ a.2.isSome = b.2.isSome ∧ a.2.getD "" ≤ b.2.getD ""

variable {a b : NamedText} {found ordered : List NamedText}

theorem Precedes.name_le (h : Precedes a b) : a.1 ≤ b.1 := by
  rcases h with less | ⟨same, -⟩
  · exact less.le
  · exact same.le

theorem Precedes.trans {c : NamedText} (h : Precedes a b) (h' : Precedes b c) : Precedes a c := by
  rcases h with less | ⟨same, kinds, texts⟩
  · exact .inl (less.trans_le h'.name_le)
  · rcases h' with less | ⟨same', kinds', texts'⟩
    · exact .inl (same ▸ less)
    · exact .inr ⟨same.trans same', kinds.trans kinds', texts.trans texts'⟩

theorem Precedes.antisymm (h : Precedes a b) (h' : Precedes b a) : a = b := by
  rcases h with less | ⟨same, kinds, texts⟩
  · exact absurd h'.name_le less.not_ge
  · rcases h' with less | ⟨-, -, texts'⟩
    · exact absurd same less.ne'
    · refine Prod.ext same ?_
      have texts := texts.antisymm texts'
      cases first : a.2 <;> cases second : b.2 <;> simp_all

theorem clashes_eq_true : clashes a b = true ↔ a.1 = b.1 ∧ a.2.isSome ≠ b.2.isSome := by
  simp [clashes]

theorem clashes_comm : clashes a b = clashes b a := by
  rw [Bool.eq_iff_iff, clashes_eq_true, clashes_eq_true, eq_comm, ne_comm]

theorem clashes_self : clashes a a = false := by
  simp [clashes]

theorem Precedes.not_clashes (h : Precedes a b) : clashes a b = false := by
  rw [← Bool.not_eq_true, clashes_eq_true]
  rintro ⟨same, kinds⟩
  rcases h with less | ⟨-, kinds', -⟩
  · exact less.ne same
  · exact kinds kinds'

/-- Where an object stands, an absent text being as good as an empty one. -/
def place (o : NamedText) : String ×ₗ String := toLex (o.1, o.2.getD "")

theorem namedTextLe_iff : namedTextLe a b = true ↔ place a ≤ place b := by
  simp only [namedTextLe, place, Prod.Lex.toLex_le_toLex, Bool.or_eq_true, Bool.and_eq_true,
    decide_eq_true_eq, beq_iff_eq, Bool.not_eq_true', decide_eq_false_iff_not, not_lt]

theorem precedes_iff (h : clashes a b = false) : Precedes a b ↔ namedTextLe a b = true := by
  rw [← Bool.not_eq_true, clashes_eq_true, not_and, not_not] at h
  rw [namedTextLe_iff, place, place, Prod.Lex.toLex_le_toLex]
  exact or_congr_right (and_congr_right fun same => and_iff_right (h same))

theorem namedTextLe_total (a b : NamedText) : namedTextLe a b = true ∨ namedTextLe b a = true := by
  rw [namedTextLe_iff, namedTextLe_iff]
  exact le_total _ _

theorem namedTextLe_trans (a b c : NamedText) (h : namedTextLe a b = true)
    (h' : namedTextLe b c = true) : namedTextLe a c = true := by
  rw [namedTextLe_iff] at h h' ⊢
  exact h.trans h'

theorem compares_namedTextPrecedes : Compares Precedes namedTextPrecedes where
  trans := Precedes.trans
  of_true := by
    intro a b compared
    unfold namedTextPrecedes at compared
    split at compared
    · cases compared
    · rename_i clash
      rw [Bool.not_eq_true] at clash
      refine (precedes_iff clash).2 ((namedTextLe_total a b).resolve_right ?_)
      simpa using compared
  of_false := by
    intro a b compared
    unfold namedTextPrecedes at compared
    split at compared
    · cases compared
    · rename_i clash
      rw [Bool.not_eq_true] at clash
      exact (precedes_iff (clashes_comm.trans clash)).2 (by simpa using compared)

theorem pairwise_mergeSort (clean : ∀ a ∈ found, ∀ b ∈ found, clashes a b = false) :
    (found.mergeSort namedTextLe).Pairwise Precedes := by
  have sorted := List.pairwise_mergeSort namedTextLe_trans
    (fun a b => Bool.or_eq_true_iff.2 (namedTextLe_total a b)) found
  refine sorted.imp_of_mem fun ha hb le => ?_
  exact (precedes_iff (clean _ (List.mem_mergeSort.1 ha) _ (List.mem_mergeSort.1 hb))).2 le

theorem not_clashes_of_perm (perm : ordered.Perm found) (sorted : ordered.Pairwise Precedes) :
    ∀ a ∈ found, ∀ b ∈ found, clashes a b = false := by
  have symmetric : Std.Symm fun a b => clashes a b = false := ⟨fun _ _ => clashes_comm.trans⟩
  have clean := List.Pairwise.forall_of_forall (fun a _ => clashes_self)
    (sorted.imp Precedes.not_clashes)
  simpa only [perm.mem_iff] using clean

/-- Objects are put in order just where they have an order, and then there is only one. -/
theorem inOrder_eq_ok :
    inOrder found = .ok ordered ↔ ordered.Perm found ∧ ordered.Pairwise Precedes := by
  constructor
  · intro h
    unfold inOrder at h
    split at h
    · obtain ⟨perm, sorted⟩ := succeedsAs_arrange compares_namedTextPrecedes ordered h
      exact ⟨perm, sorted⟩
    · rename_i clean
      cases h
      exact ⟨List.mergeSort_perm _ _, pairwise_mergeSort (by simpa using clean)⟩
  · intro h
    obtain ⟨perm, sorted⟩ := h
    have clean := not_clashes_of_perm perm sorted
    have noClash : ¬ (found.any fun a => found.any (clashes a)) = true := by simpa using clean
    rw [inOrder, if_neg noClash]
    exact congrArg _ (((List.mergeSort_perm _ _).trans perm.symm).eq_of_pairwise
      (fun _ _ _ _ => Precedes.antisymm) (pairwise_mergeSort clean) sorted)

theorem exists_inOrder (clean : ∀ a ∈ found, ∀ b ∈ found, clashes a b = false) :
    ∃ ordered, inOrder found = .ok ordered :=
  ⟨_, inOrder_eq_ok.2 ⟨List.mergeSort_perm _ _, pairwise_mergeSort clean⟩⟩

theorem inOrder_perm {found' : List NamedText} (h : inOrder found = .ok ordered)
    (perm : found.Perm found') : inOrder found' = .ok ordered := by
  rw [inOrder_eq_ok] at h ⊢
  exact ⟨h.1.trans perm, h.2⟩

theorem inOrder_filter (p : NamedText → Bool) (h : inOrder found = .ok ordered) :
    inOrder (found.filter p) = .ok (ordered.filter p) := by
  rw [inOrder_eq_ok] at h ⊢
  exact ⟨h.1.filter p, h.2.filter p⟩

/-- Objects with lesser names come first, whatever comes behind them. -/
theorem inOrder_append {found' ordered' : List NamedText} (h : inOrder found = .ok ordered)
    (h' : inOrder found' = .ok ordered') (less : ∀ a ∈ found, ∀ b ∈ found', a.1 < b.1) :
    inOrder (found ++ found') = .ok (ordered ++ ordered') := by
  rw [inOrder_eq_ok] at h h' ⊢
  refine ⟨h.1.append h'.1, List.pairwise_append.2 ⟨h.2, h'.2, fun a ha b hb => ?_⟩⟩
  exact .inl (less a (h.1.mem_iff.1 ha) b (h'.1.mem_iff.1 hb))

/-- Whatever is added behind a name, the objects before it stay where they are. -/
theorem exists_inOrder_append (added : List NamedText) {bound : String}
    (h : inOrder found = .ok ordered)
    (clean : ∀ a ∈ found ++ added, ∀ b ∈ found ++ added, clashes a b = false)
    (behind : ∀ o ∈ added, bound ≤ o.1) :
    ∃ rest, inOrder (found ++ added) = .ok (ordered.filter (·.1 < bound) ++ rest) := by
  have split := List.filter_append_perm (fun o => decide (o.1 < bound)) found
  generalize high : found.filter (fun o => !decide (o.1 < bound)) = others at split
  have whole : (found.filter (·.1 < bound) ++ (others ++ added)).Perm (found ++ added) := by
    rw [← List.append_assoc]
    exact split.append_right added
  have least : ∀ b ∈ others ++ added, bound ≤ b.1 := by
    rw [List.forall_mem_append, ← high]
    refine ⟨fun b hb => ?_, behind⟩
    have notLess := (List.mem_filter.1 hb).2
    rwa [Bool.not_eq_true', decide_eq_false_iff_not, not_lt] at notLess
  have within : ∀ o ∈ others ++ added, o ∈ found ++ added := fun o ho =>
    whole.mem_iff.1 (List.mem_append_right _ ho)
  obtain ⟨rest, restOrdered⟩ :=
    exists_inOrder fun a ha b hb => clean a (within a ha) b (within b hb)
  refine ⟨rest, inOrder_perm (inOrder_append (inOrder_filter _ h) restOrdered ?_) whole⟩
  exact fun a ha b hb => (of_decide_eq_true (List.mem_filter.1 ha).2).trans_le (least b hb)

/-- Where none of the first objects in order was added, that many come before the least of those
that were. -/
theorem le_length_filter {added : List NamedText} {bound : String} {sql : Option String}
    {n : Nat} (h : inOrder (found ++ added) = .ok ordered) (enough : n ≤ ordered.length)
    (early : ∀ u ∈ ordered.take n, u ∉ added) (new : (bound, sql) ∈ added)
    (least : ∀ b ∈ added, bound ≤ b.1) (apart : ∀ u ∈ found, u.1 ≠ bound) :
    n ≤ (found.filter (·.1 < bound)).length := by
  obtain ⟨perm, sorted⟩ := inOrder_eq_ok.1 h
  have less : ∀ u ∈ ordered.take n, u.1 < bound := by
    intro u hu
    have behind := perm.mem_iff.2 (List.mem_append_right found new)
    rw [← List.take_append_drop n ordered] at behind sorted
    have later := (List.mem_append.1 behind).resolve_left fun front => early _ front new
    have known := (List.mem_append.1 (perm.mem_iff.1 (List.mem_of_mem_take hu))).resolve_right
      (early u hu)
    exact lt_of_le_of_ne ((List.pairwise_append.1 sorted).2.2 u hu _ later).name_le (apart u known)
  have none : added.filter (·.1 < bound) = [] := by
    rw [List.filter_eq_nil_iff]
    exact fun b hb => by simpa only [decide_eq_true_eq, not_lt] using least b hb
  calc n = ((ordered.take n).filter (·.1 < bound)).length := by
        rw [List.filter_eq_self.2 fun u hu => decide_eq_true (less u hu), List.length_take,
          min_eq_left enough]
    _ ≤ (ordered.filter (·.1 < bound)).length := ((List.take_sublist n ordered).filter _).length_le
    _ = (found.filter (·.1 < bound)).length := by
        rw [(perm.filter _).length_eq, List.filter_append, none, List.append_nil]

end Check
end GeoConformance
