import GeoConformance.Arrangement
import GeoConformance.Proofs.Failing

/-!
# Arrangements that succeed

Where comparisons can fail, a list may be arranged without comparing all of its elements. Still a
comparison that succeeds tells how two elements are ordered, and the order of the others follows
from those compared. So whatever is arranged without a failure has been put in order, and contains
no two elements that cannot be ordered.
-/

namespace GeoConformance
namespace Arrangement

variable {α ε : Type} {R : α → α → Prop} {precedes : α → α → Except ε Bool} {xs ys : List α}

/-- Comparisons that say, unless they fail, in which order two elements stand. -/
structure Compares (R : α → α → Prop) (precedes : α → α → Except ε Bool) : Prop where
  trans : ∀ {a b c}, R a b → R b c → R a c
  of_true : ∀ {a b}, precedes a b = .ok true → R a b
  of_false : ∀ {a b}, precedes a b = .ok false → R b a

/-- The elements of one list in the order of another. -/
structure Arranges (R : α → α → Prop) (xs ys : List α) : Prop where
  perm : ys.Perm xs
  ordered : ys.Pairwise R

/-- The same order, read backward. -/
theorem Compares.flip (h : Compares R precedes) :
    Compares (fun a b => R b a) fun a b => precedes b a where
  trans first second := h.trans second first
  of_true := h.of_true
  of_false := h.of_false

section Insertion

/-- What goes before one element may be put in place among those ahead of it. -/
theorem Arranges.ahead (h : Compares R precedes) {a b : α} {before rest : List α}
    (placed : Arranges R (a :: before) ys) (ordered : (before ++ b :: rest).Pairwise R)
    (first : R a b) : Arranges R (a :: (before ++ b :: rest)) (ys ++ b :: rest) := by
  obtain ⟨-, rest_ordered, across⟩ := List.pairwise_append.1 ordered
  refine ⟨placed.perm.append_right _,
    List.pairwise_append.2 ⟨placed.ordered, rest_ordered, fun y hy z hz => ?_⟩⟩
  rcases List.mem_cons.1 (placed.perm.mem_iff.1 hy) with rfl | hy
  · rcases List.mem_cons.1 hz with rfl | hz
    · exact first
    · exact h.trans first (List.rel_of_pairwise_cons rest_ordered hz)
  · exact across y hy z hz

/-- What does not go before one element may be put in place among those behind it. -/
theorem Arranges.behind (h : Compares R precedes) {a b : α} {before rest : List α}
    (placed : Arranges R (a :: rest) ys) (ordered : (before ++ b :: rest).Pairwise R)
    (later : R b a) : Arranges R (a :: (before ++ b :: rest)) (before ++ b :: ys) := by
  obtain ⟨before_ordered, rest_ordered, across⟩ := List.pairwise_append.1 ordered
  have least : ∀ y ∈ ys, R b y := by
    intro y hy
    rcases List.mem_cons.1 (placed.perm.mem_iff.1 hy) with rfl | hy
    · exact later
    · exact List.rel_of_pairwise_cons rest_ordered hy
  refine ⟨?_, List.pairwise_append.2
    ⟨before_ordered, List.pairwise_cons.2 ⟨least, placed.ordered⟩, fun y hy z hz => ?_⟩⟩
  · calc (before ++ b :: ys).Perm (before ++ b :: a :: rest) :=
        (placed.perm.cons b).append_left before
      List.Perm _ (before ++ a :: b :: rest) := (List.Perm.swap a b rest).append_left before
      List.Perm _ (a :: (before ++ b :: rest)) := List.perm_middle
  · have toFirst := across y hy b List.mem_cons_self
    rcases List.mem_cons.1 hz with rfl | hz
    · exact toFirst
    · exact h.trans toFirst (least z hz)

theorem succeedsAs_insertInto (h : Compares R precedes) (a : α) (ordered : xs.Pairwise R) :
    SucceedsAs (Arranges R (a :: xs)) (insertInto precedes a xs) := by
  fun_induction insertInto precedes a xs with
  | case1 xs none =>
    have short : xs.length ≤ xs.length / 2 := List.drop_eq_nil_iff.1 none
    have empty : xs = [] := List.length_eq_zero_iff.1 (by omega)
    subst empty
    exact succeedsAs_ok ⟨List.Perm.refl _, List.pairwise_singleton R a⟩
  | case2 xs b rest half _ front behind =>
    have whole : xs.take (xs.length / 2) ++ b :: rest = xs := by
      rw [← half, List.take_append_drop]
    generalize xs.take (xs.length / 2) = before at whole front ⊢
    subst whole
    obtain ⟨before_ordered, rest_ordered, -⟩ := List.pairwise_append.1 ordered
    refine succeedsAs_bind fun first compared => ?_
    cases first with
    | true =>
      refine succeedsAs_bind fun ys inserted => succeedsAs_ok ?_
      exact (front before_ordered ys inserted).ahead h ordered (h.of_true compared)
    | false =>
      refine succeedsAs_bind fun ys inserted => succeedsAs_ok ?_
      exact (behind (List.pairwise_cons.1 rest_ordered).2 ys inserted).behind h ordered
        (h.of_false compared)

/-- The order in which a run stands before it is turned round. -/
def Goes (R : α → α → Prop) (falling : Bool) (a b : α) : Prop := if falling then R b a else R a b

theorem Compares.goes_trans (h : Compares R precedes) {falling : Bool} {a b c : α}
    (first : Goes R falling a b) (second : Goes R falling b c) : Goes R falling a c := by
  cases falling with
  | true => exact h.trans second first
  | false => exact h.trans first second

theorem Compares.goes (h : Compares R precedes) {falling : Bool} {a last : α}
    (compared : precedes a last = .ok falling) : Goes R falling last a := by
  cases falling with
  | true => exact h.of_true compared
  | false => exact h.of_false compared

theorem succeedsAs_splitRun (h : Compares R precedes) (falling : Bool) (last : α) :
    SucceedsAs (fun split => split.1 ++ split.2 = xs ∧ (last :: split.1).Pairwise (Goes R falling))
      (splitRun precedes falling last xs) := by
  induction xs generalizing last with
  | nil => exact succeedsAs_ok ⟨rfl, List.pairwise_singleton _ _⟩
  | cons a rest ih =>
    rw [splitRun]
    refine succeedsAs_bind fun first compared => ?_
    split
    · rename_i onward
      rw [beq_iff_eq] at onward
      subst onward
      refine succeedsAs_bind fun split gone => succeedsAs_ok ?_
      obtain ⟨whole, goes⟩ := ih a split gone
      have next := h.goes compared
      refine ⟨by simp [whole], List.pairwise_cons.2 ⟨?_, goes⟩⟩
      exact List.forall_mem_cons.2
        ⟨next, fun b hb => h.goes_trans next (List.rel_of_pairwise_cons goes hb)⟩
    · exact succeedsAs_ok ⟨rfl, List.pairwise_singleton _ _⟩

/-- A run that was split off the head of a list, and what is left of the list. -/
structure Splits (R : α → α → Prop) (xs : List α) (split : List α × List α) : Prop where
  perm : (split.1 ++ split.2).Perm xs
  ordered : split.1.Pairwise R
  nonempty : xs ≠ [] → split.1 ≠ []

theorem succeedsAs_leadingRun (h : Compares R precedes) :
    SucceedsAs (Splits R xs) (leadingRun precedes xs) := by
  unfold leadingRun
  split
  case h_1 a b rest =>
    refine succeedsAs_bind fun falling compared => succeedsAs_bind fun split gone =>
      succeedsAs_ok ?_
    obtain ⟨whole, goes⟩ := succeedsAs_splitRun h falling b split gone
    have next := h.goes compared
    have run : (a :: b :: split.1).Pairwise (Goes R falling) := List.pairwise_cons.2
      ⟨List.forall_mem_cons.2
        ⟨next, fun c hc => h.goes_trans next (List.rel_of_pairwise_cons goes hc)⟩, goes⟩
    subst whole
    cases falling with
    | true =>
      exact ⟨(List.reverse_perm _).append_right _, List.pairwise_reverse.2 run, by simp⟩
    | false => exact ⟨List.Perm.refl _, run, by simp⟩
  case h_2 short =>
    refine succeedsAs_ok ⟨by simp, ?_, fun nonempty => nonempty⟩
    rcases xs with _ | ⟨a, _ | ⟨b, rest⟩⟩
    · exact List.Pairwise.nil
    · exact List.pairwise_singleton R a
    · exact (short a b rest rfl).elim

theorem succeedsAs_foldlM_insertInto (h : Compares R precedes) {placed : List α}
    (ordered : placed.Pairwise R) :
    SucceedsAs (Arranges R (placed ++ xs))
      (xs.foldlM (fun placed a => insertInto precedes a placed) placed) := by
  induction xs generalizing placed with
  | nil => exact succeedsAs_ok ⟨by simp, ordered⟩
  | cons a rest ih =>
    rw [List.foldlM_cons]
    refine succeedsAs_bind fun longer inserted => ?_
    obtain ⟨perm, sorted⟩ := succeedsAs_insertInto h a ordered longer inserted
    intro ys arranged
    have rest_perm := ih sorted ys arranged
    exact ⟨rest_perm.perm.trans ((perm.append_right rest).trans List.perm_middle.symm),
      rest_perm.ordered⟩

theorem succeedsAs_extendedRun (h : Compares R precedes) (least : Nat) :
    SucceedsAs (Splits R xs) (extendedRun precedes least xs) := by
  refine succeedsAs_bind fun split leads => succeedsAs_bind fun run extended => succeedsAs_ok ?_
  obtain ⟨perm, ordered, nonempty⟩ := succeedsAs_leadingRun h split leads
  have arranged := succeedsAs_foldlM_insertInto h ordered run extended
  refine ⟨?_, arranged.ordered, fun some empty => nonempty some ?_⟩
  · refine (arranged.perm.append_right _).trans ?_
    rwa [List.append_assoc, List.take_append_drop]
  · have none := arranged.perm
    rw [show run = [] from empty] at none
    exact (List.append_eq_nil_iff.1 none.nil_eq.symm).1

end Insertion

section Leaping

variable {belongs : Nat → Except ε Bool} {limit : Nat}

theorem succeedsAs_stride {last next : Nat} (inside : last < limit) (later : last < next)
    (yes : belongs last = .ok true) :
    SucceedsAs (fun found => found.1 < found.2 ∧ found.2 ≤ limit ∧ belongs found.1 = .ok true ∧
      (found.2 < limit → belongs found.2 = .ok false)) (stride belongs limit last next) := by
  fun_induction stride belongs limit last next with
  | case1 last next before ih =>
    refine succeedsAs_bind fun belonging asked => ?_
    cases belonging with
    | true => exact ih before (by omega) asked
    | false => exact succeedsAs_ok ⟨later, Nat.le_of_lt before, yes, fun _ => asked⟩
  | case2 last next beyond =>
    exact succeedsAs_ok ⟨inside, Nat.le_refl _, yes, fun outside => absurd outside (by omega)⟩

theorem succeedsAs_bisect (backward : Bool) {low high : Nat} (first : 0 < low) (apart : low ≤ high)
    (inside : high ≤ limit) (yes : belongs (low - 1) = .ok true)
    (no : high < limit → belongs high = .ok false) :
    SucceedsAs (fun count => 0 < count ∧ count ≤ limit ∧ belongs (count - 1) = .ok true ∧
      (count < limit → belongs count = .ok false)) (bisect belongs backward low high) := by
  fun_induction bisect belongs backward low high with
  | case1 low high between middle above below =>
    have inner : low ≤ middle ∧ middle < high := by
      cases backward <;> simp [middle] <;> omega
    refine succeedsAs_bind fun belonging asked => ?_
    cases belonging with
    | true => exact above (by omega) (by omega) inside (by simpa using asked) no
    | false => exact below first inner.1 (by omega) yes fun _ => asked
  | case2 low high met =>
    obtain rfl : low = high := by omega
    exact succeedsAs_ok ⟨first, inside, yes, no⟩

/-- The last element of the stretch belongs, and the first one behind it does not. -/
structure IsStretch (belongs : α → Except ε Bool) (xs : List α) (count : Nat) : Prop where
  last : ∀ i (h : i < xs.length), i + 1 = count → belongs xs[i] = .ok true
  next : ∀ h : count < xs.length, belongs xs[count] = .ok false
  within : count ≤ xs.length

theorem succeedsAs_leap (belongs : α → Except ε Bool) (backward : Bool) :
    SucceedsAs (IsStretch belongs xs) (leap belongs backward xs) := by
  unfold leap
  generalize lookUp : (fun i : Nat => (xs[i]?.map belongs).getD (pure false)) = belongsAt
  have inList : ∀ i (h : i < xs.length), belongsAt i = belongs xs[i] := by
    intro i h
    rw [← lookUp]
    simp only [List.getElem?_eq_getElem h, Option.map_some, Option.getD_some]
  refine succeedsAs_bind fun belonging asked => ?_
  cases belonging with
  | false =>
    refine succeedsAs_ok ⟨fun i _ => nofun, fun h => ?_, Nat.zero_le _⟩
    rw [← inList 0 h, asked]
  | true =>
    have nonempty : 0 < xs.length := by
      refine List.length_pos_iff.2 fun empty => ?_
      rw [empty] at lookUp
      rw [← lookUp] at asked
      cases asked
    refine succeedsAs_bind fun found strode => ?_
    obtain ⟨apart, inside, last, next⟩ :=
      succeedsAs_stride nonempty Nat.zero_lt_one asked found strode
    intro count bisected
    obtain ⟨positive, within, last, next⟩ :=
      succeedsAs_bisect backward (Nat.succ_pos _) apart inside (by simpa using last) next count
        bisected
    refine ⟨fun i h here => ?_, fun h => inList count h ▸ next h, within⟩
    rw [← inList i h, ← last, ← here, Nat.add_sub_cancel]

/-- In a list in order, what belongs stands before another element and the rest stands behind it. -/
theorem IsStretch.separates {belongs : α → Except ε Bool} {count : Nat} {b : α}
    (stretch : IsStretch belongs xs count) (trans : ∀ {a b c}, R a b → R b c → R a c)
    (ordered : xs.Pairwise R) (yes : ∀ {a}, belongs a = .ok true → R a b)
    (no : ∀ {a}, belongs a = .ok false → R b a) :
    (∀ a ∈ xs.take count, R a b) ∧ ∀ a ∈ xs.drop count, R b a := by
  have increasing := List.pairwise_iff_getElem.1 ordered
  constructor
  · intro a ha
    obtain ⟨i, hi, rfl⟩ := List.mem_take_iff_getElem.1 ha
    have within := stretch.within
    have inside : count - 1 < xs.length := by omega
    have last := yes (stretch.last (count - 1) inside (by omega))
    rcases Nat.lt_or_ge i (count - 1) with earlier | same
    · exact trans (increasing i _ _ inside earlier) last
    · obtain rfl : i = count - 1 := by omega
      exact last
  · intro a ha
    obtain ⟨i, hi, rfl⟩ := List.mem_drop_iff_getElem.1 ha
    have inside : count < xs.length := by omega
    have next := no (stretch.next inside)
    rcases Nat.eq_zero_or_pos i with rfl | later
    · exact next
    · exact trans next (increasing count (count + i) inside _ (by omega))

end Leaping

section Merging

variable {s : Merging α} {w : Manner α (Except ε)}

def Merging.remaining (s : Merging α) : Nat := s.kept.length + s.other.length

/-- What is left of the two runs goes behind what is merged, and the last of `kept` behind all. -/
structure Underway (R : α → α → Prop) (xs : List α) (s : Merging α) : Prop where
  perm : s.elements.Perm xs
  kept : (s.merged ++ s.kept).Pairwise R
  other : (s.merged ++ s.other).Pairwise R
  last : ∀ z ∈ s.kept.getLast?, ∀ b ∈ s.other, R b z

theorem Underway.takeKept (h : Underway R xs s) {count : Nat}
    (first : ∀ a ∈ s.kept.take count, ∀ b ∈ s.other, R a b) :
    Underway R xs (s.takeKept count) := by
  have whole : s.merged ++ s.kept.take count ++ s.kept.drop count = s.merged ++ s.kept := by
    rw [List.append_assoc, List.take_append_drop]
  refine ⟨(s.takeKept_perm count).trans h.perm, ?_, ?_, ?_⟩
  · simp only [Merging.takeKept, whole]
    exact h.kept
  · obtain ⟨-, other, across⟩ := List.pairwise_append.1 h.other
    have kept := whole ▸ h.kept
    exact List.pairwise_append.2 ⟨(List.pairwise_append.1 kept).1, other, fun a ha b hb =>
      (List.mem_append.1 ha).elim (fun ha => across a ha b hb) fun ha => first a ha b hb⟩
  · intro z hz
    simp only [Merging.takeKept, List.getLast?_drop] at hz
    split at hz
    · cases hz
    · exact h.last z hz

theorem Underway.takeOther (h : Underway R xs s) {count : Nat}
    (first : ∀ b ∈ s.other.take count, ∀ a ∈ s.kept, R b a) :
    Underway R xs (s.takeOther count) := by
  have whole : s.merged ++ s.other.take count ++ s.other.drop count = s.merged ++ s.other := by
    rw [List.append_assoc, List.take_append_drop]
  refine ⟨(s.takeOther_perm count).trans h.perm, ?_, ?_, ?_⟩
  · obtain ⟨-, kept, across⟩ := List.pairwise_append.1 h.kept
    have other := whole ▸ h.other
    exact List.pairwise_append.2 ⟨(List.pairwise_append.1 other).1, kept, fun a ha b hb =>
      (List.mem_append.1 ha).elim (fun ha => across a ha b hb) fun ha => first a ha b hb⟩
  · simp only [Merging.takeOther, whole]
    exact h.other
  · exact fun z hz b hb => h.last z hz b (List.mem_of_mem_drop hb)

/-- Of two runs in order, one head goes before the whole other run if it goes before its head. -/
theorem Compares.head_first (h : Compares R precedes) {a b : α} {as : List α} (first : R b a)
    (ordered : (a :: as).Pairwise R) : ∀ c ∈ a :: as, R b c :=
  List.forall_mem_cons.2
    ⟨first, fun _ hc => h.trans first (List.rel_of_pairwise_cons ordered hc)⟩

theorem Underway.takeFirstKept (under : Underway R xs s) (h : Compares R precedes) {a b : α}
    {as bs : List α} (keptLeft : s.kept = a :: as) (otherLeft : s.other = b :: bs) (first : R a b) :
    Underway R xs (s.takeKept 1) := by
  refine under.takeKept fun c hc => ?_
  have other := (List.pairwise_append.1 under.other).2.1
  rw [keptLeft] at hc
  rw [otherLeft] at other ⊢
  rw [List.mem_singleton.1 hc]
  exact h.head_first first other

theorem Underway.takeFirstOther (under : Underway R xs s) (h : Compares R precedes) {a b : α}
    {as bs : List α} (keptLeft : s.kept = a :: as) (otherLeft : s.other = b :: bs) (first : R b a) :
    Underway R xs (s.takeOther 1) := by
  refine under.takeOther fun c hc => ?_
  have kept := (List.pairwise_append.1 under.kept).2.1
  rw [otherLeft] at hc
  rw [keptLeft] at kept ⊢
  rw [List.mem_singleton.1 hc]
  exact h.head_first first kept

theorem Underway.arranges (h : Underway R xs s) (done : s.isOver = true) :
    Arranges R xs s.result := by
  refine ⟨s.result_perm.trans h.perm, ?_⟩
  obtain ⟨perm, kept, other, last⟩ := h
  obtain ⟨ms, ks, os⟩ := s
  simp only [Merging.isOver, Bool.or_eq_true, decide_eq_true_eq, List.isEmpty_iff] at done
  simp only [Merging.result]
  rcases done with short | rfl
  · rcases ks with _ | ⟨z, _ | ⟨z', ks⟩⟩
    · rwa [List.append_nil]
    · refine List.pairwise_append.2 ⟨other, List.pairwise_singleton R z, fun a ha b hb => ?_⟩
      rw [List.mem_singleton.1 hb]
      rcases List.mem_append.1 ha with ha | ha
      · exact (List.pairwise_append.1 kept).2.2 a ha z List.mem_cons_self
      · exact last z rfl a ha
    · simp at short
  · rwa [List.append_nil]

theorem eq_ok_of_not_map {x : Except ε Bool} {b : Bool} (h : not <$> x = .ok b) :
    x = .ok (!b) := by
  cases x with
  | ok a =>
    cases h
    rw [Bool.not_not]
  | error e => cases h

/-- A state of a merge from which the same two runs are merged, further on or at its end. -/
structure Advances (R : α → α → Prop) (xs : List α) (s t : Merging α) : Prop where
  underway : Underway R xs t
  fewer : t.isOver = true ∨ t.remaining < s.remaining

theorem succeedsAs_leapKept (h : Compares R w.otherFirst) (under : Underway R xs s) :
    SucceedsAs (fun r => Advances R xs s r.1) (w.leapKept s) := by
  unfold Manner.leapKept
  split
  case h_1 none => exact succeedsAs_ok ⟨under, .inl (by simp [Merging.isOver, none])⟩
  case h_2 b rest some =>
    refine succeedsAs_bind fun count leapt => succeedsAs_ok ?_
    obtain ⟨-, kept, -⟩ := List.pairwise_append.1 under.kept
    obtain ⟨-, other, -⟩ := List.pairwise_append.1 under.other
    obtain ⟨before, behind⟩ := (succeedsAs_leap _ _ count leapt).separates (R := R) (b := b) h.trans
      kept (fun belongs => h.of_false (eq_ok_of_not_map belongs))
      fun not_belongs => h.of_true (eq_ok_of_not_map not_belongs)
    have taken : Underway R xs (s.takeKept count) := under.takeKept fun a ha c hc => by
      rw [some] at other hc
      rcases List.mem_cons.1 hc with rfl | hc
      · exact before a ha
      · exact h.trans (before a ha) (List.rel_of_pairwise_cons other hc)
    dsimp only
    split
    · rename_i done
      exact ⟨taken, .inl done⟩
    · refine ⟨taken.takeOther ?_, .inr ?_⟩
      · intro c hc a ha
        simp only [Merging.takeKept, some, List.take_succ_cons, List.take_zero,
          List.mem_singleton] at hc ha
        subst hc
        exact behind a ha
      · simp only [Merging.remaining, Merging.takeOther, Merging.takeKept, List.length_drop, some,
          List.length_cons]
        omega

theorem succeedsAs_leapOther (h : Compares R w.otherFirst) (under : Underway R xs s) :
    SucceedsAs (fun r => Advances R xs s r.1) (w.leapOther s) := by
  unfold Manner.leapOther
  split
  case h_1 none => exact succeedsAs_ok ⟨under, .inl (by simp [Merging.isOver, none])⟩
  case h_2 a rest some =>
    refine succeedsAs_bind fun count leapt => succeedsAs_ok ?_
    obtain ⟨-, kept, -⟩ := List.pairwise_append.1 under.kept
    obtain ⟨-, other, -⟩ := List.pairwise_append.1 under.other
    obtain ⟨before, behind⟩ := (succeedsAs_leap _ _ count leapt).separates (R := R) (b := a) h.trans
      other h.of_true h.of_false
    have taken : Underway R xs (s.takeOther count) := under.takeOther fun b hb c hc => by
      rw [some] at kept hc
      rcases List.mem_cons.1 hc with rfl | hc
      · exact before b hb
      · exact h.trans (before b hb) (List.rel_of_pairwise_cons kept hc)
    dsimp only
    split
    · rename_i done
      exact ⟨taken, .inl done⟩
    · refine ⟨taken.takeKept ?_, .inr ?_⟩
      · intro c hc b hb
        simp only [Merging.takeOther, some, List.take_succ_cons, List.take_zero,
          List.mem_singleton] at hc hb
        subst hc
        exact behind b hb
      · simp only [Merging.remaining, Merging.takeOther, Merging.takeKept, List.length_drop, some,
          List.length_cons]
        omega

/-- One leap after another, unless the first one ends the merge. -/
theorem succeedsAs_inTurn {first second : Merging α → Except ε (Merging α × Nat)}
    (firstAdvances : ∀ {s}, Underway R xs s → SucceedsAs (fun r => Advances R xs s r.1) (first s))
    (secondAdvances : ∀ {s}, Underway R xs s → SucceedsAs (fun r => Advances R xs s r.1) (second s))
    (under : Underway R xs s) :
    SucceedsAs (fun r => Advances R xs s r.1) (do
      let (t, m) ← first s
      if t.isOver then return (t, m)
      let (t, n) ← second t
      return (t, max m n)) := by
  refine succeedsAs_bind fun r leapt => ?_
  have advanced := firstAdvances under r leapt
  dsimp only
  split
  · exact succeedsAs_ok advanced
  · rename_i unfinished
    have fewer := advanced.fewer.resolve_left unfinished
    refine succeedsAs_bind fun r' leapt => succeedsAs_ok ?_
    have further := secondAdvances advanced.underway r' leapt
    exact ⟨further.underway, further.fewer.imp_right fun less => Nat.lt_trans less fewer⟩

theorem succeedsAs_leapBoth (h : Compares R w.otherFirst) (under : Underway R xs s) :
    SucceedsAs (fun r => Advances R xs s r.1) (w.leapBoth s) := by
  unfold Manner.leapBoth
  cases w.backward with
  | true => exact succeedsAs_inTurn (succeedsAs_leapOther h) (succeedsAs_leapKept h) under
  | false => exact succeedsAs_inTurn (succeedsAs_leapKept h) (succeedsAs_leapOther h) under

theorem isOver_of_remaining_eq_zero (h : s.remaining = 0) : s.isOver = true := by
  have none : s.kept.length ≤ 1 := by
    unfold Merging.remaining at h
    omega
  simp [Merging.isOver, none]

theorem succeedsAs_proceed (h : Compares R w.otherFirst) {turns : Nat} (pace : Nat) (gait : Gait)
    (under : Underway R xs s) (enough : s.remaining ≤ turns) :
    SucceedsAs (fun r => Arranges R xs r.1) (w.proceed turns pace gait s) := by
  induction turns generalizing pace gait s with
  | zero =>
    exact succeedsAs_ok (under.arranges (isOver_of_remaining_eq_zero (Nat.le_zero.1 enough)))
  | succ turns ih =>
    unfold Manner.proceed
    split
    case h_1 a a' as b bs _ _ keptLeft otherLeft =>
      refine succeedsAs_bind fun otherFirst compared => ?_
      have shorter : (s.takeOther 1).remaining ≤ turns ∧ (s.takeKept 1).remaining ≤ turns := by
        simp only [Merging.remaining, Merging.takeOther, Merging.takeKept, keptLeft, otherLeft,
          List.drop_succ_cons, List.drop_zero, List.length_cons] at enough ⊢
        omega
      cases otherFirst with
      | true =>
        exact ih _ _ (under.takeFirstOther h keptLeft otherLeft (h.of_true compared)) shorter.1
      | false =>
        exact ih _ _ (under.takeFirstKept h keptLeft otherLeft (h.of_false compared)) shorter.2
    case h_2 a a' as b bs keptRest otherRest =>
      refine succeedsAs_bind fun r leapt => ?_
      have advanced := succeedsAs_leapBoth h under r leapt
      dsimp only
      split
      · rename_i done
        exact succeedsAs_ok (advanced.underway.arranges done)
      · rename_i unfinished
        have fewer := advanced.fewer.resolve_left unfinished
        split
        · exact ih _ _ advanced.underway (by omega)
        · exact ih _ _ advanced.underway (by omega)
    case h_3 gait _ _ _ noStep noLeap =>
      refine succeedsAs_ok (under.arranges ?_)
      obtain ⟨merged, kept, other⟩ := s
      rcases kept with _ | ⟨a, _ | ⟨a', as⟩⟩
      · rfl
      · rfl
      · rcases other with _ | ⟨b, bs⟩
        · simp [Merging.isOver]
        · cases gait with
          | steps => exact (noStep _ _ _ _ _ _ _ rfl rfl rfl).elim
          | leaps => exact (noLeap _ _ _ _ _ rfl rfl rfl).elim

/-- Two runs are merged where the head of one goes before the other and the end of the other behind
it. -/
theorem succeedsAs_merge (h : Compares R w.otherFirst) (pace : Nat) {kept other : List α}
    (keptOrdered : kept.Pairwise R) (otherOrdered : other.Pairwise R)
    (first : ∀ b ∈ other.head?, ∀ a ∈ kept, R b a)
    (last : ∀ z ∈ kept.getLast?, ∀ b ∈ other, R b z) :
    SucceedsAs (fun r => Arranges R (kept ++ other) r.1) (w.merge pace kept other) := by
  have start : Underway R (kept ++ other) ⟨[], kept, other⟩ :=
    ⟨List.Perm.refl _, keptOrdered, otherOrdered, last⟩
  refine succeedsAs_proceed h pace _ (start.takeOther fun b hb => ?_) ?_
  · cases other with
    | nil => cases hb
    | cons c _ =>
      rw [List.mem_singleton.1 hb]
      exact first c rfl
  · simp only [Merging.remaining, Merging.takeOther, List.length_drop]
    omega

theorem Arranges.reverse (h : Arranges (fun a b => R b a) xs.reverse ys) :
    Arranges R xs ys.reverse :=
  ⟨(List.reverse_perm ys).trans (h.perm.trans (List.reverse_perm xs)),
    List.pairwise_reverse.2 h.ordered⟩

theorem succeedsAs_mergeByLength (h : Compares R precedes) (pace : Nat) {left right : List α}
    (leftOrdered : left.Pairwise R) (rightOrdered : right.Pairwise R)
    (first : ∀ b ∈ right.head?, ∀ a ∈ left, R b a)
    (last : ∀ z ∈ left.getLast?, ∀ b ∈ right, R b z) :
    SucceedsAs (fun r => Arranges R (left ++ right) r.1)
      (mergeByLength precedes pace left right) := by
  unfold mergeByLength
  split
  · exact succeedsAs_merge (w := ⟨fun b a => precedes b a, false⟩) h pace leftOrdered rightOrdered
      first last
  · refine succeedsAs_bind fun merged done => succeedsAs_ok ?_
    have arranged := succeedsAs_merge (w := ⟨fun a b => precedes b a, true⟩) h.flip pace
      (List.pairwise_reverse.2 rightOrdered) (List.pairwise_reverse.2 leftOrdered)
      (by simpa using last) (by simpa using first) merged done
    rw [← List.reverse_append] at arranged
    exact arranged.reverse

/-- What need not move in either of two runs goes around what is merged of them. -/
theorem Arranges.between {as bs cs ds : List α} (merged : Arranges R (bs ++ cs) ys)
    (left : (as ++ bs).Pairwise R) (right : (cs ++ ds).Pairwise R)
    (before : ∀ a ∈ as, ∀ c ∈ cs ++ ds, R a c) (behind : ∀ b ∈ bs, ∀ d ∈ ds, R b d) :
    Arranges R ((as ++ bs) ++ (cs ++ ds)) (as ++ ys ++ ds) := by
  obtain ⟨asOrdered, -, asBefore⟩ := List.pairwise_append.1 left
  obtain ⟨-, dsOrdered, csBefore⟩ := List.pairwise_append.1 right
  have moved : ∀ y ∈ ys, y ∈ bs ∨ y ∈ cs := fun y hy =>
    List.mem_append.1 (merged.perm.mem_iff.1 hy)
  have ysBefore : ∀ y ∈ ys, ∀ d ∈ ds, R y d := fun y hy d hd =>
    (moved y hy).elim (fun hy => behind y hy d hd) fun hy => csBefore y hy d hd
  have ysBehind : ∀ a ∈ as, ∀ y ∈ ys, R a y := fun a ha y hy =>
    (moved y hy).elim (asBefore a ha y) fun hy => before a ha y (List.mem_append_left _ hy)
  refine ⟨?_, List.pairwise_append.2
    ⟨List.pairwise_append.2 ⟨asOrdered, merged.ordered, ysBehind⟩, dsOrdered, fun a ha d hd => ?_⟩⟩
  · refine ((merged.perm.append_left as).append_right ds).trans ?_
    simp only [List.append_assoc]
    exact List.Perm.refl _
  · exact (List.mem_append.1 ha).elim
      (fun ha => before a ha d (List.mem_append_right _ hd)) fun ha => ysBefore a ha d hd

/-- The last of a list in order has all others before it. -/
theorem rel_of_mem_getLast? {a : α} (ordered : xs.Pairwise R) (last : xs.getLast? = some a) :
    ∀ x ∈ xs, x = a ∨ R x a := by
  obtain ⟨front, rfl⟩ := List.getLast?_eq_some_iff.1 last
  intro x hx
  rcases List.mem_append.1 hx with hx | hx
  · exact .inr ((List.pairwise_append.1 ordered).2.2 x hx a (List.mem_singleton_self a))
  · exact .inl (List.mem_singleton.1 hx)

theorem succeedsAs_mergeRuns (h : Compares R precedes) (pace : Nat) {left right : List α}
    (leftOrdered : left.Pairwise R) (rightOrdered : right.Pairwise R) :
    SucceedsAs (fun r => Arranges R (left ++ right) r.1) (mergeRuns precedes pace left right) := by
  unfold mergeRuns
  split
  case h_1 => exact succeedsAs_ok ⟨by simp, by simpa using leftOrdered⟩
  case h_2 b rest =>
    refine succeedsAs_bind fun low lowFound => ?_
    obtain ⟨before, behind⟩ := (succeedsAs_leap _ _ low lowFound).separates (R := R) (b := b)
      h.trans leftOrdered (fun belongs => h.of_false (eq_ok_of_not_map belongs))
      fun not_belongs => h.of_true (eq_ok_of_not_map not_belongs)
    have wholeLeft : left.take low ++ left.drop low = left := List.take_append_drop low left
    have far : ∀ a ∈ left.take low, ∀ c ∈ b :: rest, R a c := fun a ha =>
      h.head_first (before a ha) rightOrdered
    split
    · rename_i none
      rw [List.getLast?_eq_none_iff.1 none, List.append_nil] at wholeLeft
      rw [wholeLeft] at far
      exact succeedsAs_ok
        ⟨List.Perm.refl _, List.pairwise_append.2 ⟨leftOrdered, rightOrdered, far⟩⟩
    · rename_i a last
      refine succeedsAs_bind fun high highFound => ?_
      obtain ⟨beyond, inside⟩ := (succeedsAs_leap _ _ high highFound).separates
        (R := fun x y => R y x) (b := a) (fun first second => h.trans second first)
        (List.pairwise_reverse.2 rightOrdered)
        (fun belongs => h.of_false (eq_ok_of_not_map belongs))
        fun not_belongs => h.of_true (eq_ok_of_not_map not_belongs)
      simp only [List.take_reverse, List.drop_reverse, List.mem_reverse] at beyond inside
      have ordered : (left.take low ++ left.drop low).Pairwise R := by rwa [wholeLeft]
      have near : ∀ x ∈ left.drop low, ∀ d ∈ (b :: rest).drop ((b :: rest).length - high),
          R x d := fun x hx d hd =>
        (rel_of_mem_getLast? (List.pairwise_append.1 ordered).2.1 last x hx).elim
          (fun same => same ▸ beyond d hd) fun earlier => h.trans earlier (beyond d hd)
      split
      · rename_i all
        rw [Nat.sub_eq_zero_of_le all, List.drop_zero] at near
        refine succeedsAs_ok
          ⟨List.Perm.refl _, List.pairwise_append.2 ⟨leftOrdered, rightOrdered, ?_⟩⟩
        intro x hx
        rw [← wholeLeft] at hx
        exact (List.mem_append.1 hx).elim (far x) (near x)
      · rename_i some
        refine succeedsAs_bind fun merged done => succeedsAs_ok ?_
        obtain ⟨count, cut⟩ : ∃ count, (b :: rest).length - high = count + 1 :=
          Nat.exists_eq_succ_of_ne_zero (by omega)
        rw [cut] at done near inside ⊢
        have wholeRight := List.take_append_drop (count + 1) (b :: rest)
        have ordered' :
            ((b :: rest).take (count + 1) ++ (b :: rest).drop (count + 1)).Pairwise R := by
          rwa [wholeRight]
        have arranged := succeedsAs_mergeByLength h pace (List.pairwise_append.1 ordered).2.1
          (List.pairwise_append.1 ordered').1 (by simpa using behind)
          (by simpa [last] using inside) merged done
        have glued := arranged.between ordered ordered' (by simpa only [wholeRight] using far) near
        rwa [wholeLeft, wholeRight] at glued

end Merging

section Runs

variable {waiting : List (Waiting α)}

/-- Runs in order, of the elements of a list. -/
structure Await (R : α → α → Prop) (xs : List α) (waiting : List (Waiting α)) : Prop where
  perm : (gathered waiting).Perm xs
  ordered : ∀ run ∈ waiting, run.run.Pairwise R

theorem succeedsAs_mergeWaiting (h : Compares R precedes) (pace : Nat) {below above : Waiting α}
    (belowOrdered : below.run.Pairwise R) (aboveOrdered : above.run.Pairwise R) :
    SucceedsAs (fun r => Arranges R (below.run ++ above.run) r.1.run)
      (mergeWaiting precedes pace below above) :=
  succeedsAs_bind fun merged done =>
    succeedsAs_ok (succeedsAs_mergeRuns h pace belowOrdered aboveOrdered merged done)

/-- Two adjacent runs may be replaced by one of their elements. -/
theorem Await.replace {front rest : List (Waiting α)} {above below merged : Waiting α}
    (await : Await R xs (front ++ above :: below :: rest))
    (arranged : Arranges R (below.run ++ above.run) merged.run) :
    Await R xs (front ++ merged :: rest) := by
  obtain ⟨frontOrdered, restOrdered⟩ := List.forall_mem_append.1 await.ordered
  simp only [List.forall_mem_cons] at restOrdered
  refine ⟨List.Perm.trans ?_ await.perm, List.forall_mem_append.2
    ⟨frontOrdered, List.forall_mem_cons.2 ⟨arranged.ordered, restOrdered.2.2⟩⟩⟩
  simp only [gathered, List.flatMap_append, List.flatMap_cons]
  refine List.Perm.append_left _ ?_
  rw [← List.append_assoc above.run]
  exact (arranged.perm.trans List.perm_append_comm).append_right _

/-- Merges two adjacent runs and goes on with the one that they become. -/
theorem Await.succeedsAs_merge {β : Type} {P : β → Prop} (h : Compares R precedes) {pace : Nat}
    (front : List (Waiting α)) {rest : List (Waiting α)} {above below : Waiting α}
    (await : Await R xs (front ++ above :: below :: rest))
    {next : Waiting α × Nat → Except ε β}
    (goesOn : ∀ merged : Waiting α × Nat, Await R xs (front ++ merged.1 :: rest) →
      SucceedsAs P (next merged)) :
    SucceedsAs P (mergeWaiting precedes pace below above >>= next) := by
  obtain ⟨-, restOrdered⟩ := List.forall_mem_append.1 await.ordered
  simp only [List.forall_mem_cons] at restOrdered
  obtain ⟨aboveOrdered, belowOrdered, -⟩ := restOrdered
  refine succeedsAs_bind fun merged done => goesOn merged ?_
  exact await.replace (succeedsAs_mergeWaiting h pace belowOrdered aboveOrdered merged done)

theorem succeedsAs_settle (h : Compares R precedes) (level pace : Nat)
    (await : Await R xs waiting) :
    SucceedsAs (fun r => Await R xs r.1) (settle precedes level pace waiting) := by
  fun_induction settle precedes level pace waiting with
  | case1 pace above below rest deeper ih =>
    exact Await.succeedsAs_merge h [] await fun merged awaited => ih merged awaited
  | case2 => exact succeedsAs_ok ⟨await.perm, by simpa using await.ordered⟩
  | case3 => exact succeedsAs_ok ⟨await.perm, by simpa using await.ordered⟩
  | case4 => exact succeedsAs_ok await

theorem succeedsAs_collapse (h : Compares R precedes) (pace : Nat) (await : Await R xs waiting) :
    SucceedsAs (Arranges R xs) (collapse precedes pace waiting) := by
  have last : ∀ run : Waiting α, Await R xs [run] → Arranges R xs run.run := by
    intro run await
    refine ⟨?_, await.ordered run (List.mem_singleton_self _)⟩
    simpa [gathered] using await.perm
  fun_induction collapse precedes pace waiting with
  | case1 => exact succeedsAs_ok ⟨await.perm, List.Pairwise.nil⟩
  | case2 => exact succeedsAs_ok (last _ await)
  | case3 pace above below =>
    exact Await.succeedsAs_merge h [] await fun merged awaited =>
      succeedsAs_ok (last _ awaited)
  | case4 pace top middle bottom rest _ ih =>
    exact Await.succeedsAs_merge h [top] await fun merged awaited => ih merged awaited
  | case5 pace top middle bottom rest _ ih =>
    exact Await.succeedsAs_merge h [] await fun merged awaited => ih merged awaited

theorem succeedsAs_makeReady (h : Compares R precedes) (n pace count : Nat)
    (await : Await R xs waiting) :
    SucceedsAs (fun r => Await R xs r.1) (makeReady precedes n pace count waiting) := by
  unfold makeReady
  split
  · exact succeedsAs_ok await
  · exact succeedsAs_settle h _ pace await

theorem Await.of_rest_nil {rest : List α} (ordered : ∀ run ∈ waiting, run.run.Pairwise R)
    (whole : (gathered waiting ++ rest).Perm xs) (empty : rest = []) : Await R xs waiting := by
  rw [empty, List.append_nil] at whole
  exact ⟨whole, ordered⟩

theorem succeedsAs_arrangeFrom (h : Compares R precedes) (n : Nat) {turns : Nat} (start pace : Nat)
    {rest : List α} (ordered : ∀ run ∈ waiting, run.run.Pairwise R)
    (whole : (gathered waiting ++ rest).Perm xs) (enough : rest.length ≤ turns) :
    SucceedsAs (Arranges R xs) (arrangeFrom precedes n turns start pace waiting rest) := by
  induction turns generalizing start pace waiting rest with
  | zero =>
    have empty : rest = [] := List.length_eq_zero_iff.1 (Nat.le_zero.1 enough)
    refine succeedsAs_bind fun arranged done => succeedsAs_ok ?_
    rw [empty, List.append_nil]
    exact succeedsAs_collapse h pace (.of_rest_nil ordered whole empty) arranged done
  | succ turns ih =>
    rw [arrangeFrom]
    split
    · rename_i empty
      exact succeedsAs_collapse h pace (.of_rest_nil ordered whole (List.isEmpty_iff.1 empty))
    · rename_i nonempty
      refine succeedsAs_bind fun split cut => succeedsAs_bind fun ready settled => ?_
      have extended := succeedsAs_extendedRun h _ split cut
      have awaited := succeedsAs_makeReady h n pace _ ⟨List.Perm.refl _, ordered⟩ ready settled
      have shorter : split.2.length < rest.length := by
        have first := List.length_pos_iff.2 (extended.nonempty (by simpa using nonempty))
        have length := extended.perm.length_eq
        rw [List.length_append] at length
        omega
      have longer : (gathered (⟨start, split.1, 0⟩ :: ready.1) ++ split.2).Perm xs := by
        refine List.Perm.trans ?_ ((extended.perm.append_left _).trans whole)
        simp only [gathered, List.flatMap_cons]
        rw [← List.append_assoc]
        exact (List.perm_append_comm.trans (awaited.perm.append_right _)).append_right _
      exact ih _ _ (List.forall_mem_cons.2 ⟨extended.ordered, awaited.ordered⟩) longer (by omega)

end Runs

/-- A list that is arranged without a failure is put in order. -/
theorem succeedsAs_arrange (h : Compares R precedes) :
    SucceedsAs (Arranges R xs) (arrange precedes xs) :=
  succeedsAs_arrangeFrom h _ _ _ (List.forall_mem_nil _) (List.Perm.refl _) (Nat.le_refl _)

end Arrangement
end GeoConformance
