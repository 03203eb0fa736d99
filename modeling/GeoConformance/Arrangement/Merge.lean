/-!
# Merging two runs

Two runs in order are merged element by element. Once one of them has gone first often enough in a
row, the merge leaps: it looks for the end of a whole stretch at strides that double, and comes back
to single steps when the stretches are short. Leaping pays at once if it has paid before, which is
what the pace stands for.
-/

namespace GeoConformance

namespace Arrangement

variable {α : Type} {m : Type → Type} [Monad m]

/-- Doubles a stride as long as the elements at it belong: the last one that did, and the next. -/
def stride (belongs : Nat → m Bool) (limit last next : Nat) : m (Nat × Nat) :=
  if next < limit then do
    if ← belongs next then stride belongs limit next (2 * next + 1) else return (last, next)
  else return (last, limit)
termination_by limit - next

/-- The end of those that belong, known to lie between two places. The middle of an even number of
places is the one nearer to the true end of the run. -/
def bisect (belongs : Nat → m Bool) (backward : Bool) (low high : Nat) : m Nat :=
  if low < high then do
    let middle := low + (high - low - backward.toNat) / 2
    if ← belongs middle then bisect belongs backward (middle + 1) high
    else bisect belongs backward low middle
  else return low
termination_by high - low
decreasing_by
  · omega
  · cases backward <;> simp <;> omega

/-- How many elements at the head of a list belong, those behind the first that does not being left
out. `backward` says that the list is a run read from its end. -/
def leap (belongs : α → m Bool) (backward : Bool) (xs : List α) : m Nat := do
  let belongsAt (i : Nat) : m Bool := (xs[i]?.map belongs).getD (pure false)
  if ← belongsAt 0 then
    let (last, next) ← stride belongsAt xs.length 0 1
    bisect belongsAt backward (last + 1) next
  else return 0

/-- A merge under way. It is over when one list is used up or only one element of `kept` is left,
which is known to be the last of all. -/
structure Merging (α : Type) where
  merged : List α
  kept : List α
  other : List α

namespace Merging

def isOver (s : Merging α) : Bool := s.kept.length ≤ 1 || s.other.isEmpty

def result (s : Merging α) : List α := s.merged ++ s.other ++ s.kept

def elements (s : Merging α) : List α := s.merged ++ s.kept ++ s.other

def takeKept (s : Merging α) (count : Nat) : Merging α :=
  ⟨s.merged ++ s.kept.take count, s.kept.drop count, s.other⟩

def takeOther (s : Merging α) (count : Nat) : Merging α :=
  ⟨s.merged ++ s.other.take count, s.kept, s.other.drop count⟩

end Merging

/-- How often in a row one run has gone first, or that the merge leaps. -/
inductive Gait
  | steps (kept other : Nat)
  | leaps

/-- How two runs are merged: whether an element of `other` goes before one of `kept`, and whether
they are read from their ends. -/
structure Manner (α : Type) (m : Type → Type) where
  otherFirst : α → α → m Bool
  backward : Bool

namespace Manner

/-- A stretch from `kept` and the element of `other` that follows it; also the stretch's length. -/
def leapKept (w : Manner α m) (s : Merging α) : m (Merging α × Nat) :=
  match s.other with
  | [] => return (s, 0)
  | b :: _ => do
    let count ← leap (fun a => not <$> w.otherFirst b a) w.backward s.kept
    let s := s.takeKept count
    return (if s.isOver then s else s.takeOther 1, count)

/-- A stretch from `other` and the element of `kept` that follows it; also the stretch's length. -/
def leapOther (w : Manner α m) (s : Merging α) : m (Merging α × Nat) :=
  match s.kept with
  | [] => return (s, 0)
  | a :: _ => do
    let count ← leap (fun b => w.otherFirst b a) w.backward s.other
    let s := s.takeOther count
    return (if s.isOver then s else s.takeKept 1, count)

/-- A stretch from each run, and the length of the longer one. -/
def leapBoth (w : Manner α m) (s : Merging α) : m (Merging α × Nat) := do
  let (s, first) ← if w.backward then w.leapOther s else w.leapKept s
  if s.isOver then return (s, first)
  let (s, second) ← if w.backward then w.leapKept s else w.leapOther s
  return (s, max first second)

/-- A stretch of this length is worth leaping for. -/
def worthwhile : Nat := 7

/-- Goes on until the merge is over; every turn uses up an element, so `turns` bounds their number.
Also gives the pace that is left. -/
def proceed (w : Manner α m) : (turns : Nat) → (pace : Nat) → Gait → Merging α → m (List α × Nat)
  | 0, pace, _, s => return (s.result, pace)
  | turns + 1, pace, gait, s =>
    match s.kept, s.other, gait with
    | a :: _ :: _, b :: _, .steps keptWon otherWon => do
      if ← w.otherFirst b a then
        w.proceed turns pace (if pace ≤ otherWon + 1 then .leaps else .steps 0 (otherWon + 1))
          (s.takeOther 1)
      else
        w.proceed turns pace (if pace ≤ keptWon + 1 then .leaps else .steps (keptWon + 1) 0)
          (s.takeKept 1)
    | _ :: _ :: _, _ :: _, .leaps => do
      let (s, longest) ← w.leapBoth s
      if s.isOver then return (s.result, pace)
      else if worthwhile ≤ longest then w.proceed turns (max 1 (pace - 1)) .leaps s
      else w.proceed turns (pace + 1) (.steps 0 0) s
    | _, _, _ => return (s.result, pace)

/-- Merges two lists, the first element of `other` going first. -/
def merge (w : Manner α m) (pace : Nat) (kept other : List α) : m (List α × Nat) :=
  w.proceed (kept.length + other.length) pace (.steps 0 0) ((Merging.mk [] kept other).takeOther 1)

end Manner

/-- Merges two runs, the shorter one being kept aside. -/
def mergeByLength (precedes : α → α → m Bool) (pace : Nat) (left right : List α) :
    m (List α × Nat) := do
  if left.length ≤ right.length then
    Manner.merge ⟨fun b a => precedes b a, false⟩ pace left right
  else
    let merged ← Manner.merge ⟨fun a b => precedes b a, true⟩ pace right.reverse left.reverse
    return (merged.1.reverse, merged.2)

/-- Merges a run with the one behind it. What need not move is left out. -/
def mergeRuns (precedes : α → α → m Bool) (pace : Nat) (left right : List α) :
    m (List α × Nat) := do
  match right with
  | [] => return (left, pace)
  | b :: _ =>
    let low ← leap (fun a => not <$> precedes b a) false left
    match (left.drop low).getLast? with
    | none => return (left ++ right, pace)
    | some a =>
      let high ← leap (fun c => not <$> precedes c a) true right.reverse
      if right.length ≤ high then return (left ++ right, pace)
      else
        let merged ← mergeByLength precedes pace (left.drop low) (right.take (right.length - high))
        return (left.take low ++ merged.1 ++ right.drop (right.length - high), merged.2)

theorem Merging.result_perm (s : Merging α) : s.result.Perm s.elements := by
  simp only [result, elements, List.append_assoc]
  exact List.perm_append_comm.append_left s.merged

theorem Merging.takeKept_perm (s : Merging α) (count : Nat) :
    (s.takeKept count).elements.Perm s.elements := by
  simp only [takeKept, elements, List.append_assoc]
  refine List.Perm.append_left s.merged ?_
  rw [← List.append_assoc, List.take_append_drop]

theorem Merging.takeOther_perm (s : Merging α) (count : Nat) :
    (s.takeOther count).elements.Perm s.elements := by
  simp only [takeOther, elements, List.append_assoc]
  refine List.Perm.append_left s.merged ?_
  refine List.perm_append_comm_assoc _ _ _ |>.trans ?_
  rw [List.take_append_drop]

theorem Manner.leapKept_perm (w : Manner α Id) (s : Merging α) :
    (w.leapKept s).1.elements.Perm s.elements := by
  simp only [leapKept]
  split
  · exact List.Perm.refl _
  · simp only [bind, pure]
    split
    · exact s.takeKept_perm _
    · exact ((s.takeKept _).takeOther_perm 1).trans (s.takeKept_perm _)

theorem Manner.leapOther_perm (w : Manner α Id) (s : Merging α) :
    (w.leapOther s).1.elements.Perm s.elements := by
  simp only [leapOther]
  split
  · exact List.Perm.refl _
  · simp only [bind, pure]
    split
    · exact s.takeOther_perm _
    · exact ((s.takeOther _).takeKept_perm 1).trans (s.takeOther_perm _)

theorem Manner.leapBoth_perm (w : Manner α Id) (s : Merging α) :
    (w.leapBoth s).1.elements.Perm s.elements := by
  simp only [leapBoth, bind, pure]
  cases w.backward
  · have first := w.leapKept_perm s
    simp only [Bool.false_eq_true, if_false]
    generalize w.leapKept s = p at first ⊢
    obtain ⟨t, count⟩ := p
    dsimp only
    split
    · exact first
    · exact (w.leapOther_perm t).trans first
  · have first := w.leapOther_perm s
    simp only [if_true]
    generalize w.leapOther s = p at first ⊢
    obtain ⟨t, count⟩ := p
    dsimp only
    split
    · exact first
    · exact (w.leapKept_perm t).trans first

theorem Manner.proceed_perm (w : Manner α Id) (turns pace : Nat) (gait : Gait) (s : Merging α) :
    (w.proceed turns pace gait s).1.Perm s.elements := by
  induction turns generalizing pace gait s with
  | zero => exact s.result_perm
  | succ turns ih =>
    simp only [proceed, bind, pure]
    split
    · split
      · exact (ih _ _ _).trans (s.takeOther_perm 1)
      · exact (ih _ _ _).trans (s.takeKept_perm 1)
    · have leapt := w.leapBoth_perm s
      generalize w.leapBoth s = p at leapt ⊢
      obtain ⟨t, longest⟩ := p
      dsimp only
      split
      · exact t.result_perm.trans leapt
      · split
        · exact (ih _ _ t).trans leapt
        · exact (ih _ _ t).trans leapt
    · exact s.result_perm

theorem Manner.merge_perm (w : Manner α Id) (pace : Nat) (kept other : List α) :
    (w.merge pace kept other).1.Perm (kept ++ other) :=
  (w.proceed_perm _ _ _ _).trans (Merging.takeOther_perm ⟨[], kept, other⟩ 1)

theorem mergeByLength_perm (precedes : α → α → Bool) (pace : Nat) (left right : List α) :
    (mergeByLength (m := Id) precedes pace left right).1.Perm (left ++ right) := by
  simp only [mergeByLength, bind, pure]
  split
  · exact Manner.merge_perm _ _ _ _
  · refine (List.reverse_perm _).trans ((Manner.merge_perm _ _ _ _).trans ?_)
    rw [← List.reverse_append]
    exact List.reverse_perm _

theorem mergeRuns_perm (precedes : α → α → Bool) (pace : Nat) (left right : List α) :
    (mergeRuns (m := Id) precedes pace left right).1.Perm (left ++ right) := by
  simp only [mergeRuns]
  split
  · simp only [pure, List.append_nil]
    exact List.Perm.refl _
  · simp only [bind, pure]
    split
    · exact List.Perm.refl _
    · split
      · exact List.Perm.refl _
      · rename_i right b rest a _ _
        generalize leap (m := Id) _ false left = low
        generalize leap (m := Id) _ true _ = high
        refine (((mergeByLength_perm precedes pace _ _).append_left _).append_right _).trans ?_
        rw [← List.append_assoc, List.take_append_drop, List.append_assoc, List.take_append_drop]

end Arrangement
end GeoConformance
