import GeoConformance.Arrangement.Insertion
import GeoConformance.Arrangement.Merge

/-!
# Arranging by comparisons

A list is put in order run by run: short runs are extended by insertion, and adjacent runs are
merged as soon as the boundary behind them is more important than the one between them. Under a weak
order every stable way to sort gives this order. Where some elements have no place of their own, or where
a comparison fails, it matters which comparisons are made, and these are the ones.
-/

namespace GeoConformance

namespace Arrangement

variable {α : Type} {m : Type → Type} [Monad m]

/-- A run that waits to be merged: where it starts in the list, its elements in order, and the level
of the boundary behind it, once it is known. -/
structure Waiting (α : Type) where
  start : Nat
  run : List α
  level : Nat

/-- The least length of the runs of a list: all of a short list, and else between 32 and 64 such
that the number of runs is close to a power of two. -/
def leastRun (n : Nat) : Nat :=
  if n < 64 then n else halve n 0
where
  /-- The leading binary digits of a number, rounded up; `remainder` is 1 if a digit was dropped
  before that was not 0. -/
  halve (n remainder : Nat) : Nat :=
    if n < 64 then n + remainder else halve (n / 2) (max remainder (n % 2))

/-- The first binary digit in which two fractions of `n` differ, given the doubles of their
numerators; there is one among the first `digits` of them. -/
def firstDifference (n : Nat) : (digits a b : Nat) → Nat
  | 0, _, _ => 0
  | digits + 1, a, b =>
    if n ≤ a then firstDifference n digits (2 * (a - n)) (2 * (b - n)) + 1
    else if n ≤ b then 1
    else firstDifference n digits (2 * a) (2 * b) + 1

/-- The level of the boundary between two adjacent runs in a list of `n` elements, the outermost
being 1: that of their midpoints. -/
def boundaryLevel (n start left right : Nat) : Nat :=
  firstDifference n (n + 1) (2 * start + left) (2 * start + 2 * left + right)

/-- Merges a run with the one that waits above it. -/
def mergeWaiting (precedes : α → α → m Bool) (pace : Nat) (below above : Waiting α) :
    m (Waiting α × Nat) := do
  let merged ← mergeRuns precedes pace below.run above.run
  return (⟨below.start, merged.1, above.level⟩, merged.2)

/-- Merges the topmost runs as long as the boundary between them is deeper than `level`, and then
gives the topmost one this level. -/
def settle (precedes : α → α → m Bool) (level pace : Nat) :
    List (Waiting α) → m (List (Waiting α) × Nat)
  | above :: below :: rest => do
    if level < below.level then
      let merged ← mergeWaiting precedes pace below above
      settle precedes level merged.2 (merged.1 :: rest)
    else return ({ above with level } :: below :: rest, pace)
  | [last] => return ([{ last with level }], pace)
  | [] => return ([], pace)
termination_by waiting => waiting.length

/-- Merges all runs from the top, the lower two of three first if the lowest is the shortest. -/
def collapse (precedes : α → α → m Bool) (pace : Nat) : List (Waiting α) → m (List α)
  | [] => return []
  | [last] => return last.run
  | [above, below] => do
    let merged ← mergeWaiting precedes pace below above
    return merged.1.run
  | top :: middle :: bottom :: rest => do
    if bottom.run.length < top.run.length then
      let merged ← mergeWaiting precedes pace bottom middle
      collapse precedes merged.2 (top :: merged.1 :: rest)
    else
      let merged ← mergeWaiting precedes pace middle top
      collapse precedes merged.2 (merged.1 :: bottom :: rest)
termination_by waiting => waiting.length

/-- Settles the waiting runs before one of `count` elements comes upon them. -/
def makeReady (precedes : α → α → m Bool) (n pace count : Nat) (waiting : List (Waiting α)) :
    m (List (Waiting α) × Nat) :=
  match waiting with
  | [] => return ([], pace)
  | top :: _ => settle precedes (boundaryLevel n top.start top.run.length count) pace waiting

/-- Goes through the rest of a list of `n` elements run by run. Every turn uses up an element, so
what is left after the last one is empty. -/
def arrangeFrom (precedes : α → α → m Bool) (n : Nat) :
    (turns : Nat) → (start pace : Nat) → List (Waiting α) → List α → m (List α)
  | 0, _, pace, waiting, rest => return (← collapse precedes pace waiting) ++ rest
  | turns + 1, start, pace, waiting, rest => do
    if rest.isEmpty then collapse precedes pace waiting
    else
      let split ← extendedRun precedes (leastRun n) rest
      let ready ← makeReady precedes n pace split.1.length waiting
      arrangeFrom precedes n turns (start + split.1.length) ready.2
        (⟨start, split.1, 0⟩ :: ready.1) split.2

/-- The elements of the waiting runs, in no order that matters. -/
def gathered (waiting : List (Waiting α)) : List α := waiting.flatMap Waiting.run

theorem mergeWaiting_perm (precedes : α → α → Bool) (pace : Nat) (below above : Waiting α) :
    (mergeWaiting (m := Id) precedes pace below above).1.run.Perm (above.run ++ below.run) :=
  (mergeRuns_perm precedes pace _ _).trans List.perm_append_comm

theorem settle_perm (precedes : α → α → Bool) (level pace : Nat) (waiting : List (Waiting α)) :
    (gathered (settle (m := Id) precedes level pace waiting).1).Perm (gathered waiting) := by
  fun_induction settle (m := Id) precedes level pace waiting with
  | case1 pace above below rest _ ih =>
    refine (ih _).trans ?_
    simp only [gathered, List.flatMap_cons, ← List.append_assoc]
    exact (mergeWaiting_perm precedes pace below above).append_right _
  | case2 => exact List.Perm.refl _
  | case3 => exact List.Perm.refl _
  | case4 => exact List.Perm.refl _

theorem collapse_perm (precedes : α → α → Bool) (pace : Nat) (waiting : List (Waiting α)) :
    (collapse (m := Id) precedes pace waiting).Perm (gathered waiting) := by
  fun_induction collapse (m := Id) precedes pace waiting with
  | case1 => exact List.Perm.refl _
  | case2 =>
    simp only [gathered, List.flatMap_cons, List.flatMap_nil, List.append_nil]
    exact List.Perm.refl _
  | case3 pace above below =>
    simp only [gathered, List.flatMap_cons, List.flatMap_nil, List.append_nil]
    exact mergeWaiting_perm precedes pace below above
  | case4 pace top middle bottom rest _ ih =>
    refine (ih _).trans ?_
    simp only [gathered, List.flatMap_cons, ← List.append_assoc middle.run]
    exact ((mergeWaiting_perm precedes pace bottom middle).append_right _).append_left _
  | case5 pace top middle bottom rest _ ih =>
    refine (ih _).trans ?_
    simp only [gathered, List.flatMap_cons, ← List.append_assoc top.run]
    exact (mergeWaiting_perm precedes pace middle top).append_right _

theorem makeReady_perm (precedes : α → α → Bool) (n pace count : Nat)
    (waiting : List (Waiting α)) :
    (gathered (makeReady (m := Id) precedes n pace count waiting).1).Perm (gathered waiting) := by
  unfold makeReady
  split
  · exact List.Perm.refl _
  · exact settle_perm _ _ _ _

theorem arrangeFrom_perm (precedes : α → α → Bool) (n turns start pace : Nat)
    (waiting : List (Waiting α)) (rest : List α) :
    (arrangeFrom (m := Id) precedes n turns start pace waiting rest).Perm
      (gathered waiting ++ rest) := by
  induction turns generalizing start pace waiting rest with
  | zero => exact (collapse_perm precedes pace waiting).append_right rest
  | succ turns ih =>
    simp only [arrangeFrom, bind]
    split
    · rename_i empty
      rw [List.isEmpty_iff.1 empty, List.append_nil]
      exact collapse_perm precedes pace waiting
    · refine (ih _ _ _ _).trans ?_
      simp only [gathered, List.flatMap_cons]
      refine (List.perm_append_comm.append_right _).trans ?_
      rw [List.append_assoc]
      exact (makeReady_perm precedes n pace _ waiting).append
        (extendedRun_perm precedes (leastRun n) rest)

end Arrangement

/-- The first merge leaps as soon as a stretch is worth it. -/
def arrange {α : Type} {m : Type → Type} [Monad m] (precedes : α → α → m Bool) (xs : List α) :
    m (List α) :=
  Arrangement.arrangeFrom precedes xs.length xs.length 0 Arrangement.Manner.worthwhile [] xs

theorem arrange_perm {α : Type} (precedes : α → α → Bool) (xs : List α) :
    (arrange (m := Id) precedes xs).Perm xs :=
  Arrangement.arrangeFrom_perm precedes _ _ _ _ [] xs

end GeoConformance
