/-!
# Arranging short lists

A short list is put in order by insertion: the run with which it begins, turned round if it falls,
is extended by the other elements one after the other. A comparison may fail, and then the arranging
does.
-/

namespace GeoConformance

namespace Arrangement

variable {α : Type} {m : Type → Type} [Monad m]

/-- Puts an element behind those that it does not precede, halving the list to find the place. -/
def insertInto (precedes : α → α → m Bool) (a : α) (xs : List α) : m (List α) :=
  match h : xs.drop (xs.length / 2) with
  | [] => pure [a]
  | b :: rest =>
    have shorter : rest.length + xs.length / 2 < xs.length := by
      have := congrArg List.length h
      simp at this
      omega
    do
      if ← precedes a b then
        return (← insertInto precedes a (xs.take (xs.length / 2))) ++ b :: rest
      else return xs.take (xs.length / 2) ++ b :: (← insertInto precedes a rest)
termination_by xs.length
decreasing_by
  · simp
    omega
  · omega

/-- How far a list goes on rising, or falling, behind `last`, and what is left of it. -/
def splitRun (precedes : α → α → m Bool) (falling : Bool) (last : α) :
    List α → m (List α × List α)
  | [] => pure ([], [])
  | a :: rest => do
    if (← precedes a last) == falling then
      let split ← splitRun precedes falling a rest
      return (a :: split.1, split.2)
    else return ([], a :: rest)

/-- The rising run with which a list begins, a falling one being turned round, and what is left of
the list. A run falls only if each of its elements precedes the one before it. -/
def leadingRun (precedes : α → α → m Bool) : List α → m (List α × List α)
  | a :: b :: rest => do
    let falling ← precedes b a
    let split ← splitRun precedes falling b rest
    let run := a :: b :: split.1
    return (if falling then run.reverse else run, split.2)
  | xs => pure (xs, [])

/-- The leading run of a list, made longer by insertion until it has `least` elements or all. -/
def extendedRun (precedes : α → α → m Bool) (least : Nat) (xs : List α) :
    m (List α × List α) := do
  let split ← leadingRun precedes xs
  let missing := least - split.1.length
  let run ← (split.2.take missing).foldlM (fun placed a => insertInto precedes a placed) split.1
  return (run, split.2.drop missing)

theorem insertInto_perm (precedes : α → α → Bool) (a : α) (xs : List α) :
    (insertInto (m := Id) precedes a xs).Perm (a :: xs) := by
  fun_induction insertInto (m := Id) precedes a xs with
  | case1 xs h =>
    have : xs = [] := by
      have := congrArg List.length h
      simp at this
      exact List.length_eq_zero_iff.1 (by omega)
    subst this
    exact List.Perm.refl _
  | case2 xs b rest h _ ih₁ ih₂ =>
    have whole : xs.take (xs.length / 2) ++ b :: rest = xs := by
      rw [← h, List.take_append_drop]
    simp only [bind, pure]
    split
    · have := ih₁.append_right (b :: rest)
      rwa [List.cons_append, whole] at this
    · have := ((ih₂.cons b).trans (List.Perm.swap a b rest)).append_left (xs.take (xs.length / 2))
      refine this.trans (List.perm_middle.trans ?_)
      rw [whole]

theorem splitRun_append (precedes : α → α → Bool) (falling : Bool) (last : α) (xs : List α) :
    (splitRun (m := Id) precedes falling last xs).1 ++
      (splitRun (m := Id) precedes falling last xs).2 = xs := by
  induction xs generalizing last with
  | nil => rfl
  | cons a rest ih =>
    simp only [splitRun, bind, pure]
    split
    · exact congrArg (a :: ·) (ih a)
    · rfl

theorem leadingRun_perm (precedes : α → α → Bool) (xs : List α) :
    ((leadingRun (m := Id) precedes xs).1 ++ (leadingRun (m := Id) precedes xs).2).Perm xs := by
  match xs with
  | [] => exact List.Perm.refl _
  | [_] => exact List.Perm.refl _
  | a :: b :: rest =>
    have whole := splitRun_append precedes (precedes b a) b rest
    simp only [leadingRun, bind, pure]
    generalize splitRun (m := Id) precedes (precedes b a) b rest = split at whole ⊢
    rw [← whole]
    show List.Perm _ ((a :: b :: split.1) ++ split.2)
    refine List.Perm.append_right split.2 ?_
    split
    · exact List.reverse_perm _
    · exact List.Perm.refl _

theorem foldl_insertInto_perm (precedes : α → α → Bool) (placed xs : List α) :
    (xs.foldlM (m := Id) (fun placed a => insertInto precedes a placed) placed).Perm
      (placed ++ xs) := by
  induction xs generalizing placed with
  | nil =>
    rw [List.append_nil]
    exact List.Perm.refl placed
  | cons a rest ih =>
    refine (ih _).trans ?_
    refine ((insertInto_perm precedes a placed).append_right rest).trans ?_
    exact List.perm_middle.symm

theorem extendedRun_perm (precedes : α → α → Bool) (least : Nat) (xs : List α) :
    ((extendedRun (m := Id) precedes least xs).1 ++
      (extendedRun (m := Id) precedes least xs).2).Perm xs := by
  refine List.Perm.trans ?_ (leadingRun_perm precedes xs)
  simp only [extendedRun, bind, pure]
  refine ((foldl_insertInto_perm precedes _ _).append_right _).trans ?_
  rw [List.append_assoc, List.take_append_drop]

end Arrangement
end GeoConformance
