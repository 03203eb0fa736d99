import GeoConformance.Proofs.CleanCourse
import GeoConformance.Proofs.Standing

/-!
# Ledgers

The ledger of an agenda lists how each rule stands on each of its subjects. It goes on where
performing stops at a rule that has no outcome, so it says both whether there is a report and what
the report then lists. Ledgers on reordered rows are compared evaluation by evaluation.
-/

namespace GeoConformance

/-- A rule, its subject, and how the rule stands on it. -/
abbrev Entry := String × Value × Option Status

/-- What an entry says of a report, if it has an outcome. -/
def Entry.outcome? (e : Entry) : Option (String × Value × Status) :=
  e.2.2.map fun status => (e.1, e.2.1, status)

def Outcome.entry (o : Outcome) : Entry := (o.rule, o.subject, some o.status)

/-- A course is carried to its end just where every entry has an outcome, and these are then its
outcomes. -/
structure Course.Follows (k : Course) (ledger : List Entry) : Prop where
  ending : k.ending = .ok () ↔ ∀ e ∈ ledger, e.2.2.isSome = true
  outcomes : k.ending = .ok () → k.outcomes.map Outcome.entry = ledger

namespace Course

variable {k k' : Course} {ledger ledger' : List Entry} {os : List Outcome}

theorem Follows.after (h : k.Follows ledger) (os : List Outcome) :
    (k.after os).Follows (os.map Outcome.entry ++ ledger) := by
  constructor
  · rw [ending_after, h.ending, List.forall_mem_append]
    refine ⟨fun others => ⟨?_, others⟩, And.right⟩
    rw [List.forall_mem_map]
    exact fun _ _ => rfl
  · intro ended
    rw [outcomes_after, List.map_append, h.outcomes ended]

/-- What would come after a course that broke off does not matter. -/
theorem Follows.append (h : k.Follows ledger) (broken : k.ending ≠ .ok ()) (more : List Entry) :
    k.Follows (ledger ++ more) := by
  refine ⟨⟨fun ended => absurd ended broken, fun all => ?_⟩, fun ended => absurd ended broken⟩
  exact h.ending.2 fun e he => all e (List.mem_append_left _ he)

theorem follows_endedBy {f : Failure} {d : Deadline} (h : ∃ e ∈ ledger, e.2.2 = none) :
    (endedBy f d).Follows ledger := by
  have unfinished : (endedBy f d).ending ≠ .ok () := by simp
  refine ⟨⟨fun ended => absurd ended unfinished, fun all => ?_⟩,
    fun ended => absurd ended unfinished⟩
  obtain ⟨e, he, none⟩ := h
  have some := all e he
  rw [none] at some
  cases some

/-- Courses with the same ledger up to order end together, with the same outcomes up to order. -/
theorem Follows.perm (h : k.Follows ledger) (h' : k'.Follows ledger') (perm : ledger.Perm ledger') :
    (k.ending = .ok () ↔ k'.ending = .ok ()) ∧
      (k.ending = .ok () → (k.outcomes.map fun o => (o.rule, o.subject, o.status)).Perm
        (k'.outcomes.map fun o => (o.rule, o.subject, o.status))) := by
  have seen : ∀ os : List Outcome, (os.map fun o => (o.rule, o.subject, o.status)) =
      (os.map Outcome.entry).filterMap Entry.outcome? := by
    intro os
    rw [List.filterMap_map, ← List.filterMap_eq_map]
    rfl
  have together : k.ending = .ok () ↔ k'.ending = .ok () := by
    rw [h.ending, h'.ending]
    simp only [perm.mem_iff]
  refine ⟨together, fun ended => ?_⟩
  rw [seen, seen, h.outcomes ended, h'.outcomes (together.1 ended)]
  exact perm.filterMap _

end Course

namespace Agenda

variable {c c' : Catalog} {d : Deadline}

def ledger (c : Catalog) (d : Deadline) : Agenda → List Entry
  | .done => []
  | .skip rule _ rest => (rule, .null, some .skip) :: rest.ledger c d
  | .evaluate rule subject check rest => (rule, subject, check.standing c d) :: rest.ledger c d
  | .gather rules subject check found otherwise =>
    match check.resultIn c d with
    | .ok a => (found a).ledger c d
    | .error f => (rules.map fun rule => (rule, subject, f.status?)) ++ otherwise.ledger c d

/-- Either a check has an outcome, and that is its entry, or the entry has none. -/
theorem outcomeOf_standing (rule : String) (subject : Value) (check : Check Unit) :
    (∃ o, Recording.outcomeOf rule subject (check.resultIn c d) = .ok o ∧
      o.entry = (rule, subject, check.standing c d)) ∨
    ∃ f, Recording.outcomeOf rule subject (check.resultIn c d) = .error f ∧
      check.standing c d = none := by
  unfold Check.standing
  cases check.resultIn c d with
  | ok u => exact .inl ⟨_, rfl, rfl⟩
  | error f =>
    cases verdict : f.verdict? with
    | some v =>
      refine .inl ⟨⟨rule, subject, v⟩, by simp only [Recording.outcomeOf, verdict], ?_⟩
      simp [Outcome.entry, Outcome.status, Failure.status?, verdict]
    | none =>
      refine .inr ⟨f, by simp only [Recording.outcomeOf, verdict], ?_⟩
      simp [Failure.status?, verdict]

theorem follows_ledger (a : Agenda) : (a.courseIn c d).Follows (a.ledger c d) := by
  induction a with
  | done => exact ⟨by simp [courseIn, course, ledger], fun _ => rfl⟩
  | skip rule reason rest ih => exact ih.after [⟨rule, .null, .skip reason⟩]
  | evaluate rule subject check rest ih =>
    rw [courseIn_evaluate, ledger]
    rcases outcomeOf_standing (c := c) (d := d) rule subject check with
      ⟨o, recorded, entry⟩ | ⟨f, recorded, none⟩
    · rw [recorded, ← entry]
      exact ih.after [o]
    · rw [recorded]
      exact Course.follows_endedBy ⟨_, List.mem_cons_self, none⟩
  | gather rules subject check found otherwise ihFound ihOtherwise =>
    rw [courseIn_gather, ledger]
    cases check.resultIn c d with
    | ok a => exact ihFound a
    | error f =>
      simp only
      cases rules with
      | nil => exact ihOtherwise.after []
      | cons rule more =>
        cases verdict : f.verdict? with
        | none =>
          simp only [Recording.outcomesOf, verdict]
          exact Course.follows_endedBy ⟨_, List.mem_cons_self, by simp [Failure.status?, verdict]⟩
        | some v =>
          have entries := ihOtherwise.after ((rule :: more).map fun rule => ⟨rule, subject, v⟩)
          rw [List.map_map] at entries
          simp only [Recording.outcomesOf, verdict, Failure.status?, Option.map_some]
          exact entries

theorem ledger_evaluateAll (evaluations : List Evaluation) (rest : Agenda) :
    (evaluateAll evaluations rest).ledger c d =
      (evaluations.map fun e => (e.rule, e.subject, e.check.standing c d)) ++ rest.ledger c d := by
  induction evaluations with
  | nil => rfl
  | cons e more ih => exact congrArg _ ih

theorem perm_evaluate {rule : String} {subject : Value} {check : Check Unit} {rest : Agenda}
    (same : check.standing c d = check.standing c' d)
    (h : (rest.ledger c d).Perm (rest.ledger c' d)) :
    ((evaluate rule subject check rest).ledger c d).Perm
      ((evaluate rule subject check rest).ledger c' d) := by
  rw [ledger, ledger, same]
  exact h.cons _

theorem perm_evaluateAll {evaluations evaluations' : List Evaluation} {rest rest' : Agenda}
    (perm : evaluations.Perm evaluations')
    (same : ∀ e ∈ evaluations, e.check.standing c d = e.check.standing c' d)
    (h : (rest.ledger c d).Perm (rest'.ledger c' d)) :
    ((evaluateAll evaluations rest).ledger c d).Perm
      ((evaluateAll evaluations' rest').ledger c' d) := by
  rw [ledger_evaluateAll, ledger_evaluateAll]
  refine List.Perm.append ?_ h
  rw [List.map_congr_left fun e he => by rw [same e he]]
  exact perm.map _

theorem perm_gather {α : Type} {R : α → α → Prop} {rules : List String} {subject : Value}
    {check : Check α} {found found' : α → Agenda} {otherwise otherwise' : Agenda}
    (alike : Check.Alike c c' d R check check)
    (hFound : ∀ a b, check.resultIn c d = .ok a → R a b →
      ((found a).ledger c d).Perm ((found' b).ledger c' d))
    (hOtherwise : (otherwise.ledger c d).Perm (otherwise'.ledger c' d)) :
    ((gather rules subject check found otherwise).ledger c d).Perm
      ((gather rules subject check found' otherwise').ledger c' d) := by
  unfold Check.Alike at alike
  rw [ledger, ledger]
  revert hFound
  generalize check.resultIn c d = x at alike
  generalize check.resultIn c' d = y at alike
  intro hFound
  cases alike with
  | ok related => exact hFound _ _ rfl related
  | error same =>
    simp only [same]
    exact hOtherwise.append_left _

/-- What is gathered by asking for nothing that has an order is one and the same. -/
theorem perm_gather_blind {α : Type} {rules : List String} {subject : Value} {check : Check α}
    {found found' : α → Agenda} {otherwise otherwise' : Agenda} (h : c.Reorders c')
    (once : c.ListsOnce) (blind : check.AsksOnly Query.IsOrderBlind)
    (hFound : ∀ a, check.resultIn c d = .ok a →
      ((found a).ledger c d).Perm ((found' a).ledger c' d))
    (hOtherwise : (otherwise.ledger c d).Perm (otherwise'.ledger c' d)) :
    ((gather rules subject check found otherwise).ledger c d).Perm
      ((gather rules subject check found' otherwise').ledger c' d) := by
  refine perm_gather (blind.alike h once) (fun a b result same => ?_) hOtherwise
  cases same
  exact hFound a result

end Agenda

namespace Validation

variable {c c' : Catalog} {d : Deadline}

def ledger (c : Catalog) (d : Deadline) (suites : List Suite) : List Entry :=
  suites.flatMap fun suite => suite.agenda.ledger c d

theorem follows_ledger (suites : List Suite) :
    (course (.undisturbed c) suites d).Follows (ledger c d suites) := by
  induction suites with
  | nil => exact ⟨by simp [course, ledger], fun _ => rfl⟩
  | cons suite rest ih =>
    have first := suite.agenda.follows_ledger (c := c) (d := d)
    have left := suite.agenda.deadline_courseIn (c := c) (d := d)
    unfold Agenda.courseIn at first left
    rw [ledger, List.flatMap_cons]
    simp only [course]
    cases ended : (suite.agenda.course (.undisturbed c) d).ending with
    | ok u =>
      rw [← first.outcomes ended, left]
      exact ih.after _
    | error f => exact first.append (by simp [ended]) _

end Validation
end GeoConformance
