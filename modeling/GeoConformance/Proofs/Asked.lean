import GeoConformance.Proofs.Asking
import GeoConformance.Proofs.Faulted

/-!
# The queries of a run

A validation sees of its session what the queries tell that it asks, and nothing else. What holds of
all of them is shown step by step, where each step may rely on what was found before it.
-/

namespace GeoConformance

variable {s s' : Session} {d d' : Deadline} {P : Query → Prop} {I : Deadline → Prop}

namespace Check

variable {α β : Type} {k : Check α}

/-- Sessions that answer the queries of a check alike are the same to it. -/
theorem run_eq_of_asked (kept : s.Keeps I) (at_d : I d)
    (h : ∀ q ∈ k.asked s d, ∀ d, I d → s'.ask q d = s.ask q d) : k.run s' d = k.run s d := by
  induction k generalizing d with
  | done a => rfl
  | stop f => rfl
  | ask q next ih =>
    rw [asked, List.forall_mem_cons] at h
    obtain ⟨first, later⟩ := h
    have left : I (s.ask q d).2 := kept q d at_d
    simp only [run, first d at_d]
    generalize s.ask q d = reply at left later ⊢
    obtain ⟨result, after⟩ := reply
    cases result with
    | ok r => exact ih r left later
    | error f => rfl

/-- A check that comes to a result under faults has met none of them. -/
theorem resultIn_of_run {c : Catalog} {looks : List QueryPattern} {faults : List Fault} {a : α}
    (h : (k.run ⟨.database c looks, faults⟩ d').1 = .ok a) : k.resultIn c d = .ok a := by
  induction k generalizing d' with
  | done b => exact h
  | stop f => cases h
  | ask q next ih =>
    simp only [run] at h
    simp only [resultIn, run, Session.undisturbed_ask]
    cases replied : (⟨.database c looks, faults⟩ : Session).ask q d' with
    | mk result left =>
      rw [replied] at h
      cases result with
      | ok r =>
        rw [(Session.ask_eq_ok (congrArg Prod.fst replied)).2.2]
        exact ih r h
      | error f => cases h

/-- Whenever a check is run in a session, it asks only queries with a property. -/
def Asks (P : Query → Prop) (s : Session) (k : Check α) : Prop := ∀ d, ∀ q ∈ k.asked s d, P q

theorem AsksOnly.asks (h : k.AsksOnly P) : k.Asks P s := by
  intro d
  induction k generalizing d with
  | done a => exact List.forall_mem_nil _
  | stop f => exact List.forall_mem_nil _
  | ask q next ih =>
    obtain ⟨first, later⟩ := h
    rw [asked, List.forall_mem_cons]
    refine ⟨first, ?_⟩
    split
    · exact ih _ (later _) _
    · exact List.forall_mem_nil _

theorem asked_bind (k : Check α) (next : α → Check β) (d : Deadline) :
    (k >>= next).asked s d = k.asked s d ++
      match k.run s d with
      | (.ok a, d) => (next a).asked s d
      | (.error _, _) => [] := by
  induction k generalizing d with
  | done a => rfl
  | stop f => rfl
  | ask q after ih =>
    change (Check.ask q fun reply => after reply >>= next).asked s d = _
    simp only [asked, run, List.cons_append]
    congr 1
    generalize s.ask q d = reply
    obtain ⟨result, left⟩ := reply
    cases result with
    | ok r => exact ih r left
    | error f => rfl

theorem Asks.bind {next : α → Check β} (h : k.Asks P s)
    (hn : ∀ d a, (k.run s d).1 = .ok a → (next a).Asks P s) : (k >>= next).Asks P s := by
  intro d
  rw [asked_bind, List.forall_mem_append]
  refine ⟨h d, ?_⟩
  split
  · rename_i a left result
    exact hn d a (by rw [result]) left
  · exact List.forall_mem_nil _

end Check

namespace Agenda

variable {a rest : Agenda}

/-- Sessions that answer the queries of an agenda alike are the same to it. -/
theorem course_eq_of_asked (kept : s.Keeps I) (at_d : I d)
    (h : ∀ q ∈ a.asked s d, ∀ d, I d → s'.ask q d = s.ask q d) :
    a.course s' d = a.course s d := by
  induction a generalizing d with
  | done => rfl
  | skip rule reason rest ih => rw [course, course, ih at_d h]
  | evaluate rule subject check rest ih =>
    rw [asked, List.forall_mem_append] at h
    obtain ⟨first, later⟩ := h
    have left := check.keeps_run kept at_d
    rw [course, course, Check.run_eq_of_asked kept at_d first]
    cases recorded : Recording.outcomeOf rule subject (check.run s d).1 with
    | ok o =>
      rw [recorded] at later
      simp only [ih left later]
    | error f => rfl
  | gather rules subject check found otherwise ihFound ihOtherwise =>
    rw [asked, List.forall_mem_append] at h
    obtain ⟨first, later⟩ := h
    have left := check.keeps_run kept at_d
    rw [course, course, Check.run_eq_of_asked kept at_d first]
    cases result : (check.run s d).1 with
    | ok x =>
      rw [result] at later
      exact ihFound x left later
    | error f =>
      rw [result] at later
      simp only at later ⊢
      cases recorded : Recording.outcomesOf rules subject f with
      | ok os =>
        rw [recorded] at later
        simp only [ihOtherwise left later]
      | error f => rfl

/-- Whenever an agenda is performed in a session, it asks only queries with a property. -/
def Asks (P : Query → Prop) (s : Session) (a : Agenda) : Prop := ∀ d, ∀ q ∈ a.asked s d, P q

theorem asks_done : Asks P s .done := fun _ => List.forall_mem_nil _

theorem asks_skipAll (skipped : List String) (reason : String) :
    (skipAll skipped reason).Asks P s := by
  induction skipped with
  | nil => exact asks_done
  | cons rule more ih => exact ih

theorem Asks.evaluate {rule : String} {subject : Value} {check : Check Unit} (h : rest.Asks P s)
    (hCheck : check.Asks P s) : (Agenda.evaluate rule subject check rest).Asks P s := by
  intro d
  rw [asked, List.forall_mem_append]
  refine ⟨hCheck d, ?_⟩
  split
  · exact h _
  · exact List.forall_mem_nil _

theorem Asks.evaluateAll {evaluations : List Evaluation} (h : rest.Asks P s)
    (hChecks : ∀ e ∈ evaluations, e.check.Asks P s) : (evaluateAll evaluations rest).Asks P s := by
  induction evaluations with
  | nil => exact h
  | cons e more ih =>
    obtain ⟨first, others⟩ := List.forall_mem_cons.1 hChecks
    exact (ih others).evaluate first

theorem Asks.gather {α : Type} {rules : List String} {subject : Value} {check : Check α}
    {found : α → Agenda} {otherwise : Agenda} (hOtherwise : otherwise.Asks P s)
    (hCheck : check.Asks P s) (hFound : ∀ d x, (check.run s d).1 = .ok x → (found x).Asks P s) :
    (Agenda.gather rules subject check found otherwise).Asks P s := by
  intro d
  rw [asked, List.forall_mem_append]
  refine ⟨hCheck d, ?_⟩
  split
  · rename_i x result
    exact hFound d x result _
  · split
    · exact hOtherwise _
    · exact List.forall_mem_nil _

end Agenda

namespace Validation

variable {suites : List Suite} {names : List String}

theorem course_eq_of_asked (kept : s.Keeps I) (at_d : I d)
    (h : ∀ q ∈ asked s suites d, ∀ d, I d → s'.ask q d = s.ask q d) :
    course s' suites d = course s suites d := by
  induction suites generalizing d with
  | nil => rfl
  | cons suite rest ih =>
    rw [asked, List.forall_mem_append] at h
    obtain ⟨first, later⟩ := h
    have left := suite.agenda.keeps_course kept at_d
    simp only [course, Agenda.course_eq_of_asked kept at_d first]
    cases ended : (suite.agenda.course s d).ending with
    | ok u =>
      rw [ended] at later
      simp only [ih left later]
    | error f => rfl

theorem asked_of_agendas (h : ∀ suite : Suite, suite.agenda.Asks P s) (d : Deadline) :
    ∀ q ∈ asked s suites d, P q := by
  induction suites generalizing d with
  | nil => exact List.forall_mem_nil _
  | cons suite rest ih =>
    rw [asked, List.forall_mem_append]
    refine ⟨h suite d, ?_⟩
    split
    · exact ih _
    · exact List.forall_mem_nil _

/-- The queries that a validation of the suites with these names asks in a session. -/
def queries (s : Session) (names : List String) (d : Deadline) : List Query :=
  match Suite.select names with
  | .ok suites => asked s suites d
  | .error _ => []

/-- A validation depends on its session only through the answers to its queries. -/
theorem validate_eq_of_queries (kept : s.Keeps I) (at_d : I d)
    (h : ∀ q ∈ queries s names d, ∀ d, I d → s'.ask q d = s.ask q d) (r : Report) :
    validate s' names d r = validate s names d r := by
  unfold queries at h
  cases selected : Suite.select names with
  | error m => simp only [validate, selected]
  | ok suites =>
    rw [selected] at h
    rw [validate_eq selected, validate_eq selected, course_eq_of_asked kept at_d h]

end Validation

/-- The deadline has not passed, and no fault cancels it. -/
structure Session.IsCalm (s : Session) (d : Deadline) : Prop where
  notPassed : d.hasPassed = false
  uncancelled : ∀ f ∈ s.faults, f.cancels = false

theorem Session.IsCalm.keeps (h : s.IsCalm d) : s.Keeps fun d => d.hasPassed = false := by
  intro q d' notPassed
  have none : (s.faultFor q).any (·.cancels) = false := by
    rw [Option.any_eq_false]
    intro f befallen
    rw [h.uncancelled f (mem_of_faultFor befallen)]
  rw [deadlineAfter, none]
  exact notPassed

/-- In calm nothing interrupts a query, however long it takes. -/
theorem Validation.validate_calm {c : Catalog} {looks : List QueryPattern} {faults : List Fault}
    (calm : (⟨.database c looks, faults⟩ : Session).IsCalm d) (names : List String) (r : Report) :
    validate ⟨.database c looks, faults⟩ names d r = validate ⟨.database c, faults⟩ names d r := by
  have calm' : (⟨.database c, faults⟩ : Session).IsCalm d := ⟨calm.notPassed, calm.uncancelled⟩
  refine validate_eq_of_queries calm'.keeps calm.notPassed (fun q _ d' notPassed => ?_) r
  have left : ((⟨.database c, faults⟩ : Session).deadlineAfter q d').hasPassed = false :=
    calm'.keeps q d' notPassed
  refine Session.ask_eq_of_answer rfl fun passed => ?_
  rw [left] at passed
  cases passed

end GeoConformance
