import GeoConformance.Proofs.CleanCourse

/-!
# Courses under faults of the database

A fault gives a query the failure of the engine's error. An operational error leaves a failed query,
which is a verdict, and so does a deadline that interrupts a query; an error of the database is
fatal and ends the course at the query it befalls. Nothing else is added by faults: whatever ends a
course otherwise ends a check without them.
-/

namespace GeoConformance

/-- An error of the engine about one query or about the database as a whole. -/
def EngineError.IsOfDatabase (e : EngineError) : Prop :=
  e.kind = .operational ∨ e.kind.isDatabase = true

namespace Failure

/-- The database itself is unusable. -/
def IsFatal (f : Failure) : Prop := ∃ message sql, f = .infrastructure message sql true

def IsMisuse (P : Misuse → Prop) (f : Failure) : Prop := ∃ m, f = .misuse m ∧ P m

theorem IsMisuse.mono {P Q : Misuse → Prop} {f : Failure} (h : f.IsMisuse P)
    (k : ∀ m, P m → Q m) : f.IsMisuse Q := by
  obtain ⟨m, rfl, hm⟩ := h
  exact ⟨m, rfl, k m hm⟩

end Failure

theorem EngineError.failure_isFatal {e : EngineError} (h : e.kind.isDatabase = true) (d : Deadline)
    (sql : String) : (e.failure d sql).IsFatal := by
  have notOperational : e.kind ≠ .operational := by
    intro operational
    rw [operational] at h
    cases h
  unfold EngineError.failure
  rw [if_neg notOperational, if_pos h]
  exact ⟨_, _, rfl⟩

namespace Session

variable {c : Catalog} {faults : List Fault}

/-- The database itself fails at a query. -/
def BreaksAt (s : Session) (q : Query) : Prop :=
  ∃ f, s.faultFor q = some f ∧ f.error.kind.isDatabase = true

theorem mem_of_faultFor {s : Session} {q : Query} {f : Fault} (h : s.faultFor q = some f) :
    f ∈ s.faults := by
  unfold faultFor at h
  split at h
  · cases h
  · exact List.mem_of_find?_eq_some h

/-- Under faults of the database a query has the answer of the undisturbed database, fails as a
query, or is one at which the database breaks. -/
theorem ask_faulted (ofDatabase : ∀ f ∈ faults, f.error.IsOfDatabase) (looks : List QueryPattern)
    (q : Query) (d : Deadline) :
    (∃ r, q.answer c = .ok r ∧ ((⟨.database c looks, faults⟩ : Session).ask q d).1 = .ok r) ∨
      ∃ f, ((⟨.database c looks, faults⟩ : Session).ask q d).1 = .error f ∧
        (f.IsQueryFailure ∨ f.IsFatal ∧ (⟨.database c looks, faults⟩ : Session).BreaksAt q) := by
  simp only [ask, exchange]
  cases befallen : (⟨.database c looks, faults⟩ : Session).faultFor q with
  | some f =>
    refine .inr ⟨_, rfl, ?_⟩
    rcases ofDatabase f (mem_of_faultFor befallen) with operational | broken
    · exact .inl (EngineError.failure_isQueryFailure operational _ _)
    · exact .inr ⟨EngineError.failure_isFatal broken _ _, f, befallen, broken⟩
  | none =>
    simp only
    split
    · have operational : interruptedError.IsOperational := rfl
      exact .inr ⟨_, rfl, .inl (EngineError.failure_isQueryFailure operational _ _)⟩
    · cases answered : q.answer c with
      | ok r => exact .inl ⟨r, rfl, rfl⟩
      | error e =>
        refine .inr ⟨_, rfl, .inl ?_⟩
        exact EngineError.failure_isQueryFailure (q.answer_failsAs c e answered) _ _

end Session

namespace Failure

/-- What can end a course: the database broke at a query that was asked, or a request made no
sense. -/
def Ends (s : Session) (asked : List Query) (P : Misuse → Prop) (f : Failure) : Prop :=
  (f.IsFatal ∧ ∃ q ∈ asked, s.BreaksAt q) ∨ f.IsMisuse P

theorem Ends.mono {s : Session} {asked asked' : List Query} {P P' : Misuse → Prop} {f : Failure}
    (h : f.Ends s asked P) (more : ∀ q ∈ asked, q ∈ asked') (weaker : ∀ m, P m → P' m) :
    f.Ends s asked' P' := by
  rcases h with ⟨fatal, q, hq, breaks⟩ | misuse
  · exact .inl ⟨fatal, q, more q hq, breaks⟩
  · exact .inr (misuse.mono weaker)

theorem Ends.append_left {s : Session} {asked : List Query} {P : Misuse → Prop} {f : Failure}
    (more : List Query) (h : f.Ends s asked P) : f.Ends s (asked ++ more) P :=
  h.mono (fun _ hq => List.mem_append_left more hq) fun _ hm => hm

theorem Ends.append_right {s : Session} {asked : List Query} {P : Misuse → Prop} {f : Failure}
    (before : List Query) (h : f.Ends s asked P) : f.Ends s (before ++ asked) P :=
  h.mono (fun _ hq => List.mem_append_right before hq) fun _ hm => hm

end Failure

namespace Check

variable {α : Type} {c : Catalog} {faults : List Fault} {P : Misuse → Prop}

/-- The queries that a check asks in a session, up to the one that is left without a reply. -/
def asked (s : Session) : Check α → Deadline → List Query
  | .done _, _ => []
  | .stop _, _ => []
  | .ask q next, d =>
    q :: match s.ask q d with
      | (.ok reply, d) => (next reply).asked s d
      | (.error _, _) => []

theorem run_faulted (ofDatabase : ∀ f ∈ faults, f.error.IsOfDatabase) (looks : List QueryPattern)
    (k : Check α) (d d' : Deadline) :
    (k.run ⟨.database c looks, faults⟩ d').1 = k.resultIn c d ∨
      ∃ f, (k.run ⟨.database c looks, faults⟩ d').1 = .error f ∧
        (f.IsQueryFailure ∨ f.IsFatal ∧ ∃ q ∈ k.asked ⟨.database c looks, faults⟩ d',
          (⟨.database c looks, faults⟩ : Session).BreaksAt q) := by
  induction k generalizing d' with
  | done a => exact .inl rfl
  | stop f => exact .inl rfl
  | ask q next ih =>
    simp only [run, resultIn, asked, Session.undisturbed_ask]
    have replied := Session.ask_faulted (c := c) ofDatabase looks q d'
    generalize (⟨.database c looks, faults⟩ : Session).ask q d' = reply at replied
    obtain ⟨result, left⟩ := reply
    rcases replied with ⟨r, answered, rfl⟩ | ⟨f, rfl, failed | ⟨fatal, breaks⟩⟩
    · rw [answered]
      rcases ih r left with same | ⟨f, failed, failure | ⟨fatal, q', hq', breaks⟩⟩
      · exact .inl same
      · exact .inr ⟨f, failed, .inl failure⟩
      · exact .inr ⟨f, failed, .inr ⟨fatal, q', List.mem_cons_of_mem _ hq', breaks⟩⟩
    · exact .inr ⟨f, rfl, .inl failed⟩
    · exact .inr ⟨f, rfl, .inr ⟨fatal, q, List.mem_cons_self, breaks⟩⟩

/-- A check that comes to a verdict, or fails for a misuse of some kind. -/
def EndsOnlyBy (P : Misuse → Prop) (c : Catalog) (d : Deadline) (k : Check α) : Prop :=
  FailsAs (fun f => f.HasVerdict ∨ f.IsMisuse P) (k.resultIn c d)

theorem IsDecisive.endsOnlyBy {d : Deadline} {k : Check α} (h : IsDecisive c d k) :
    k.EndsOnlyBy P c d :=
  h.hasVerdict.mono fun _ verdict => .inl verdict

theorem endsOnlyBy_ofExcept {d : Deadline} {x : Except Misuse α}
    (h : ∀ m, x = .error m → P m) : (ofExcept x).EndsOnlyBy P c d := by
  cases x with
  | ok a => exact failsAs_ok a
  | error m => exact failsAs_error (.inr ⟨m, rfl, h m rfl⟩)

/-- Under faults only a broken database ends it besides. -/
theorem EndsOnlyBy.run {d : Deadline} {k : Check α} (h : k.EndsOnlyBy P c d)
    (ofDatabase : ∀ f ∈ faults, f.error.IsOfDatabase) (looks : List QueryPattern) (d' : Deadline) :
    FailsAs (fun f => f.HasVerdict ∨
      f.Ends ⟨.database c looks, faults⟩ (k.asked ⟨.database c looks, faults⟩ d') P)
      (k.run ⟨.database c looks, faults⟩ d').1 := by
  rcases k.run_faulted ofDatabase looks d d' with same | ⟨f, failed, failure | ⟨fatal, breaks⟩⟩
  · rw [same]
    exact h.mono fun f hf => hf.imp_right .inr
  · rw [failed]
    exact failsAs_error (.inl failure.isAdverse.hasVerdict)
  · rw [failed]
    exact failsAs_error (.inr (.inl ⟨fatal, breaks⟩))

end Check

namespace Recording

variable {Q : Failure → Prop}

theorem outcomeOf_failsAs (rule : String) (subject : Value) {result : Except Failure Unit}
    (h : FailsAs (fun f => f.HasVerdict ∨ Q f) result) :
    FailsAs Q (outcomeOf rule subject result) := by
  cases result with
  | ok u => exact failsAs_ok _
  | error f =>
    rcases h f rfl with ⟨v, hv⟩ | ends
    · simp only [outcomeOf, hv]
      exact failsAs_ok _
    · simp only [outcomeOf]
      split
      · exact failsAs_ok _
      · exact failsAs_error ends

theorem outcomesOf_failsAs (rules : List String) (subject : Value) {f : Failure}
    (h : f.HasVerdict ∨ Q f) : FailsAs Q (outcomesOf rules subject f) := by
  unfold outcomesOf
  split
  · exact failsAs_ok _
  · exact failsAs_ok _
  · rename_i none
    rcases h with ⟨v, hv⟩ | ends
    · rw [none] at hv
      cases hv
    · exact failsAs_error ends

end Recording

namespace Agenda

variable {c : Catalog} {d : Deadline} {P : Misuse → Prop} {rest : Agenda}

/-- The queries that an agenda asks in a session, up to where it breaks off. -/
def asked (s : Session) : Agenda → Deadline → List Query
  | .done, _ => []
  | .skip _ _ rest, d => rest.asked s d
  | .evaluate rule subject check rest, d =>
    check.asked s d ++
      match Recording.outcomeOf rule subject (check.run s d).1 with
      | .ok _ => rest.asked s (check.run s d).2
      | .error _ => []
  | .gather rules subject check found otherwise, d =>
    check.asked s d ++
      match (check.run s d).1 with
      | .ok a => (found a).asked s (check.run s d).2
      | .error f =>
        match Recording.outcomesOf rules subject f with
        | .ok _ => otherwise.asked s (check.run s d).2
        | .error _ => []

/-- Every check that an agenda can reach comes to a verdict or fails for a misuse of some kind. What
is gathered is only ever what the database holds. -/
def EndsOnlyBy (P : Misuse → Prop) (c : Catalog) (d : Deadline) : Agenda → Prop
  | .done => True
  | .skip _ _ rest => rest.EndsOnlyBy P c d
  | .evaluate _ _ check rest => check.EndsOnlyBy P c d ∧ rest.EndsOnlyBy P c d
  | .gather _ _ check found otherwise =>
    check.EndsOnlyBy P c d ∧ (∀ a, check.resultIn c d = .ok a → (found a).EndsOnlyBy P c d) ∧
      otherwise.EndsOnlyBy P c d

theorem endsOnlyBy_evaluateAll {evaluations : List Evaluation}
    (h : ∀ e ∈ evaluations, e.check.EndsOnlyBy P c d) (hRest : rest.EndsOnlyBy P c d) :
    (evaluateAll evaluations rest).EndsOnlyBy P c d := by
  induction evaluations with
  | nil => exact hRest
  | cons e more ih =>
    obtain ⟨first, others⟩ := List.forall_mem_cons.1 h
    exact ⟨first, ih others⟩

theorem endsOnlyBy_skipAll (skipped : List String) (reason : String) :
    (skipAll skipped reason).EndsOnlyBy P c d := by
  induction skipped with
  | nil => trivial
  | cons rule more ih => exact ih

theorem EndsOnlyBy.course {faults : List Fault} {a : Agenda} (h : a.EndsOnlyBy P c d)
    (ofDatabase : ∀ f ∈ faults, f.error.IsOfDatabase) (looks : List QueryPattern) (d' : Deadline) :
    FailsAs (Failure.Ends ⟨.database c looks, faults⟩ (a.asked ⟨.database c looks, faults⟩ d') P)
      (a.course ⟨.database c looks, faults⟩ d').ending := by
  induction a generalizing d' with
  | done => exact failsAs_ok ()
  | skip rule reason rest ih => exact ih h d'
  | evaluate rule subject check rest ih =>
    obtain ⟨hCheck, hRest⟩ := h
    have judged := Recording.outcomeOf_failsAs rule subject (hCheck.run ofDatabase looks d')
    rw [Agenda.course, Agenda.asked]
    cases recorded :
      Recording.outcomeOf rule subject (check.run ⟨.database c looks, faults⟩ d').1 with
    | ok o => exact (ih hRest _).mono fun _ => Failure.Ends.append_right _
    | error f => exact failsAs_error ((judged f recorded).append_left _)
  | gather rules subject check found otherwise ihFound ihOtherwise =>
    obtain ⟨hCheck, hFound, hOtherwise⟩ := h
    have judged := hCheck.run ofDatabase looks d'
    rw [Agenda.course, Agenda.asked]
    cases result : (check.run ⟨.database c looks, faults⟩ d').1 with
    | ok a =>
      have undisturbed : check.resultIn c d = .ok a := by
        rcases check.run_faulted ofDatabase looks d d' with same | ⟨f, failed, -⟩
        · exact same.symm.trans result
        · rw [result] at failed
          cases failed
      exact (ihFound a (hFound a undisturbed) _).mono fun _ => Failure.Ends.append_right _
    | error f =>
      have ends := Recording.outcomesOf_failsAs rules subject (judged f result)
      simp only
      cases recorded : Recording.outcomesOf rules subject f with
      | ok os => exact (ihOtherwise hOtherwise _).mono fun _ => Failure.Ends.append_right _
      | error f => exact failsAs_error ((ends f recorded).append_left _)

/-- Operational faults break no database, so that only a misuse is left to end the course. -/
theorem EndsOnlyBy.ending {faults : List Fault} {a : Agenda} (h : a.EndsOnlyBy P c d)
    (none : ∀ m, ¬ P m) (operational : ∀ f ∈ faults, f.error.IsOperational)
    (looks : List QueryPattern) (d' : Deadline) :
    (a.course ⟨.database c looks, faults⟩ d').ending = .ok () := by
  have ends := h.course (fun f hf => .inl (operational f hf)) looks d'
  cases ended : (a.course ⟨.database c looks, faults⟩ d').ending with
  | ok u => rfl
  | error f =>
    rcases ends f ended with ⟨-, q, -, fault, befallen, broken⟩ | ⟨m, -, hm⟩
    · rw [operational fault (Session.mem_of_faultFor befallen)] at broken
      cases broken
    · exact absurd hm (none m)

end Agenda

namespace Validation

variable {c : Catalog} {d : Deadline}

/-- The queries that a validation asks in a session, up to where it breaks off. -/
def asked (s : Session) : List Suite → Deadline → List Query
  | [], _ => []
  | suite :: rest, d =>
    suite.agenda.asked s d ++
      match (suite.agenda.course s d).ending with
      | .ok () => asked s rest (suite.agenda.course s d).deadline
      | .error _ => []

theorem course_ends {faults : List Fault} {P : Suite → Misuse → Prop} {suites : List Suite}
    (h : ∀ suite ∈ suites, suite.agenda.EndsOnlyBy (P suite) c d)
    (ofDatabase : ∀ f ∈ faults, f.error.IsOfDatabase) (looks : List QueryPattern) (d' : Deadline) :
    FailsAs (Failure.Ends ⟨.database c looks, faults⟩ (asked ⟨.database c looks, faults⟩ suites d')
      fun m => ∃ suite ∈ suites, P suite m)
      (course ⟨.database c looks, faults⟩ suites d').ending := by
  induction suites generalizing d' with
  | nil => exact failsAs_ok ()
  | cons suite rest ih =>
    obtain ⟨first, others⟩ := List.forall_mem_cons.1 h
    have ends := first.course ofDatabase looks d'
    rw [course, asked]
    cases ended : (suite.agenda.course ⟨.database c looks, faults⟩ d').ending with
    | ok u =>
      refine (ih others _).mono fun f ends => (ends.append_right _).mono (fun _ hq => hq) ?_
      intro m hm
      obtain ⟨suite', member, hm⟩ := hm
      exact ⟨suite', List.mem_cons_of_mem _ member, hm⟩
    | error f =>
      simp only [ended]
      refine failsAs_error (((ends f ended).append_left _).mono (fun _ hq => hq) ?_)
      exact fun m hm => ⟨suite, List.mem_cons_self, hm⟩

end Validation
end GeoConformance
