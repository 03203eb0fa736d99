import GeoConformance.Proofs.Faulted

/-!
# Failing queries are no verdicts

Queries that fail can only take outcomes out of a report, and each one that is taken out leaves an
error under its rule. The reason is the shape of agendas: where a gathering fails, its failure is
recorded under every rule that could have been evaluated had it succeeded. It does not matter
whether a fault befalls the query or a deadline interrupts it.
-/

namespace GeoConformance

/-- The second list of outcomes is the first one with some of its parts given up for errors under
the same rules. -/
inductive Impaired : List Outcome → List Outcome → Prop
  | nil : Impaired [] []
  | keep {whole rest : List Outcome} (o : Outcome) :
    Impaired whole rest → Impaired (o :: whole) (o :: rest)
  | lose {whole rest : List Outcome} {lost errors : List Outcome} :
    (∀ e ∈ errors, e.status = .error) →
    (∀ o ∈ lost, ∃ e ∈ errors, e.rule = o.rule) →
    Impaired whole rest → Impaired (lost ++ whole) (errors ++ rest)

namespace Impaired

variable {whole rest whole' rest' : List Outcome}

theorem keepAll (os : List Outcome) (h : Impaired whole rest) :
    Impaired (os ++ whole) (os ++ rest) := by
  induction os with
  | nil => exact h
  | cons o os ih => exact .keep o ih

theorem append (h : Impaired whole rest) (h' : Impaired whole' rest') :
    Impaired (whole ++ whole') (rest ++ rest') := by
  induction h with
  | nil => exact h'
  | keep o _ ih => exact .keep o ih
  | lose errors lost _ ih =>
    rw [List.append_assoc, List.append_assoc]
    exact .lose errors lost ih

/-- What is left besides errors was there before, in the same order. -/
theorem sublist (h : Impaired whole rest) :
    (rest.filter fun o => o.status != .error).Sublist whole := by
  induction h with
  | nil => exact .slnil
  | keep o _ ih =>
    rw [List.filter_cons]
    split
    · exact ih.cons_cons o
    · exact ih.cons o
  | @lose _ _ lost errors allErrors _ _ ih =>
    have none : (errors.filter fun o => o.status != .error) = [] := by
      simp only [List.filter_eq_nil_iff, bne_iff_ne, ne_eq, Decidable.not_not]
      exact allErrors
    rw [List.filter_append, none, List.nil_append]
    exact ih.trans (List.sublist_append_right lost _)

/-- Every copy of an outcome that is gone has left an error under its rule. -/
theorem exists_error (h : Impaired whole rest) {o : Outcome} (gone : rest.count o < whole.count o) :
    ∃ e ∈ rest, e.status = .error ∧ e.rule = o.rule := by
  induction h with
  | nil => simp at gone
  | keep o' _ ih =>
    rw [List.count_cons, List.count_cons] at gone
    obtain ⟨e, he, error⟩ := ih (by omega)
    exact ⟨e, List.mem_cons_of_mem _ he, error⟩
  | @lose _ _ lost errors allErrors covered _ ih =>
    rw [List.count_append, List.count_append] at gone
    by_cases isLost : o ∈ lost
    · obtain ⟨e, he, rule⟩ := covered o isLost
      exact ⟨e, List.mem_append_left _ he, allErrors e he, rule⟩
    · rw [List.count_eq_zero.2 isLost] at gone
      obtain ⟨e, he, error⟩ := ih (by omega)
      exact ⟨e, List.mem_append_right _ he, error⟩

theorem eq_of_no_error (h : Impaired whole rest) (none : ∀ o ∈ rest, o.status ≠ .error) :
    rest = whole := by
  induction h with
  | nil => rfl
  | keep o _ ih => rw [ih fun o' ho => none o' (List.mem_cons_of_mem _ ho)]
  | @lose _ _ lost errors allErrors covered _ ih =>
    have noErrors : errors = [] :=
      List.eq_nil_iff_forall_not_mem.2 fun e he =>
        none e (List.mem_append_left _ he) (allErrors e he)
    have noneLost : lost = [] := by
      apply List.eq_nil_iff_forall_not_mem.2
      intro o ho
      obtain ⟨e, he, _⟩ := covered o ho
      simp [noErrors] at he
    rw [noErrors, noneLost, List.nil_append, List.nil_append]
    exact ih fun o ho => none o (List.mem_append_right _ ho)

end Impaired

/-- The second session replies as the first does, under deadlines that are related, except that some
of its queries fail. The deadlines stay related, also while only the first session goes on. -/
structure Session.IsImpaired (s s' : Session) (D : Deadline → Deadline → Prop) : Prop where
  reply : ∀ q d d', D d d' → (s'.ask q d').1 = (s.ask q d).1 ∨
    ∃ f, (s'.ask q d').1 = .error f ∧ f.IsQueryFailure
  both : ∀ q d d', D d d' → D (s.deadlineAfter q d) (s'.deadlineAfter q d')
  alone : ∀ d', s.Keeps fun d => D d d'

variable {s s' : Session} {D : Deadline → Deadline → Prop} {d d' : Deadline}

/-- A check comes to what it comes to in the first session, or fails as a query. -/
theorem Check.run_impaired (h : s.IsImpaired s' D) {α : Type} (k : Check α) (related : D d d') :
    ((k.run s' d').1 = (k.run s d).1 ∨ ∃ f, (k.run s' d').1 = .error f ∧ f.IsQueryFailure) ∧
      D (k.run s d).2 (k.run s' d').2 := by
  induction k generalizing d d' with
  | done a => exact ⟨.inl rfl, related⟩
  | stop f => exact ⟨.inl rfl, related⟩
  | ask q next ih =>
    have left : D (s.ask q d).2 (s'.ask q d').2 := h.both q d d' related
    have goesOn : D ((Check.ask q next).run s d).2 (s'.ask q d').2 := by
      have kept := h.alone (s'.ask q d').2
      simp only [run]
      generalize s.ask q d = reply at left ⊢
      obtain ⟨result, after⟩ := reply
      cases result with
      | ok r => exact (next r).keeps_run kept left
      | error f => exact left
    have replied := h.reply q d d' related
    simp only [run] at goesOn ⊢
    generalize s.ask q d = reply at replied left goesOn ⊢
    generalize s'.ask q d' = reply' at replied left goesOn ⊢
    obtain ⟨result, after⟩ := reply
    obtain ⟨result', after'⟩ := reply'
    rcases replied with rfl | ⟨f, rfl, isFailure⟩
    · cases result' with
      | ok r => exact ih r left
      | error f => exact ⟨.inl rfl, left⟩
    · exact ⟨.inr ⟨f, rfl, isFailure⟩, goesOn⟩

namespace Agenda

/-- An agenda that comes to `rest`, whatever is found, and evaluates only some rules before. -/
inductive LeadsTo (rules : List String) (rest : Agenda) : Agenda → Prop
  | here : LeadsTo rules rest rest
  | skip {rule reason : String} {next : Agenda} :
    rule ∈ rules → LeadsTo rules rest next → LeadsTo rules rest (.skip rule reason next)
  | evaluate {rule : String} {subject : Value} {check : Check Unit} {next : Agenda} :
    rule ∈ rules → LeadsTo rules rest next → LeadsTo rules rest (.evaluate rule subject check next)
  | gather {α : Type} {own : List String} {subject : Value} {check : Check α} {found : α → Agenda}
      {otherwise : Agenda} :
    (∀ rule ∈ own, rule ∈ rules) → (∀ a, LeadsTo rules rest (found a)) →
    LeadsTo rules rest otherwise → LeadsTo rules rest (.gather own subject check found otherwise)

/-- Where anything is gathered, it is gathered for all the rules that follow only if it is found. -/
def IsGuarded : Agenda → Prop
  | .done => True
  | .skip _ _ rest => rest.IsGuarded
  | .evaluate _ _ _ rest => rest.IsGuarded
  | .gather rules _ _ found otherwise =>
    (∀ a, (found a).IsGuarded ∧ LeadsTo rules otherwise (found a)) ∧ otherwise.IsGuarded

variable {rules : List String} {rest : Agenda}

theorem LeadsTo.trans {middle a : Agenda} (h : LeadsTo rules middle a)
    (k : LeadsTo rules rest middle) : LeadsTo rules rest a := by
  induction h with
  | here => exact k
  | skip member _ ih => exact .skip member ih
  | evaluate member _ ih => exact .evaluate member ih
  | gather members _ _ ihFound ihOtherwise => exact .gather members ihFound ihOtherwise

theorem LeadsTo.evaluateAll {evaluations : List Evaluation} {next : Agenda}
    (own : ∀ e ∈ evaluations, e.rule ∈ rules) (h : LeadsTo rules rest next) :
    LeadsTo rules rest (.evaluateAll evaluations next) := by
  induction evaluations with
  | nil => exact h
  | cons e more ih =>
    exact .evaluate (own e (by simp)) (ih fun e he => own e (by simp [he]))

theorem leadsTo_skipAll {skipped : List String} {reason : String}
    (own : ∀ rule ∈ skipped, rule ∈ rules) : LeadsTo rules .done (.skipAll skipped reason) := by
  induction skipped with
  | nil => exact .here
  | cons rule more ih =>
    exact .skip (own rule (by simp)) (ih fun rule h => own rule (by simp [h]))

theorem isGuarded_evaluateAll {evaluations : List Evaluation} (h : rest.IsGuarded) :
    (evaluateAll evaluations rest).IsGuarded := by
  induction evaluations with
  | nil => exact h
  | cons e more ih => exact ih

theorem isGuarded_skipAll (skipped : List String) (reason : String) :
    (skipAll skipped reason).IsGuarded := by
  induction skipped with
  | nil => trivial
  | cons rule more ih => exact ih

end Agenda

namespace Recording

theorem outcomeOf_rule {rule : String} {subject : Value} {result : Except Failure Unit}
    {o : Outcome} (h : outcomeOf rule subject result = .ok o) : o.rule = rule :=
  congrArg Prod.fst (outcomeOf_key h)

theorem outcomesOf_rule {rules : List String} {subject : Value} {f : Failure} {os : List Outcome}
    (h : outcomesOf rules subject f = .ok os) : ∀ o ∈ os, o.rule ∈ rules := by
  intro o ho
  have key := List.mem_map_of_mem (f := Outcome.key) ho
  rw [outcomesOf_key h] at key
  obtain ⟨rule, member, eq⟩ := List.mem_map.1 key
  cases eq
  exact member

theorem outcomeOf_queryFailure (rule : String) (subject : Value) {f : Failure}
    (h : f.IsQueryFailure) :
    ∃ e, outcomeOf rule subject (.error f) = .ok e ∧ e.status = .error ∧ e.rule = rule := by
  obtain ⟨message, sql, rfl⟩ := h
  exact ⟨_, rfl, rfl, rfl⟩

/-- A failed query leaves an error under each of the rules. -/
theorem outcomesOf_queryFailure (rules : List String) (subject : Value) {f : Failure}
    (h : f.IsQueryFailure) :
    ∃ errors, outcomesOf rules subject f = .ok errors ∧ (∀ e ∈ errors, e.status = .error) ∧
      ∀ rule ∈ rules, ∃ e ∈ errors, e.rule = rule := by
  obtain ⟨message, sql, rfl⟩ := h
  refine ⟨rules.map fun rule => ⟨rule, subject, .error message⟩, ?_, ?_, ?_⟩
  · cases rules <;> rfl
  · intro e he
    obtain ⟨rule, _, rfl⟩ := List.mem_map.1 he
    rfl
  · intro rule h
    exact ⟨_, List.mem_map_of_mem h, rfl⟩

end Recording

namespace Agenda

variable {rules : List String} {rest a : Agenda} {I : Deadline → Prop}

theorem LeadsTo.course (h : LeadsTo rules rest a) (kept : s.Keeps I) (at_d : I d)
    (carried : (a.course s d).ending = .ok ()) :
    ∃ os after, (∀ o ∈ os, o.rule ∈ rules) ∧ I after ∧
      a.course s d = (rest.course s after).after os := by
  induction h generalizing d with
  | here => exact ⟨[], d, by simp, at_d, rfl⟩
  | @skip rule reason next member _ ih =>
    obtain ⟨os, after, own, at_after, eq⟩ := ih at_d carried
    refine ⟨⟨rule, .null, .skip reason⟩ :: os, after, ?_, at_after, ?_⟩
    · simpa using ⟨member, own⟩
    · rw [Agenda.course, eq]
      rfl
  | @evaluate rule subject check next member _ ih =>
    rw [Agenda.course] at carried ⊢
    cases recorded : Recording.outcomeOf rule subject (check.run s d).1 with
    | ok o =>
      rw [recorded] at carried
      obtain ⟨os, after, own, at_after, eq⟩ := ih (check.keeps_run kept at_d) carried
      refine ⟨o :: os, after, ?_, at_after, ?_⟩
      · simpa [Recording.outcomeOf_rule recorded] using ⟨member, own⟩
      · simp only [eq]
        rfl
    | error f =>
      rw [recorded] at carried
      cases carried
  | @gather α own subject check found otherwise members _ _ ihFound ihOtherwise =>
    have left := check.keeps_run kept at_d
    rw [Agenda.course] at carried ⊢
    cases result : (check.run s d).1 with
    | ok x =>
      rw [result] at carried
      exact ihFound x left carried
    | error f =>
      rw [result] at carried
      simp only at carried ⊢
      cases recorded : Recording.outcomesOf own subject f with
      | ok first =>
        rw [recorded] at carried
        obtain ⟨os, after, later, at_after, eq⟩ := ihOtherwise left carried
        refine ⟨first ++ os, after, fun o ho => ?_, at_after, ?_⟩
        · rcases List.mem_append.1 ho with ho | ho
          · exact members _ (Recording.outcomesOf_rule recorded o ho)
          · exact later o ho
        · simp only [eq, Course.after, List.append_assoc]
      | error f =>
        rw [recorded] at carried
        cases carried

/-- The course of a guarded agenda in an impaired session, beside the one that it takes without. -/
theorem course_impaired (h : s.IsImpaired s' D) (guarded : a.IsGuarded) (related : D d d')
    (carried : (a.course s d).ending = .ok ()) :
    (a.course s' d').ending = .ok () ∧
      Impaired (a.course s d).outcomes (a.course s' d').outcomes ∧
      D (a.course s d).deadline (a.course s' d').deadline := by
  induction a generalizing d d' with
  | done => exact ⟨rfl, .nil, related⟩
  | skip rule reason rest ih =>
    obtain ⟨ending, impaired, left⟩ := ih guarded related carried
    exact ⟨ending, .keep _ impaired, left⟩
  | evaluate rule subject check rest ih =>
    obtain ⟨result, left⟩ := check.run_impaired h related
    rw [Agenda.course] at carried
    rw [Agenda.course, Agenda.course]
    cases recorded : Recording.outcomeOf rule subject (check.run s d).1 with
    | error f =>
      rw [recorded] at carried
      cases carried
    | ok o =>
      rw [recorded] at carried
      obtain ⟨ending, impaired, left⟩ := ih guarded left carried
      rcases result with same | ⟨f, failed, isFailure⟩
      · rw [same, recorded]
        exact ⟨ending, .keep o impaired, left⟩
      · obtain ⟨e, recorded', error, rule⟩ := Recording.outcomeOf_queryFailure rule subject isFailure
        rw [failed, recorded']
        have concerned : ∀ o' ∈ [o], ∃ e' ∈ [e], e'.rule = o'.rule := by
          simp [rule, Recording.outcomeOf_rule recorded]
        exact ⟨ending, .lose (by simpa using error) concerned impaired, left⟩
  | gather rules subject check found otherwise ihFound ihOtherwise =>
    obtain ⟨guardedFound, guardedOtherwise⟩ := guarded
    obtain ⟨result, left⟩ := check.run_impaired h related
    rw [Agenda.course] at carried
    rw [Agenda.course, Agenda.course]
    rcases result with same | ⟨f, failed, isFailure⟩
    · rw [same]
      cases result : (check.run s d).1 with
      | ok x =>
        rw [result] at carried
        exact ihFound x (guardedFound x).1 left carried
      | error f =>
        rw [result] at carried
        simp only at carried ⊢
        cases recorded : Recording.outcomesOf rules subject f with
        | ok os =>
          rw [recorded] at carried
          obtain ⟨ending, impaired, left⟩ := ihOtherwise guardedOtherwise left carried
          exact ⟨ending, impaired.keepAll os, left⟩
        | error f =>
          rw [recorded] at carried
          cases carried
    · obtain ⟨errors, recorded', allErrors, each⟩ :=
        Recording.outcomesOf_queryFailure rules subject isFailure
      simp only [failed, recorded']
      cases result : (check.run s d).1 with
      | ok x =>
        rw [result] at carried
        -- Only the first session goes on to what is found; the agendas meet where that leads to.
        obtain ⟨os, after, own, left, eq⟩ := (guardedFound x).2.course (h.alone _) left carried
        simp only at carried ⊢
        rw [eq] at carried ⊢
        obtain ⟨ending, impaired, left⟩ := ihOtherwise guardedOtherwise left carried
        exact ⟨ending, .lose allErrors (fun o ho => each _ (own o ho)) impaired, left⟩
      | error f =>
        rw [result] at carried
        simp only at carried ⊢
        cases recorded : Recording.outcomesOf rules subject f with
        | ok os =>
          rw [recorded] at carried
          obtain ⟨ending, impaired, left⟩ := ihOtherwise guardedOtherwise left carried
          refine ⟨ending, .lose allErrors (fun o ho => ?_) impaired, left⟩
          exact each _ (Recording.outcomesOf_rule recorded o ho)
        | error f =>
          rw [recorded] at carried
          cases carried

end Agenda
end GeoConformance
