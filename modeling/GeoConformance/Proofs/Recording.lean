import GeoConformance.Proofs.Undisturbed

/-!
# What recording leaves

A report is written by four kinds of calls, three of which run something that may fail. A failure
of one of three families stands for a verdict and is recorded; any other one passes through the
call, which then leaves the report as it was. So a report only grows, whatever is called and in
whatever order.
-/

namespace GeoConformance

namespace Failure

/-- The verdict that a failure stands for where it is of one of the three families. -/
inductive StandsFor : Failure → Verdict → Prop
  | inapplicable (conformanceClass : Value) :
    StandsFor (.inapplicable conformanceClass)
      (.skip s!"Conformance class {conformanceClass.shown} is not in use.")
  | violation (v : Violation) : StandsFor (.violation v) (.fail v)
  | infrastructure (message : String) (sql : Option String) :
    StandsFor (.infrastructure message sql false) (.error message)

theorem standsFor_iff {f : Failure} {v : Verdict} : f.StandsFor v ↔ f.verdict? = some v := by
  constructor
  · intro h
    cases h <;> rfl
  · intro h
    unfold verdict? at h
    split at h <;> cases h
    · exact .inapplicable _
    · exact .violation _
    · exact .infrastructure _ _

/-- The failures that speak against the package are two of the three families. -/
theorem isAdverse_iff {f : Failure} : f.IsAdverse ↔ (∃ v, f = .violation v) ∨ f.IsQueryFailure := by
  constructor
  · rintro ⟨v, stands, adverse⟩
    cases standsFor_iff.2 stands with
    | inapplicable c => rcases adverse with h | h <;> cases h
    | violation v => exact .inl ⟨v, rfl⟩
    | infrastructure message sql => exact .inr ⟨message, sql, rfl⟩
  · rintro (⟨v, rfl⟩ | h)
    · exact isAdverse_violation v
    · exact h.isAdverse

end Failure

namespace Outcome

/-- The status and the kind of an outcome determine one another, up to which violation it is. -/
structure IsWellFormed (o : Outcome) : Prop where
  pass : o.status = .pass ↔ o.verdict.kind? = none
  skip : o.status = .skip ↔ o.verdict.kind? = some "Inapplicable"
  error : o.status = .error ↔ o.verdict.kind? = some "InfrastructureError"
  fail : o.status = .fail ↔ ∃ v : Violation, o.verdict.kind? = some v.kind

theorem kind_ne_of_violation (v : Violation) :
    v.kind ≠ "Inapplicable" ∧ v.kind ≠ "InfrastructureError" := by
  cases v <;> simp [Violation.kind]

theorem isWellFormed (o : Outcome) : o.IsWellFormed := by
  obtain ⟨rule, subject, verdict⟩ := o
  have other := kind_ne_of_violation
  cases verdict with
  | pass => constructor <;> simp [status, Verdict.status, Verdict.kind?]
  | skip reason =>
    constructor <;> simp [status, Verdict.status, Verdict.kind?, fun v => (other v).1.symm]
  | fail v =>
    have own : ∃ w : Violation, v.kind = w.kind := ⟨v, rfl⟩
    constructor <;> simp [status, Verdict.status, Verdict.kind?, other v, own]
  | error message =>
    constructor <;> simp [status, Verdict.status, Verdict.kind?, fun v => (other v).2.symm]

end Outcome

namespace Recording

theorem recordAll_of_verdict (rules : List String) (subject : Value) {f : Failure}
    {v : Verdict} (h : f.verdict? = some v) (r : Report) :
    recordAll rules subject f r = (.ok (), r.append (rules.map fun rule => ⟨rule, subject, v⟩)) := by
  cases rules with
  | nil => exact congrArg (Prod.mk _) r.append_nil.symm
  | cons rule rest =>
    simp only [recordAll, h]
    rfl

/-- A failure recorded under several rules is evaluated under one after another. -/
theorem recordAll_eq_forM (rules : List String) (subject : Value) (f : Failure) :
    recordAll rules subject f =
      rules.forM fun rule => discard (evaluate rule subject (.error f)) := by
  funext r
  induction rules generalizing r with
  | nil => rfl
  | cons rule rest ih =>
    -- All evaluations meet the same failure, so the first one decides for the others.
    cases found : f.verdict? with
    | none =>
      simp only [recordAll, found, List.forM, evaluate]
      rfl
    | some v =>
      have step : List.forM (rule :: rest)
          (fun rule => discard (evaluate rule subject (.error f))) r =
          List.forM rest (fun rule => discard (evaluate rule subject (.error f)))
            (r.append [⟨rule, subject, v⟩]) := by
        simp only [evaluate, found]
        rfl
      rw [step, ← ih, recordAll_of_verdict _ _ found, recordAll_of_verdict _ _ found,
        Report.append_append, List.map_cons, List.singleton_append]

end Recording

/-- A call that may write to a report. What it runs returns something in `α` or fails. -/
inductive Call (α : Type)
  | skip (rule reason : String) (subject : Value)
  | evaluate (rule : String) (subject : Value) (run : Except Failure α)
  | prerequisite (rule : String) (subject : Value) (run : Except Failure α)
  | recordAll (rules : List String) (subject : Value) (f : Failure)

inductive Answer (α : Type)
  | nothing
  | outcome (o : Outcome)
  | gathered (found : Option α)

namespace Call

variable {α : Type}

def perform : Call α → Recording (Answer α)
  | .skip rule reason subject => do
    Recording.skip rule reason subject
    return .nothing
  | .evaluate rule subject run => do
    return .outcome (← Recording.evaluate rule subject (run.map fun _ => ()))
  | .prerequisite rule subject run => do
    return .gathered (← Recording.prerequisite rule subject run)
  | .recordAll rules subject f => do
    Recording.recordAll rules subject f
    return .nothing

/-- The report after some calls. One that raises does not keep the next from being made. -/
def performAll (calls : List (Call α)) (r : Report) : Report :=
  calls.foldl (fun r call => (call.perform r).2) r

/-- What is raised beneath a call. A failure to be recorded under no rule is never raised. -/
inductive Raises : Call α → Failure → Prop
  | evaluate (rule : String) (subject : Value) (f : Failure) :
    Raises (.evaluate rule subject (.error f)) f
  | prerequisite (rule : String) (subject : Value) (f : Failure) :
    Raises (.prerequisite rule subject (.error f)) f
  | recordAll (rule : String) (rest : List String) (subject : Value) (f : Failure) :
    Raises (.recordAll (rule :: rest) subject f) f

/-- What the outcomes of a call are on, in their order. -/
def keys : Call α → List (String × Value)
  | .skip rule _ subject => [(rule, subject)]
  | .evaluate rule subject _ => [(rule, subject)]
  | .prerequisite _ _ (.ok _) => []
  | .prerequisite rule subject (.error _) => [(rule, subject)]
  | .recordAll rules subject _ => rules.map fun rule => (rule, subject)

/-- The verdict of a call beneath which nothing is raised. -/
def verdict : Call α → Verdict
  | .skip _ reason _ => .skip reason
  | _ => .pass

def outcomes (call : Call α) (v : Verdict) : List Outcome :=
  call.keys.map fun (rule, subject) => ⟨rule, subject, v⟩

/-- What a call that recorded some outcomes answers. -/
def Answers : Call α → List Outcome → Answer α → Prop
  | .evaluate .., recorded, answer => ∃ o, recorded = [o] ∧ answer = .outcome o
  | .prerequisite _ _ run, _, answer => answer = .gathered run.toOption
  | _, _, answer => answer = .nothing

/-- How a call ends, and what it has recorded by then. -/
inductive Ends (call : Call α) : Except Failure (Answer α) → List Outcome → Prop
  | raises {f : Failure} (raised : call.Raises f) (other : ∀ v, ¬ f.StandsFor v) :
    Ends call (.error f) []
  | records {f : Failure} {v : Verdict} {a : Answer α} (raised : call.Raises f)
    (stands : f.StandsFor v) (answers : call.Answers (call.outcomes v) a) :
    Ends call (.ok a) (call.outcomes v)
  | returns {a : Answer α} (quiet : ∀ f, ¬ call.Raises f)
    (answers : call.Answers (call.outcomes call.verdict) a) :
    Ends call (.ok a) (call.outcomes call.verdict)

/-- What a call writes to an empty report. -/
def written (call : Call α) : List Outcome := (call.perform (.empty none)).2.outcomes

variable {call : Call α} {f g : Failure}

theorem Raises.unique (hf : call.Raises f) (hg : call.Raises g) : f = g := by
  cases hf <;> cases hg <;> rfl

/-- A call that performs alike on every report. -/
def Performs (call : Call α) (result : Except Failure (Answer α)) (os : List Outcome) : Prop :=
  ∀ r, call.perform r = (result, r.append os)

theorem Raises.perform_of_other (h : call.Raises f) (other : f.verdict? = none) :
    call.Performs (.error f) [] := by
  intro r
  rw [r.append_nil]
  cases h with
  | evaluate rule subject =>
    simp only [perform, Recording.evaluate, Except.map, other]
    rfl
  | prerequisite rule subject =>
    simp only [perform, Recording.prerequisite, Recording.recordAll, other]
    rfl
  | recordAll rule rest subject =>
    simp only [perform, Recording.recordAll, other]
    rfl

theorem Raises.perform_of_stands {v : Verdict} (h : call.Raises f) (stands : f.verdict? = some v) :
    ∃ a, call.Answers (call.outcomes v) a ∧ call.Performs (.ok a) (call.outcomes v) := by
  cases h with
  | evaluate rule subject =>
    refine ⟨_, ⟨_, rfl, rfl⟩, fun r => ?_⟩
    simp only [perform, Recording.evaluate, Except.map, stands]
    rfl
  | prerequisite rule subject =>
    refine ⟨_, rfl, fun r => ?_⟩
    simp only [perform, Recording.prerequisite, Recording.recordAll, stands]
    rfl
  | recordAll rule rest subject =>
    refine ⟨_, rfl, fun r => ?_⟩
    simp only [perform, Recording.recordAll, stands, outcomes, keys, List.map_map]
    rfl

theorem Raises.ends (h : call.Raises f) :
    ∃ result os, call.Ends result os ∧ call.Performs result os := by
  cases stands : f.verdict? with
  | none =>
    refine ⟨_, _, .raises h fun v hv => ?_, h.perform_of_other stands⟩
    rw [Failure.standsFor_iff, stands] at hv
    cases hv
  | some v =>
    obtain ⟨a, answers, performs⟩ := h.perform_of_stands stands
    exact ⟨_, _, .records h (Failure.standsFor_iff.2 stands) answers, performs⟩

/-- A call ends in one way on every report. -/
theorem ends (call : Call α) : ∃ result os, call.Ends result os ∧ call.Performs result os := by
  cases call with
  | skip rule reason subject => exact ⟨_, _, .returns (fun _ => nofun) rfl, fun r => rfl⟩
  | evaluate rule subject run =>
    cases run with
    | ok a => exact ⟨_, _, .returns (fun _ => nofun) ⟨_, rfl, rfl⟩, fun r => rfl⟩
    | error f => exact (Raises.evaluate rule subject f).ends
  | prerequisite rule subject run =>
    cases run with
    | ok a => exact ⟨_, _, .returns (fun _ => nofun) rfl, fun r => congrArg (Prod.mk _) r.append_nil.symm⟩
    | error f => exact (Raises.prerequisite rule subject f).ends
  | recordAll rules subject f =>
    cases rules with
    | nil => exact ⟨_, _, .returns (fun _ => nofun) rfl, fun r => congrArg (Prod.mk _) r.append_nil.symm⟩
    | cons rule rest => exact (Raises.recordAll rule rest subject f).ends

theorem Performs.written {result : Except Failure (Answer α)} {os : List Outcome}
    (h : call.Performs result os) : call.written = os := by
  rw [Call.written, h]
  exact List.nil_append os

theorem perform_snd (call : Call α) (r : Report) :
    (call.perform r).2 = r.append call.written := by
  obtain ⟨result, os, _, performs⟩ := call.ends
  rw [performs, performs.written]

/-- A report only grows, by what each of the calls writes. -/
theorem performAll_eq (calls : List (Call α)) (r : Report) :
    performAll calls r = r.append (calls.flatMap written) := by
  induction calls generalizing r with
  | nil => exact r.append_nil.symm
  | cons call rest ih =>
    change performAll rest (call.perform r).2 = _
    rw [ih, perform_snd, Report.append_append, List.flatMap_cons]

/-- A call raises what is raised beneath it where that stands for no verdict, and nothing else. -/
theorem perform_fst_eq_error_iff (call : Call α) (r : Report) (f : Failure) :
    (call.perform r).1 = .error f ↔ call.Raises f ∧ ∀ v, ¬ f.StandsFor v := by
  obtain ⟨result, os, ends, performs⟩ := call.ends
  rw [performs]
  cases ends with
  | raises raised other =>
    constructor
    · intro h
      cases h
      exact ⟨raised, other⟩
    · rintro ⟨raised', _⟩
      rw [raised.unique raised']
  | records raised stands _ =>
    refine ⟨nofun, ?_⟩
    rintro ⟨raised', other⟩
    rw [raised.unique raised'] at stands
    exact absurd stands (other _)
  | returns quiet _ => exact ⟨nofun, fun ⟨raised, _⟩ => absurd raised (quiet f)⟩

theorem perform_snd_of_error {r : Report} (h : (call.perform r).1 = .error f) :
    (call.perform r).2 = r := by
  obtain ⟨result, os, ends, performs⟩ := call.ends
  rw [performs] at h ⊢
  cases ends with
  | raises raised other => exact r.append_nil
  | records raised stands _ => cases h
  | returns quiet _ => cases h

theorem Raises.outcomes_ne_nil (h : call.Raises f) (v : Verdict) : call.outcomes v ≠ [] := by
  cases h <;> exact List.cons_ne_nil _ _

theorem isAdverse_eq_of_mem_outcomes {v : Verdict} {o : Outcome} (h : o ∈ call.outcomes v) :
    o.isAdverse = (v.status == .fail || v.status == .error) := by
  obtain ⟨key, _, rfl⟩ := List.mem_map.1 h
  rfl

/-- A call writes something against the package just where what is raised beneath it speaks
against it. -/
theorem written_fine_iff (call : Call α) :
    (∀ o ∈ call.written, o.isAdverse = false) ↔ ∀ f, call.Raises f → ¬ f.IsAdverse := by
  obtain ⟨result, os, ends, performs⟩ := call.ends
  rw [performs.written]
  cases ends with
  | raises raised other =>
    refine ⟨fun _ f raised' adverse => ?_, fun _ _ member => absurd member List.not_mem_nil⟩
    obtain ⟨v, stands, _⟩ := adverse
    rw [raised.unique raised'] at other
    exact other v (Failure.standsFor_iff.2 stands)
  | @records f v _ raised stands _ =>
    have adverse : f.IsAdverse ↔ v.status = .fail ∨ v.status = .error := by
      simp [Failure.IsAdverse, Failure.standsFor_iff.1 stands]
    obtain ⟨o, member⟩ := List.exists_mem_of_ne_nil _ (raised.outcomes_ne_nil v)
    constructor
    · intro fine f' raised'
      rw [← raised.unique raised', adverse]
      simpa [isAdverse_eq_of_mem_outcomes member] using fine o member
    · intro harmless o member
      simpa [isAdverse_eq_of_mem_outcomes member, adverse] using harmless f raised
  | returns quiet _ =>
    refine ⟨fun _ f raised => absurd raised (quiet f), fun _ o member => ?_⟩
    rw [isAdverse_eq_of_mem_outcomes member]
    cases call <;> rfl

/-- Each call that may write to a report either raises, which it does just where what is raised
beneath it stands for no verdict, and leaves the report as it was, or adds what it ends with. So
the report after any calls holds what each of them writes, every status goes with its kind, and the
report is in order just where nothing raised is a violation or a failed query. -/
theorem performAll_isWellFormed :
    (∀ (call : Call α) (r : Report),
      (∃ result os, call.Ends result os ∧ call.perform r = (result, r.append os)) ∧
      (∀ f, (call.perform r).1 = .error f ↔ call.Raises f ∧ ∀ v, ¬ f.StandsFor v) ∧
      ∀ f, (call.perform r).1 = .error f → (call.perform r).2 = r) ∧
    (∀ rules subject f, Recording.recordAll rules subject f =
      rules.forM fun rule => discard (Recording.evaluate rule subject (.error f))) ∧
    ∀ (calls : List (Call α)) (package : Option String),
      (performAll calls (.empty package)).outcomes = calls.flatMap written ∧
      (∀ o ∈ (performAll calls (.empty package)).outcomes, o.IsWellFormed) ∧
      ((performAll calls (.empty package)).isOk = true ↔
        ∀ call ∈ calls, ∀ f, call.Raises f → (∀ v, f ≠ .violation v) ∧ ¬ f.IsQueryFailure) := by
  refine ⟨fun call r => ⟨?_, call.perform_fst_eq_error_iff r, fun f => call.perform_snd_of_error⟩,
    Recording.recordAll_eq_forM, fun calls package => ⟨?_, fun o _ => o.isWellFormed, ?_⟩⟩
  · obtain ⟨result, os, ends, performs⟩ := call.ends
    exact ⟨result, os, ends, performs r⟩
  · rw [performAll_eq]
    exact List.nil_append _
  · have harmless (f : Failure) :
        (∀ v, f ≠ .violation v) ∧ ¬ f.IsQueryFailure ↔ ¬ f.IsAdverse := by
      rw [Failure.isAdverse_iff, not_or, not_exists]
    simp only [harmless, ← written_fine_iff, Report.isOk_iff, performAll_eq]
    exact List.forall_mem_flatMap

end Call
end GeoConformance
