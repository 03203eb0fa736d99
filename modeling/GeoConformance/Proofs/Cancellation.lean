import Mathlib.Data.List.Forall2
import GeoConformance.Proofs.Asked
import GeoConformance.Proofs.Faults

/-!
# What a cancelled deadline changes

A cancelled deadline stays cancelled. It words an interruption otherwise, and it interrupts every
query during which the engine looks at it. A suite that asks no such query has the same outcomes up
to that wording; of any other suite some outcomes may be given up for errors, as under faults.
-/

namespace GeoConformance

namespace Failure

/-- The same failure, or that of an interrupted query before and after the deadline is cancelled. -/
inductive Reworded (limit : String) : Failure → Failure → Prop
  | same (f : Failure) : Reworded limit f f
  | cancelled (sql : String) :
    Reworded limit (.infrastructure s!"Query timed out after {limit}s: {sql}" (some sql) false)
      (.infrastructure s!"Query cancelled: {sql}" (some sql) false)

end Failure

namespace Outcome

/-- The same outcome, or an error on an interrupted query before and after the deadline is
cancelled. -/
inductive Reworded (limit : String) : Outcome → Outcome → Prop
  | same (o : Outcome) : Reworded limit o o
  | cancelled (rule : String) (subject : Value) (sql : String) :
    Reworded limit ⟨rule, subject, .error s!"Query timed out after {limit}s: {sql}"⟩
      ⟨rule, subject, .error s!"Query cancelled: {sql}"⟩

/-- All of an outcome but its wording. -/
def face (o : Outcome) : String × Value × Status × Option String :=
  (o.rule, o.subject, o.status, o.verdict.kind?)

theorem Reworded.face_eq {limit : String} {o o' : Outcome} (h : Reworded limit o o') :
    o.face = o'.face := by
  cases h <;> rfl

theorem map_face_eq {limit : String} {os os' : List Outcome}
    (h : List.Forall₂ (Reworded limit) os os') : os.map face = os'.map face := by
  induction h with
  | nil => rfl
  | cons first _ ih => rw [List.map_cons, List.map_cons, first.face_eq, ih]

theorem reworded_self (limit : String) (os : List Outcome) :
    List.Forall₂ (Reworded limit) os os :=
  List.forall₂_same.2 fun o _ => .same o

end Outcome

namespace Session

/-- Whether the engine looks at the deadline while it works on a query. -/
def looksDuring (s : Session) (q : Query) : Bool :=
  match s.backing with
  | .database _ looks => looks.any (·.covers q)
  | _ => false

variable {s : Session} {q : Query} {d d' : Deadline}

theorem cancel_deadlineAfter (s : Session) (q : Query) (d : Deadline) :
    (s.deadlineAfter q d).cancel = d.cancel := by
  unfold deadlineAfter
  split <;> rfl

theorem deadlineAfter_cancel (s : Session) (q : Query) (d : Deadline) :
    s.deadlineAfter q d.cancel = d.cancel := by
  unfold deadlineAfter
  split <;> rfl

theorem keeps_cancelled (s : Session) (d : Deadline) : s.Keeps fun d' => d' = d.cancel := by
  rintro q _ rfl
  exact s.deadlineAfter_cancel q d

theorem keeps_cancel (s : Session) (d : Deadline) : s.Keeps fun d' => d'.cancel = d.cancel := by
  intro q d' same
  rw [cancel_deadlineAfter, same]

/-- Without a look at it the engine does not depend on the deadline. -/
theorem exchange_of_not_looks (h : s.looksDuring q = false) (d d' : Deadline) :
    s.exchange q d' = s.exchange q d := by
  unfold looksDuring at h
  unfold exchange
  cases behind : s.backing with
  | closed => rfl
  | unreadable => rfl
  | database c looks =>
    rw [behind] at h
    simp only at h
    simp only [h, Bool.false_and]

end Session

theorem Deadline.limitText_of_cancel {d d' : Deadline} (h : d'.cancel = d.cancel) :
    d'.limitText = d.limitText := by
  change d'.cancel.limitText = d.cancel.limitText
  rw [h]

/-- An error of the engine is reworded at most by the cancellation of the deadline. -/
theorem EngineError.failure_reworded (e : EngineError) (d : Deadline) (sql : String) :
    Failure.Reworded d.limitText (e.failure d sql) (e.failure d.cancel sql) := by
  unfold failure
  split
  · split
    · cases before : d.cancelled with
      | true =>
        simp only [Deadline.cancel, if_true]
        exact .same _
      | false =>
        have worded : ∀ reason, reason = s!"timed out after {d.limitText}s" →
            s!"Query {reason}: {sql}" = s!"Query timed out after {d.limitText}s: {sql}" := by
          rintro reason rfl
          apply String.toList_injective
          simp [toString]
        simp only [Bool.false_eq_true, if_false, Deadline.cancel, if_true, worded _ rfl]
        exact .cancelled sql
    · exact .same _
  · exact .same _

theorem Exchange.outcome_reworded {α : Type} (x : Exchange α) (d : Deadline) (sql : String) :
    Agree (Failure.Reworded d.limitText) Eq (x.outcome d sql) (x.outcome d.cancel sql) := by
  have answer : Agree (Failure.Reworded d.limitText) Eq
      ({ x with removing := none }.outcome d sql)
      ({ x with removing := none }.outcome d.cancel sql) := by
    unfold outcome
    cases x.installing with
    | some e => exact .error (e.failure_reworded d sql)
    | none =>
      cases x.executing with
      | ok a => exact .ok rfl
      | error e => exact .error (e.failure_reworded d sql)
  unfold outcome
  cases x.removing with
  | none => exact answer
  | some e =>
    simp only
    split
    · exact answer
    · exact .error (.same _)

section Wording

variable {s : Session} {d : Deadline}

theorem Session.ask_reworded {q : Query} (h : s.looksDuring q = false) (d : Deadline) :
    Agree (Failure.Reworded d.limitText) Eq (s.ask q d).1 (s.ask q d.cancel).1 := by
  have same := s.cancel_deadlineAfter q d
  have reworded := (s.exchange q (s.deadlineAfter q d)).outcome_reworded (s.deadlineAfter q d) q.sql
  rw [Deadline.limitText_of_cancel same, same] at reworded
  simp only [ask, s.deadlineAfter_cancel q d]
  rwa [exchange_of_not_looks h (s.deadlineAfter q d) d.cancel]

/-- A check comes to the same under a cancelled deadline, but for the wording of a failure. -/
theorem Check.run_reworded {α : Type} (k : Check α)
    (unseen : ∀ q ∈ k.asked s d, s.looksDuring q = false) :
    Agree (Failure.Reworded d.limitText) Eq (k.run s d).1 (k.run s d.cancel).1 := by
  induction k generalizing d with
  | done a => exact .ok rfl
  | stop f => exact .error (.same f)
  | ask q next ih =>
    rw [asked, List.forall_mem_cons] at unseen
    obtain ⟨first, later⟩ := unseen
    have replied := s.ask_reworded first d
    have left : (s.ask q d).2.cancel = d.cancel := s.cancel_deadlineAfter q d
    have left' : (s.ask q d.cancel).2 = d.cancel := s.deadlineAfter_cancel q d
    simp only [run]
    generalize s.ask q d = reply at replied left later ⊢
    generalize s.ask q d.cancel = reply' at replied left' ⊢
    obtain ⟨result, after⟩ := reply
    obtain ⟨result', after'⟩ := reply'
    cases left'
    cases replied with
    | ok same =>
      cases same
      have rest := ih _ later
      rwa [left, Deadline.limitText_of_cancel left] at rest
    | error reworded => exact .error reworded

namespace Recording

variable {limit : String}

theorem outcomeOf_reworded (rule : String) (subject : Value) {x y : Except Failure Unit}
    (h : Agree (Failure.Reworded limit) Eq x y) :
    Agree (Failure.Reworded limit) (Outcome.Reworded limit) (outcomeOf rule subject x)
      (outcomeOf rule subject y) := by
  cases h with
  | ok same => exact .ok (.same _)
  | @error f _ reworded =>
    cases reworded with
    | cancelled sql => exact .ok (.cancelled rule subject sql)
    | same =>
      cases outcomeOf rule subject (.error f) with
      | ok o => exact .ok (.same o)
      | error f => exact .error (.same f)

theorem outcomesOf_reworded (rules : List String) (subject : Value) {f g : Failure}
    (h : Failure.Reworded limit f g) :
    Agree (Failure.Reworded limit) (List.Forall₂ (Outcome.Reworded limit))
      (outcomesOf rules subject f) (outcomesOf rules subject g) := by
  cases h with
  | cancelled sql =>
    cases rules with
    | nil => exact .ok .nil
    | cons rule more =>
      refine .ok (List.forall₂_map_left_iff.2 (List.forall₂_map_right_iff.2 ?_))
      exact List.forall₂_same.2 fun rule _ => .cancelled rule subject sql
  | same =>
    cases outcomesOf rules subject f with
    | ok os => exact .ok (Outcome.reworded_self limit os)
    | error f => exact .error (.same f)

end Recording

/-- An agenda during which nothing is looked at has the same outcomes under a cancelled deadline, up
to wording. -/
theorem Agenda.course_reworded (a : Agenda)
    (unseen : ∀ q ∈ a.asked s d, s.looksDuring q = false) :
    List.Forall₂ (Outcome.Reworded d.limitText) (a.course s d).outcomes
      (a.course s d.cancel).outcomes := by
  induction a generalizing d with
  | done => exact .nil
  | skip rule reason rest ih => exact .cons (.same _) (ih unseen)
  | evaluate rule subject check rest ih =>
    rw [asked, List.forall_mem_append] at unseen
    obtain ⟨first, later⟩ := unseen
    have recorded := Recording.outcomeOf_reworded rule subject (check.run_reworded first)
    have left := check.keeps_run (s.keeps_cancel d) rfl
    rw [course, course, check.keeps_run (s.keeps_cancelled d) rfl]
    generalize Recording.outcomeOf rule subject (check.run s d).1 = x at recorded later ⊢
    generalize Recording.outcomeOf rule subject (check.run s d.cancel).1 = y at recorded ⊢
    cases recorded with
    | ok reworded =>
      have rest := ih later
      rw [left, Deadline.limitText_of_cancel left] at rest
      exact .cons reworded rest
    | error reworded => exact .nil
  | gather rules subject check found otherwise ihFound ihOtherwise =>
    rw [asked, List.forall_mem_append] at unseen
    obtain ⟨first, later⟩ := unseen
    have results := check.run_reworded first
    have left := check.keeps_run (s.keeps_cancel d) rfl
    rw [course, course, check.keeps_run (s.keeps_cancelled d) rfl]
    generalize (check.run s d).1 = x at results later ⊢
    generalize (check.run s d.cancel).1 = y at results ⊢
    cases results with
    | @ok a _ same =>
      cases same
      have rest := ihFound a later
      rwa [left, Deadline.limitText_of_cancel left] at rest
    | @error f g failed =>
      have recorded := Recording.outcomesOf_reworded rules subject failed
      simp only at later ⊢
      generalize Recording.outcomesOf rules subject f = x at recorded later ⊢
      generalize Recording.outcomesOf rules subject g = y at recorded ⊢
      cases recorded with
      | ok reworded =>
        have rest := ihOtherwise later
        rw [left, Deadline.limitText_of_cancel left] at rest
        exact List.rel_append reworded rest
      | error reworded => exact .nil

end Wording

namespace Session

/-- A query under a cancelled deadline is handled as before, or interrupted. -/
theorem exchange_cancel (s : Session) (q : Query) (d : Deadline) :
    s.exchange q d.cancel = s.exchange q d ∨
      s.exchange q d.cancel = ⟨none, .error interruptedError, none⟩ := by
  cases looked : s.looksDuring q with
  | false => exact .inl (exchange_of_not_looks looked d d.cancel)
  | true =>
    unfold looksDuring at looked
    unfold exchange
    cases behind : s.backing with
    | closed => exact .inl rfl
    | unreadable => exact .inl rfl
    | database c looks =>
      rw [behind] at looked
      simp only at looked
      cases s.faultFor q with
      | some f => exact .inl rfl
      | none =>
        simp only [looked]
        exact .inr rfl

/-- A cancelled deadline does no more to a session than to let some queries fail. -/
theorem isImpaired_cancel (s : Session) : s.IsImpaired s fun d d' => d' = d.cancel where
  reply := by
    rintro q d _ rfl
    have cancelled := s.cancel_deadlineAfter q d
    simp only [ask, s.deadlineAfter_cancel q d]
    generalize s.deadlineAfter q d = after at cancelled ⊢
    rw [← cancelled]
    rcases s.exchange_cancel q after with same | interrupted
    · rw [same]
      have reworded := (s.exchange q after).outcome_reworded after q.sql
      generalize (s.exchange q after).outcome after q.sql = x at reworded ⊢
      generalize (s.exchange q after).outcome after.cancel q.sql = y at reworded ⊢
      cases reworded with
      | ok same => exact .inl (by rw [same])
      | error reworded =>
        cases reworded with
        | same => exact .inl rfl
        | cancelled sql => exact .inr ⟨_, rfl, _, _, rfl⟩
    · have operational : interruptedError.IsOperational := rfl
      rw [interrupted]
      exact .inr ⟨_, rfl, EngineError.failure_isQueryFailure operational _ _⟩
  both := by
    rintro q d _ rfl
    rw [s.deadlineAfter_cancel q d, s.cancel_deadlineAfter q d]
  alone := by
    rintro _ q d rfl
    rw [s.cancel_deadlineAfter q d]

end Session
end GeoConformance
