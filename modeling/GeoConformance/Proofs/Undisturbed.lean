import GeoConformance.Proofs.Course
import GeoConformance.Proofs.Failing

/-!
# Sessions without faults

Where no fault befalls a query, what a check comes to depends on the database alone, and the
deadline stays as it is. The engine's own errors are operational, so every query either has its
answer or fails without ending the validation. A check is decisive on a database when it either
passes there or fails in a way that speaks against the package.
-/

namespace GeoConformance

/-- An error that says nothing about the database as a whole. -/
def EngineError.IsOperational (e : EngineError) : Prop := e.kind = .operational

namespace Catalog

variable {c : Catalog}

theorem follow_failsAs (visited : List String) (depth : Nat) (name shown : String) :
    FailsAs EngineError.IsOperational (c.follow visited depth name shown) := by
  induction depth generalizing visited name shown with
  | zero => exact failsAs_error rfl
  | succ depth ih =>
    unfold follow
    split
    · exact failsAs_ok _
    · exact failsAs_ok _
    · split
      · exact failsAs_error rfl
      · exact (ih _ _ _).map _
    · exact failsAs_error rfl

theorem extent_failsAs (name : String) : FailsAs EngineError.IsOperational (c.extent name) :=
  (follow_failsAs _ _ _ _).map _

theorem select_failsAs (table : String) (names : List String) :
    FailsAs EngineError.IsOperational (c.select table names) := by
  refine (extent_failsAs table).bind fun e _ => FailsAs.bind ?_ fun _ _ => failsAs_ok _
  apply failsAs_mapM
  intro name _
  cases e.position? name with
  | some i => exact failsAs_ok _
  | none => exact failsAs_error rfl

theorem quotedColumn_failsAs (table column : String) :
    FailsAs EngineError.IsOperational (c.quotedColumn table column) := by
  apply (extent_failsAs table).bind
  intro e _
  cases e.position? column with
  | some i => exact failsAs_ok _
  | none => exact failsAs_ok _

theorem listerError?_isOperational {e : EngineError} (h : c.listerError? = some e) :
    e.IsOperational := by
  unfold listerError? at h
  split at h
  · cases h
  · split at h <;> cases h <;> rfl
  · cases h
    rfl

theorem columnsOf_failsAs (table : String) :
    FailsAs EngineError.IsOperational (c.columnsOf table) := by
  unfold columnsOf
  split
  · rename_i e hindered
    exact failsAs_error (listerError?_isOperational hindered)
  · split
    · exact (follow_failsAs _ _ _ _).map _
    · exact failsAs_ok _

end Catalog

theorem Query.answer_failsAs (c : Catalog) (q : Query) :
    FailsAs EngineError.IsOperational (q.answer c) := by
  cases q with
  | tableCount name => exact failsAs_ok _
  | definitions kind name => exact failsAs_ok _
  | definitionsFrom kind start => exact failsAs_ok _
  | columns table => exact Catalog.columnsOf_failsAs table
  | declarationCount names => exact (Catalog.select_failsAs _ _).bind fun _ _ => failsAs_ok _
  | declarations => exact (Catalog.select_failsAs _ _).bind fun _ _ => failsAs_ok _
  | relations => exact (Catalog.extent_failsAs _).bind fun _ _ => failsAs_ok _
  | contentsCount table => exact (Catalog.select_failsAs _ _).bind fun _ _ => failsAs_ok _
  | contentsTypes table => exact (Catalog.select_failsAs _ _).bind fun _ _ => failsAs_ok _
  | geometryColumns => exact (Catalog.select_failsAs _ _).bind fun _ _ => failsAs_ok _
  | distinctValues table column => exact (Catalog.quotedColumn_failsAs _ _).map _
  | columnValues table column => exact Catalog.quotedColumn_failsAs _ _

/-- A failed query that leaves the database itself in credit. -/
def Failure.IsQueryFailure (f : Failure) : Prop :=
  ∃ message sql, f = .infrastructure message sql false

theorem EngineError.failure_isQueryFailure {e : EngineError} (h : e.IsOperational) (d : Deadline)
    (sql : String) : (e.failure d sql).IsQueryFailure := by
  unfold EngineError.IsOperational at h
  unfold EngineError.failure
  rw [if_pos h]
  split
  · exact ⟨_, _, rfl⟩
  · exact ⟨_, _, rfl⟩

namespace Session

/-- The session on a database whose queries no fault befalls and no deadline interrupts. -/
def undisturbed (c : Catalog) : Session := ⟨.database c, []⟩

variable {c c' : Catalog} {looks : List QueryPattern} {faults : List Fault} {q : Query}
  {d : Deadline}

/-- A query that no fault befalls and no deadline interrupts has the answer of the database. -/
theorem ask_unbefallen (h : (⟨.database c looks, faults⟩ : Session).faultFor q = none)
    (uninterrupted : d.hasPassed = true → looks.any (·.covers q) = false) :
    (⟨.database c looks, faults⟩ : Session).ask q d =
      ((q.answer c).mapError fun e => e.failure d q.sql, d) := by
  have goesOn : (looks.any (·.covers q) && d.hasPassed) = false := by
    rw [Bool.and_comm]
    exact Bool.and_eq_false_imp.2 uninterrupted
  simp [ask, deadlineAfter, exchange, h, goesOn, Exchange.outcome]

/-- A query is replied to only if no fault befalls it and no deadline interrupts it. -/
theorem ask_eq_ok {r : q.Reply} (h : ((⟨.database c looks, faults⟩ : Session).ask q d).1 = .ok r) :
    (⟨.database c looks, faults⟩ : Session).faultFor q = none ∧
      (d.hasPassed = true → looks.any (·.covers q) = false) ∧ q.answer c = .ok r := by
  cases befallen : (⟨.database c looks, faults⟩ : Session).faultFor q with
  | some f =>
    simp only [ask, exchange, befallen, Exchange.outcome] at h
    cases h
  | none =>
    by_cases interrupted : d.hasPassed = true ∧ looks.any (·.covers q) = true
    · simp only [ask, exchange, deadlineAfter, befallen, Option.any_none, interrupted,
        Bool.and_self, Bool.false_eq_true, if_false, if_true, Exchange.outcome] at h
      cases h
    · rw [not_and, Bool.not_eq_true] at interrupted
      rw [ask_unbefallen befallen interrupted] at h
      cases answered : q.answer c with
      | ok a =>
        rw [answered] at h
        cases h
        exact ⟨rfl, interrupted, rfl⟩
      | error e =>
        rw [answered] at h
        cases h

/-- Where the same faults and interruptions befall it, a query has the same reply from databases
with the same answer. -/
theorem ask_eq_of_answer {looks' : List QueryPattern} (answered : q.answer c' = q.answer c)
    (alike : ((⟨.database c looks, faults⟩ : Session).deadlineAfter q d).hasPassed = true →
      looks'.any (·.covers q) = looks.any (·.covers q)) :
    (⟨.database c' looks', faults⟩ : Session).ask q d =
      (⟨.database c looks, faults⟩ : Session).ask q d := by
  have deadlines : (⟨.database c' looks', faults⟩ : Session).deadlineAfter q d =
      (⟨.database c looks, faults⟩ : Session).deadlineAfter q d := rfl
  have befallen : (⟨.database c' looks', faults⟩ : Session).faultFor q =
      (⟨.database c looks, faults⟩ : Session).faultFor q := rfl
  have interrupted : (looks'.any (·.covers q) &&
        ((⟨.database c looks, faults⟩ : Session).deadlineAfter q d).hasPassed) =
      (looks.any (·.covers q) &&
        ((⟨.database c looks, faults⟩ : Session).deadlineAfter q d).hasPassed) := by
    rw [Bool.eq_iff_iff, Bool.and_eq_true, Bool.and_eq_true]
    exact and_congr_left fun passed => by rw [alike passed]
  simp only [ask, exchange, deadlines, befallen, interrupted, answered]

theorem undisturbed_ask (c : Catalog) (q : Query) (d : Deadline) :
    (undisturbed c).ask q d = ((q.answer c).mapError fun e => e.failure d q.sql, d) :=
  ask_unbefallen (by simp [faultFor, isClosed]) fun _ => rfl

end Session

namespace Check

variable {α β : Type} (c : Catalog) (d : Deadline)

/-- What a check comes to on a database without faults. -/
def resultIn (k : Check α) : Except Failure α := (k.run (.undisturbed c) d).1

theorem run_undisturbed (k : Check α) : k.run (.undisturbed c) d = (k.resultIn c d, d) := by
  suffices (k.run (.undisturbed c) d).2 = d by exact Prod.ext rfl this
  induction k with
  | done a => rfl
  | stop f => rfl
  | ask q next ih =>
    rw [run, Session.undisturbed_ask]
    cases q.answer c with
    | ok reply => exact ih reply
    | error e => rfl

@[simp] theorem resultIn_done (a : α) : (Check.done a).resultIn c d = .ok a := rfl

@[simp] theorem resultIn_pure (a : α) : (pure a : Check α).resultIn c d = .ok a := rfl

@[simp] theorem resultIn_stop (f : Failure) :
    (Check.stop f : Check α).resultIn c d = .error f := rfl

@[simp] theorem resultIn_violate (v : Violation) :
    (violate v : Check α).resultIn c d = .error (.violation v) := rfl

theorem resultIn_reply (q : Query) :
    (reply q).resultIn c d = (q.answer c).mapError fun e => e.failure d q.sql := by
  simp only [resultIn, reply, run, Session.undisturbed_ask]
  cases q.answer c <;> rfl

theorem resultIn_bind (k : Check α) (next : α → Check β) :
    (k >>= next).resultIn c d = k.resultIn c d >>= fun a => (next a).resultIn c d := by
  change (run _ (k.bind next) d).1 = _
  rw [run_bind, run_undisturbed]
  cases k.resultIn c d <;> rfl

variable {c d}

theorem resultIn_reply_eq_ok {q : Query} {r : q.Reply} :
    (reply q).resultIn c d = .ok r ↔ q.answer c = .ok r := by
  rw [resultIn_reply]
  cases q.answer c <;> constructor <;> intro h <;> cases h <;> rfl

theorem failsAs_bind {P : Failure → Prop} {k : Check α} {next : α → Check β}
    (h : FailsAs P (k.resultIn c d))
    (hn : ∀ a, k.resultIn c d = .ok a → FailsAs P ((next a).resultIn c d)) :
    FailsAs P ((k >>= next).resultIn c d) := by
  rw [resultIn_bind]
  exact h.bind hn

theorem failsAs_forEach {P : Failure → Prop} {check : β → Check Unit} {bs : List β}
    (h : ∀ b ∈ bs, FailsAs P ((check b).resultIn c d)) :
    FailsAs P ((forEach check bs).resultIn c d) := by
  induction bs with
  | nil => exact failsAs_ok ()
  | cons b rest ih =>
    exact failsAs_bind (h b (by simp)) fun _ _ => ih fun b hb => h b (by simp [hb])

theorem resultIn_bind_eq_ok {k : Check α} {next : α → Check β} {b : β} :
    (k >>= next).resultIn c d = .ok b ↔
      ∃ a, k.resultIn c d = .ok a ∧ (next a).resultIn c d = .ok b := by
  rw [resultIn_bind]
  exact bind_eq_ok

theorem resultIn_then_eq_ok {k : Check Unit} {next : Check β} {b : β} :
    (k >>= fun _ => next).resultIn c d = .ok b ↔
      k.resultIn c d = .ok () ∧ next.resultIn c d = .ok b := by
  rw [resultIn_bind_eq_ok]
  exact ⟨fun ⟨(), h⟩ => h, fun h => ⟨(), h⟩⟩

theorem resultIn_require_eq_ok {condition : Bool} {v : Violation} :
    (require condition v).resultIn c d = .ok () ↔ condition = true := by
  cases condition <;> simp [require]

theorem resultIn_ofViolation_eq_ok {v : Option Violation} :
    (ofViolation? v).resultIn c d = .ok () ↔ v = none := by
  cases v <;> simp [ofViolation?]

theorem resultIn_ofExcept_eq_ok {x : Except Misuse α} {a : α} :
    (ofExcept x).resultIn c d = .ok a ↔ x = .ok a := by
  cases x <;> simp [ofExcept]

theorem resultIn_forEach_eq_ok {check : β → Check Unit} {bs : List β} :
    (forEach check bs).resultIn c d = .ok () ↔ ∀ b ∈ bs, (check b).resultIn c d = .ok () := by
  induction bs with
  | nil => simp [forEach]
  | cons b rest ih =>
    change (check b >>= fun _ => forEach check rest).resultIn c d = .ok () ↔ _
    simp [resultIn_then_eq_ok, ih]

end Check

namespace Failure

/-- Whether a failure is recorded as an outcome that speaks against the package. -/
def IsAdverse (f : Failure) : Prop :=
  ∃ v, f.verdict? = some v ∧ (v.status = .fail ∨ v.status = .error)

theorem isAdverse_violation (v : Violation) : (Failure.violation v).IsAdverse :=
  ⟨.fail v, rfl, .inl rfl⟩

theorem IsQueryFailure.isAdverse {f : Failure} (h : f.IsQueryFailure) : f.IsAdverse := by
  obtain ⟨message, sql, rfl⟩ := h
  exact ⟨.error message, rfl, .inr rfl⟩

end Failure

namespace Check

variable {α β : Type} {c : Catalog} {d : Deadline}

/-- A check that passes or speaks against the package. -/
def IsDecisive (c : Catalog) (d : Deadline) (k : Check α) : Prop :=
  FailsAs Failure.IsAdverse (k.resultIn c d)

theorem isDecisive_pure (a : α) : IsDecisive c d (pure a) := failsAs_ok a

theorem isDecisive_violate (v : Violation) : IsDecisive c d (violate v : Check α) :=
  failsAs_error (Failure.isAdverse_violation v)

theorem reply_failsAs (q : Query) : FailsAs Failure.IsQueryFailure ((reply q).resultIn c d) := by
  intro f h
  rw [resultIn_reply] at h
  cases answered : q.answer c with
  | ok r =>
    rw [answered] at h
    cases h
  | error e =>
    rw [answered] at h
    cases h
    exact EngineError.failure_isQueryFailure (q.answer_failsAs c e answered) d q.sql

theorem isDecisive_reply (q : Query) : IsDecisive c d (reply q) :=
  (reply_failsAs q).mono fun _ => Failure.IsQueryFailure.isAdverse

theorem IsDecisive.bind {k : Check α} {next : α → Check β} (h : IsDecisive c d k)
    (hn : ∀ a, k.resultIn c d = .ok a → IsDecisive c d (next a)) : IsDecisive c d (k >>= next) :=
  failsAs_bind h hn

theorem isDecisive_require (condition : Bool) (v : Violation) :
    IsDecisive c d (require condition v) := by
  cases condition
  · exact isDecisive_violate v
  · exact isDecisive_pure ()

theorem isDecisive_ofViolation (v : Option Violation) : IsDecisive c d (ofViolation? v) := by
  cases v with
  | none => exact isDecisive_pure ()
  | some v => exact isDecisive_violate v

theorem isDecisive_ofExcept {x : Except Misuse α} {a : α} (h : x = .ok a) :
    IsDecisive c d (ofExcept x) := by
  rw [h]
  exact isDecisive_pure a

end Check

end GeoConformance
