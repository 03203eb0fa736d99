import GeoConformance.Session

/-!
# Checks

A check is a tree of queries: it ends with a result or a failure, or asks a query and goes on with
the reply. A query without a reply ends the check with that failure, so no check can take a failed
query for an answer.
-/

namespace GeoConformance

inductive Check (α : Type) : Type
  | done (a : α)
  | stop (f : Failure)
  | ask (q : Query) (next : q.Reply → Check α)

namespace Check

variable {α β : Type}

def bind : Check α → (α → Check β) → Check β
  | .done a, next => next a
  | .stop f, _ => .stop f
  | .ask q after, next => .ask q fun reply => (after reply).bind next

instance : Monad Check where
  pure := .done
  bind := Check.bind

/-- The reply to one query. -/
def reply (q : Query) : Check q.Reply := .ask q .done

def violate (v : Violation) : Check α := .stop (.violation v)

/-- Ends with the violation unless the condition holds. -/
def require (condition : Bool) (v : Violation) : Check Unit :=
  if condition then .done () else violate v

/-- Ends with the violation if there is one. -/
def ofViolation? : Option Violation → Check Unit
  | some v => violate v
  | none => .done ()

def ofExcept : Except Misuse α → Check α
  | .ok a => .done a
  | .error m => .stop (.misuse m)

/-- Performs a check for each element in turn, up to the first failure. -/
def forEach (check : β → Check Unit) : List β → Check Unit
  | [] => .done ()
  | b :: rest => (check b).bind fun _ => forEach check rest

/-- The result of a check in a session, and the deadline that it leaves. -/
def run (s : Session) : Check α → Deadline → Except Failure α × Deadline
  | .done a, d => (.ok a, d)
  | .stop f, d => (.error f, d)
  | .ask q next, d =>
    match s.ask q d with
    | (.ok reply, d) => (next reply).run s d
    | (.error f, d) => (.error f, d)

@[simp] theorem run_done (s : Session) (a : α) (d : Deadline) : run s (.done a) d = (.ok a, d) := rfl

@[simp] theorem run_stop (s : Session) (f : Failure) (d : Deadline) :
    run s (.stop f : Check α) d = (.error f, d) := rfl

theorem run_bind (s : Session) (c : Check α) (next : α → Check β) (d : Deadline) :
    run s (c.bind next) d =
      match c.run s d with
      | (.ok a, d) => (next a).run s d
      | (.error f, d) => (.error f, d) := by
  induction c generalizing d with
  | done a => rfl
  | stop f => rfl
  | ask q after ih =>
    simp only [bind, run]
    split
    · exact ih _ _
    · rfl

end Check
end GeoConformance
