import GeoConformance.Deadline
import GeoConformance.Failure

/-!
# Guarded exchanges with the engine

Around every query a watch over the deadline is installed and removed again. An error of the engine
becomes an infrastructure failure, fatal if the database is at fault; anything else passes unchanged.
Removing the watch from a connection that is already closed is not an error.
-/

namespace GeoConformance

/-- What the engine does in the three parts of one query. -/
structure Exchange (α : Type) where
  installing : Option EngineError
  executing : Except EngineError α
  removing : Option EngineError

/-- What a connection is asked to do. -/
inductive ConnectionCall
  | watch (installed : Bool) (steps : Nat)
  | execute (sql : String) (parameters : List Value)
deriving DecidableEq

/-- How many steps of the engine pass between two looks at the deadline. -/
def watchInterval : Nat := 1000

/-- The failure that an error of the engine means for the query `sql`. -/
def EngineError.failure (e : EngineError) (d : Deadline) (sql : String) : Failure :=
  if e.kind = .operational then
    if e.message = "interrupted" then
      let reason := if d.cancelled then "cancelled" else s!"timed out after {d.limitText}s"
      .infrastructure s!"Query {reason}: {sql}" (some sql) false
    else .infrastructure s!"Query failed: {e.message}" (some sql) false
  else if e.kind.isDatabase then
    .infrastructure s!"Database error: {e.message}" (some sql) true
  else .engine e

namespace Exchange

variable {α : Type}

def outcome (x : Exchange α) (d : Deadline) (sql : String) : Except Failure α :=
  let answer : Except Failure α :=
    match x.installing with
    | some e => .error (e.failure d sql)
    | none => x.executing.mapError fun e => e.failure d sql
  match x.removing with
  | some e => if e.kind = .programming then answer else .error (.engine e)
  | none => answer

/-- The calls made for a query; it is not executed if the watch cannot be installed. -/
def calls (x : Exchange α) (sql : String) (parameters : List Value) : List ConnectionCall :=
  if x.installing.isSome then [.watch true watchInterval, .watch false 0]
  else [.watch true watchInterval, .execute sql parameters, .watch false 0]

end Exchange

/-- The first value of the first row, or null if there is no row. -/
def firstValue (rows : List (List Value)) : Except Failure Value :=
  match rows with
  | [] => .ok .null
  | row :: _ =>
    match row with
    | [] => .error (.misuse .emptyRow)
    | v :: _ => .ok v

end GeoConformance
