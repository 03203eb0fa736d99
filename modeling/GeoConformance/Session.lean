import GeoConformance.Exchange
import GeoConformance.Query

/-!
# Sessions

A session is an open connection: what lies behind it, and the faults that befall its queries. A
fault takes the place of the answer to every query at its point, or only of those about one name,
and may cancel the deadline first. The engine looks at the deadline only every so many steps, so
that a deadline that has passed interrupts the queries that take long enough and no others; which
queries these are belongs to what lies behind the session and stays the same while it is open.
-/

namespace GeoConformance

structure Fault where
  point : QueryPoint
  name : Option String
  error : EngineError
  cancels : Bool
deriving DecidableEq

namespace Fault

def befalls (f : Fault) (q : Query) : Bool :=
  QueryPattern.covers ⟨f.point, f.name⟩ q

end Fault

inductive Backing
  /-- A database, and the queries to it in which the engine looks at the deadline. -/
  | database (catalog : Catalog) (looks : List QueryPattern := [])
  /-- A file with the right header and nothing usable behind it. -/
  | unreadable
  | closed
deriving DecidableEq

/-- The tables and views that are not read without a look at the deadline, at two steps a row. -/
def Catalog.longReads (c : Catalog) : List QueryPattern :=
  let isLong (o : SchemaObject) : Bool :=
    (c.extent o.name).toOption.any fun e => watchInterval ≤ 2 * e.rows.length
  (c.filter isLong).map fun o => ⟨.rows, some o.name⟩

structure Session where
  backing : Backing
  faults : List Fault
deriving DecidableEq

namespace Session

def closedError : EngineError := ⟨.programming, "Cannot operate on a closed database."⟩

def unreadableError : EngineError := ⟨.database, "file is not a database"⟩

def interruptedError : EngineError := ⟨.operational, "interrupted"⟩

def isClosed (s : Session) : Bool := s.backing == .closed

/-- The first of the faults that befall a query. -/
def faultFor (s : Session) (q : Query) : Option Fault :=
  if s.isClosed then none else s.faults.find? (·.befalls q)

/-- What the engine does for a query under a deadline. -/
def exchange (s : Session) (q : Query) (d : Deadline) : Exchange q.Reply :=
  match s.backing with
  | .closed => ⟨some closedError, .error closedError, some closedError⟩
  | .unreadable => ⟨none, .error ((s.faultFor q).elim unreadableError Fault.error), none⟩
  | .database catalog looks =>
    match s.faultFor q with
    | some f => ⟨none, .error f.error, none⟩
    | none =>
      if looks.any (·.covers q) && d.hasPassed then ⟨none, .error interruptedError, none⟩
      else ⟨none, q.answer catalog, none⟩

/-- The deadline after the faults of a query have had their effect on it. -/
def deadlineAfter (s : Session) (q : Query) (d : Deadline) : Deadline :=
  if (s.faultFor q).any (·.cancels) then d.cancel else d

def ask (s : Session) (q : Query) (d : Deadline) : Except Failure q.Reply × Deadline :=
  let d := s.deadlineAfter q d
  ((s.exchange q d).outcome d q.sql, d)

end Session
end GeoConformance
