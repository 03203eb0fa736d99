import GeoConformance.Number

/-!
# Deadlines

A deadline limits the time of each query by itself and can be cancelled, after which it has passed
for good. A limit of zero is none. The clock is not part of a deadline: a limit that is not negative
is taken as not yet reached.
-/

namespace GeoConformance

structure Deadline where
  limit : Option Number
  cancelled : Bool
deriving DecidableEq

namespace Deadline

def ofSeconds (seconds : Option Number) : Deadline := ⟨seconds.filter (!·.isZero), false⟩

def cancel (d : Deadline) : Deadline := { d with cancelled := true }

/-- What the watch over a running query sees. -/
def hasPassed (d : Deadline) : Bool := d.cancelled || d.limit.any (·.isNegative)

def limitText (d : Deadline) : String := (d.limit.map Number.text).getD "None"

@[simp] theorem cancel_cancel (d : Deadline) : d.cancel.cancel = d.cancel := rfl

@[simp] theorem cancel_limit (d : Deadline) : d.cancel.limit = d.limit := rfl

end Deadline
end GeoConformance
