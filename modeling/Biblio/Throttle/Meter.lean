import Biblio.Clock

/-!
# Throttled time

The time that a call is held back by rate limits does not count against its time limit.  A meter
measures it: waits may overlap, and the time of an overlap counts once.

* `Meter.begin` and `Meter.finish` mark the two ends of a wait.
* `Meter.reading` is the time measured up to an instant, waits in progress included.
-/

set_option autoImplicit false

namespace Biblio

/-- Measures the time during which at least one wait is in progress. -/
structure Meter where
  /-- The number of waits in progress. -/
  waiting : Nat := 0
  /-- The instant since which there has been one. -/
  since : Option Instant := none
  /-- The time measured before that. -/
  total : Span := 0
  deriving DecidableEq, Repr, Inhabited

namespace Meter

/-- A wait begins. -/
def begin (m : Meter) (now : Instant) : Meter where
  waiting := m.waiting + 1
  since := if m.waiting = 0 then some now else m.since
  total := m.total

/-- A wait ends. -/
def finish (m : Meter) (now : Instant) : Meter :=
  let left := m.waiting - 1
  if left = 0 then
    match m.since with
    | some start => ⟨0, none, m.total + (now - start)⟩
    | none => ⟨0, none, m.total⟩
  else ⟨left, m.since, m.total⟩

/-- The time measured up to an instant. -/
def reading (m : Meter) (now : Instant) : Span :=
  match m.since with
  | some start => m.total + (now - start)
  | none => m.total

end Meter
end Biblio
