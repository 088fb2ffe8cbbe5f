import Biblio.Moment.Calendar
import Biblio.Span

/-!
# Moments

A moment is an instant of the wall clock: seconds since the beginning of 1970 in universal time,
and nanoseconds.  A leap second is the nanoseconds from one to two seconds after the second before
it, so moments are ordered by their seconds and then by their nanoseconds.

* `Moment.add` adds a span, and stops at the last moment that is counted.
* `Moment.precedes` is the order.
-/

set_option autoImplicit false

namespace Biblio

/-- An instant of the wall clock. -/
structure Moment where
  /-- Seconds since the beginning of 1970. -/
  seconds : Int
  /-- Nanoseconds, up to two seconds in a leap second. -/
  nanos : Nat
  deriving DecidableEq, Repr, Inhabited

namespace Moment

/-- The seconds of a day. -/
def daySeconds : Int := 86400

/-- The last moment that is counted. -/
def latest : Moment :=
  ⟨(Date.toDays ⟨Date.greatestYear, 12, 31⟩ + 1) * daySeconds - 1, 999999999⟩

/-- The first moment that is counted. -/
def earliest : Moment := ⟨Date.toDays ⟨Date.leastYear, 1, 1⟩ * daySeconds, 0⟩

/-- The strict order of moments. -/
def precedes (a b : Moment) : Bool :=
  a.seconds < b.seconds || (a.seconds == b.seconds && a.nanos < b.nanos)

/-- The later of two moments. -/
def later (a b : Moment) : Moment := if b.precedes a then a else b

/-- A moment in a leap second, taken as the same nanoseconds of the second before it, when what is
added leads out of the leap second. -/
def leaveLeap (m : Moment) (d : Span) : Moment :=
  if Span.second ≤ m.nanos ∧ 2 * Span.second ≤ m.nanos + d then
    ⟨m.seconds, m.nanos - Span.second⟩
  else m

/-- A moment plus a span, without an end. -/
def plus (m : Moment) (d : Span) : Moment :=
  let n := m.leaveLeap d
  if Span.second ≤ n.nanos then ⟨n.seconds, n.nanos + d⟩
  else
    let total := n.nanos + d
    ⟨n.seconds + (total / Span.second : Nat), total % Span.second⟩

/-- A moment plus a span, or the last moment that is counted. -/
def add (m : Moment) (d : Span) : Moment :=
  let n := m.plus d
  if latest.seconds < n.seconds then latest else n

/-- The date of a moment. -/
def date (m : Moment) : Date := Date.ofDays (m.seconds / daySeconds)

/-- The second of the day of a moment. -/
def secondOfDay (m : Moment) : Nat := (m.seconds % daySeconds).toNat

/-- The whole seconds from one moment to a later one. -/
def secondsSince (start m : Moment) : Int :=
  let whole := m.seconds - start.seconds
  if m.nanos < start.nanos then whole - 1 else whole

end Moment
end Biblio
