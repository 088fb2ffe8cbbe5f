import Biblio.Source.Activity
import Biblio.Throttle.Meter

/-!
# Time limits

A call may be active for a limited time; the time that a rate limit holds it back does not count.

* `TimeLimit` is a limit under way: a deadline, and a meter for the time that does not count.
* `TimeLimit.pass` lets time pass up to an instant.  Whenever the deadline is met on the way, the
  active time so far decides: if it is used up the call has expired, else the deadline is put off
  by what is left of it.  A call that goes on at the very instant of its deadline may be looked at
  before the deadline is, or after it; the limit carries which.
* `TimeLimit.run` runs a call under a limit.
-/

set_option autoImplicit false

namespace Biblio

/-- A time limit under way. -/
structure TimeLimit where
  /-- The instant at which the call began. -/
  started : Instant
  /-- How long the call may be active. -/
  allowed : Span
  /-- The instant at which the limit is looked at again. -/
  deadline : Instant
  /-- When the call goes on at the very instant of the deadline, it is looked at first. -/
  callFirst : Bool := false
  /-- Measures the time that does not count. -/
  meter : Meter := {}
  deriving DecidableEq, Repr, Inhabited

/-- What becomes of a limit while time passes. -/
inductive Passage where
  /-- The call goes on under the limit. -/
  | passed (limit : TimeLimit)
  /-- The active time was used up at an instant. -/
  | expired (instant : Instant)
  /-- The deadline could not be put off at an instant. -/
  | overflow (instant : Instant)
  deriving DecidableEq, Repr, Inhabited

namespace TimeLimit

/-- A limit for a call that begins now. -/
def start (now : Instant) (allowed : Span) (callFirst : Bool) : Except ClockOverflow TimeLimit :=
  match Instant.after now allowed with
  | .error e => .error e
  | .ok deadline =>
    .ok { started := now, allowed := allowed, deadline := deadline, callFirst := callFirst }

/-- The active time up to an instant. -/
def active (l : TimeLimit) (t : Instant) : Span := t - l.started - l.meter.reading t

/-- Puts the deadline off by the active time that is left. -/
def putOff (l : TimeLimit) : TimeLimit :=
  { l with deadline := l.deadline + (l.allowed - l.active l.deadline) }

/-- The call goes on at an instant before its deadline is looked at. -/
def Precedes (l : TimeLimit) (goal : Instant) : Prop :=
  goal < l.deadline ∨ l.callFirst = true ∧ goal = l.deadline

instance (l : TimeLimit) (goal : Instant) : Decidable (l.Precedes goal) :=
  inferInstanceAs (Decidable (goal < l.deadline ∨ l.callFirst = true ∧ goal = l.deadline))

/-- Lets time pass up to an instant. -/
def pass (l : TimeLimit) (goal : Instant) : Passage :=
  if l.Precedes goal then .passed l
  else if l.allowed ≤ l.active l.deadline then .expired l.deadline
  else
    match Instant.after l.deadline (l.allowed - l.active l.deadline) with
    | .error _ => .overflow l.deadline
    | .ok _ => pass l.putOff goal
termination_by goal + 1 - l.deadline
decreasing_by
  have early : ¬ @LT.lt Nat _ goal l.deadline := fun h => ‹¬ l.Precedes goal› (.inl h)
  have left : ¬ @LE.le Nat _ l.allowed (l.active l.deadline) := ‹_›
  simp only [putOff]
  omega

/-- How a call under a limit ends. -/
inductive Ending (α : Type) where
  | answered (answer : α)
  | expired
  | overflow
  deriving DecidableEq, Repr, Inhabited

/-- Runs a call under a limit. -/
def run {W α : Type} (l : TimeLimit) (now : Instant) (w : W) :
    Activity W α → Ending α × Instant × W
  | .done a => (.answered a, now, w)
  | .look next => run l now w (next now w)
  | .change f next => run l now (f w) next
  | .hold next => run { l with meter := l.meter.begin now } now w next
  | .release next => run { l with meter := l.meter.finish now } now w next
  | .wait span next =>
    match l.pass (now + span) with
    | .passed l => run l (now + span) w next
    | .expired t => (.expired, t, w)
    | .overflow t => (.overflow, t, w)

end TimeLimit
end Biblio
