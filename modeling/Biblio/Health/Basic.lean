import Biblio.Moment.Basic

/-!
# Health of sources

For every source there is a record of how its queries went, which decides whether it is asked.

* `Health` is the record; `Health.fresh` is the one without a history.
* `Health.succeed` and `Health.fail` are the two transitions.  A failure suspends the source until
  some moment, and a suspension only ever ends later than it would have.
* `Backoff` is the policy for the length of a suspension: it doubles with every failure in a row.
-/

set_option autoImplicit false

namespace Biblio

/-- The greatest count of queries. -/
def greatestQueries : Nat := 18446744073709551615

/-- The greatest number of failures in a row that is told apart. -/
def greatestLevel : Nat := 4294967295

/-- How the queries to one source went. -/
structure Health where
  providerId : Int
  lastSuccess : Option Moment := none
  successes : Nat := 0
  failures : Nat := 0
  /-- The number of failures since the last success. -/
  level : Nat := 0
  /-- The first failure since the last success. -/
  firstFailure : Option Moment := none
  lastFailure : Option Moment := none
  /-- The source is not asked before this moment. -/
  suspendedTill : Option Moment := none
  deriving DecidableEq, Repr, Inhabited

namespace Health

/-- The record of a source that was never asked. -/
def fresh (id : Int) : Health := { providerId := id }

/-- Whether the source is suspended at a moment. -/
def suspendedAt (h : Health) (now : Moment) : Bool :=
  match h.suspendedTill with
  | some till => now.precedes till
  | none => false

/-- Whether the source has failed since its last success. -/
def degraded (h : Health) : Bool := 0 < h.level

/-- The record after a query that succeeded. -/
def succeed (h : Health) (now : Moment) : Health where
  providerId := h.providerId
  lastSuccess := some now
  successes := min (h.successes + 1) greatestQueries
  failures := h.failures

/-- The record after a query that failed; the source is suspended for a span. -/
def fail (h : Health) (now : Moment) (span : Span) : Health where
  providerId := h.providerId
  lastSuccess := h.lastSuccess
  successes := h.successes
  failures := min (h.failures + 1) greatestQueries
  level := min (h.level + 1) greatestLevel
  firstFailure := some (h.firstFailure.getD now)
  lastFailure := some now
  suspendedTill :=
    some (match h.suspendedTill with
      | some current => (now.add span).later current
      | none => now.add span)

end Health

/-- The policy for suspensions. -/
structure Backoff where
  /-- The suspension after the first failure. -/
  base : Span
  /-- The longest suspension. -/
  greatest : Span
  deriving DecidableEq, Repr, Inhabited

namespace Backoff

/-- A minute at first, a day at most. -/
def standard : Backoff := ⟨Span.seconds 60, Span.seconds 86400⟩

/-- The number of doublings that are counted. -/
def doublings : Nat := 31

/-- The suspension after a number of failures in a row: none without a failure; else the base,
doubled for every failure after the first, up to the greatest. -/
def spanFor (b : Backoff) (level : Nat) : Span :=
  if level = 0 then 0
  else
    let doubled := b.base * Nat.pow 2 (min (level - 1) doublings)
    if doubled ≤ Span.greatest then min doubled b.greatest else b.greatest

end Backoff
end Biblio
