import Biblio.Span

/-!
# The running clock

Caches, rate limits and time limits go by a clock that only runs forward.  Its instants are
nanoseconds since it was started, and it has a last instant.

* `Instant.after` adds a span and fails with `ClockOverflow` if that leads beyond the last instant.
-/

set_option autoImplicit false

namespace Biblio

/-- A reading of the running clock in nanoseconds. -/
abbrev Instant := Nat

/-- An instant beyond the last one of the clock was asked for. -/
inductive ClockOverflow where
  | beyondEnd
  deriving DecidableEq, Repr, Inhabited

/-- The wording of a clock overflow. -/
def ClockOverflow.message : ClockOverflow → String
  | .beyondEnd => "overflow when adding duration to instant"

namespace Instant

/-- The last whole second of the clock. -/
def lastSecond : Nat := 9223372036854775807

/-- The instant a span after another. -/
def after (t : Instant) (d : Span) : Except ClockOverflow Instant :=
  if (t + d) / Span.second ≤ lastSecond then .ok (t + d) else .error .beyondEnd

theorem after_eq_ok {t : Instant} {d : Span} {u : Instant} (h : after t d = .ok u) :
    u = t + d := by
  unfold after at h
  split at h
  · exact (Except.ok.inj h).symm
  · exact nomatch h

/-- Before an instant of the clock there is no overflow. -/
theorem after_of_le {t t' : Instant} {d d' : Span} {u : Instant} (h : after t d = .ok u)
    (hle : t' + d' ≤ t + d) : after t' d' = .ok (t' + d') := by
  unfold after at h ⊢
  split at h
  · next hlast => exact if_pos (Nat.le_trans (Nat.div_le_div_right hle) hlast)
  · exact nomatch h

end Instant
end Biblio
