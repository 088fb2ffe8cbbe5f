import Biblio.Json.Basic

/-!
# Spans of time

A span is a number of nanoseconds.  Spans that come from outside have at most `Span.greatest`
nanoseconds: as many seconds as fit 64 bits, and less than one more.
-/

set_option autoImplicit false

namespace Biblio

/-- A length of time in nanoseconds. -/
abbrev Span := Nat

namespace Span

/-- The nanoseconds of a second. -/
def second : Span := 1000000000

/-- The nanoseconds of a millisecond. -/
def millisecond : Span := 1000000

/-- The greatest number of seconds in a span. -/
def greatestSeconds : Nat := 18446744073709551615

/-- The greatest span. -/
def greatest : Span := greatestSeconds * second + (second - 1)

/-- A number of seconds. -/
def seconds (n : Nat) : Span := n * second

/-- A number of milliseconds. -/
def milliseconds (n : Nat) : Span := n * millisecond

/-- The whole seconds of a span. -/
def wholeSeconds (d : Span) : Nat := d / second

/-- A span as its seconds and the nanoseconds that are left. -/
def toJson (d : Span) : Json :=
  Json.ofMembers [("secs", .nat (d / second)), ("nanos", .nat (d % second))]

/-- The seconds of a number of days, as far as 64 bits reach. -/
def daysInSeconds (days : Nat) : Nat := min (days * 86400) greatestSeconds

end Span
end Biblio
