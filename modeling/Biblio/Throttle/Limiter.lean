import Biblio.Clock

/-!
# Rate limits

A limiter admits at most so many requests in any minute.  Requests are served in the order of their
arrival, one at a time: while one waits for a slot, those behind it wait too.

* `Limiter.waitForSlot` waits until there is a slot.
* `Limiter.serve` decides about one request, which may be given up at some instant; a request that
  is given up takes no slot.
* `Limiter.status` is what the limiter shows of itself.
-/

set_option autoImplicit false

namespace Biblio

/-- Admits a limited number of requests in any minute. -/
structure Limiter where
  /-- How many requests are admitted a minute; zero for any number. -/
  perMinute : Nat
  /-- The admissions that may still count, oldest first. -/
  admitted : List Instant := []
  /-- From this instant on no earlier request stands in the way. -/
  freeAt : Instant := 0
  deriving Repr, Inhabited

/-- A request that arrives at the limiter. -/
structure Arrival where
  arrivedAt : Instant
  /-- The instant at which the request is given up unless it has been admitted. -/
  givenUpAt : Option Instant := none
  deriving Repr, Inhabited

/-- How long a request was held back that is admitted at an instant. -/
def Arrival.heldBack (a : Arrival) (admission : Instant) : Span := admission - a.arrivedAt

namespace Limiter

/-- The length of time in which admissions are counted. -/
def window : Span := Span.seconds 60

/-- Whether the limiter never holds anything back. -/
def unlimited (l : Limiter) : Bool := l.perMinute == 0

/-- The admissions that count at an instant. -/
def live (admitted : List Instant) (t : Instant) : List Instant :=
  admitted.dropWhile (fun a => a + window ≤ t)

/-- Waits for a slot from an instant on: admissions that have left the window are dropped, and as
long as the window is full the oldest is waited for.  Gives the instant at which there is a slot and
the admissions that count then. -/
def waitForSlot (perMinute : Nat) (t : Instant) : List Instant → Instant × List Instant
  | [] => (t, [])
  | oldest :: rest =>
    if oldest + window ≤ t then waitForSlot perMinute t rest
    else if (oldest :: rest).length < perMinute then (t, oldest :: rest)
    else waitForSlot perMinute (oldest + window) rest

/-- The instant at which a request has its turn: no earlier one stands in the way any more. -/
def turn (l : Limiter) (a : Arrival) : Instant := max a.arrivedAt l.freeAt

/-- The slot for a request, with the admissions that count then. -/
def slot (l : Limiter) (a : Arrival) : Instant × List Instant :=
  waitForSlot l.perMinute (l.turn a) l.admitted

/-- Records the admission of a request to its slot. -/
def grant (l : Limiter) (a : Arrival) : Limiter :=
  { l with admitted := (l.slot a).2 ++ [(l.slot a).1], freeAt := (l.slot a).1 }

/-- Serves one request: the instant of its admission, if it is admitted.  While it waits for its
slot it has the turn, until it is given up. -/
def serve (l : Limiter) (a : Arrival) : Option Instant × Limiter :=
  if l.unlimited then (some a.arrivedAt, l)
  else
    match a.givenUpAt with
    | none => (some (l.slot a).1, l.grant a)
    | some deadline =>
      if (l.slot a).1 ≤ deadline then (some (l.slot a).1, l.grant a)
      else if l.turn a ≤ deadline then (none, { l with freeAt := deadline })
      else (none, l)

/-- Serves requests in the order of their arrival. -/
def serveAll : List Arrival → Limiter → List (Option Instant) × Limiter
  | [], l => ([], l)
  | a :: rest, l =>
    let (first, l) := l.serve a
    let (others, l) := serveAll rest l
    (first :: others, l)

/-- What a limiter shows of itself. -/
structure Status where
  perMinute : Nat
  inWindow : Nat
  /-- The time until there is a slot, if there is none now. -/
  nextIn : Option Span
  deriving DecidableEq, Repr

/-- The state of the limiter at an instant. -/
def status (l : Limiter) (now : Instant) : Status :=
  let counting := live l.admitted now
  { perMinute := l.perMinute
    inWindow := counting.length
    nextIn :=
      if !l.unlimited && l.perMinute ≤ counting.length then
        counting.head?.map (fun oldest => oldest + window - now)
      else none }

end Limiter
end Biblio
