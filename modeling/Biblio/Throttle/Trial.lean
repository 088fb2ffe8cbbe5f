import Biblio.Throttle.Limiter
import Biblio.Throttle.Meter

/-!
# A limiter on trial

A limiter and a meter with a clock of their own, which moves only when it is told to or when
everything waits.

* `acquire` sends requests together, `metered` does so under the meter, `inTurn` one after the
  other, and `abandon` gives up those that are not admitted in time.
-/

set_option autoImplicit false

namespace Biblio

/-- A limiter, a meter and a clock. -/
structure Trial where
  limiter : Limiter
  meter : Meter := {}
  now : Instant := 0
  deriving Inhabited

namespace Trial

/-- Moves the clock. -/
def advance (t : Trial) (d : Span) : Trial := { t with now := t.now + d }

/-- The instant of the last admission, or the present one. -/
def lastAdmission (now : Instant) (admissions : List (Option Instant)) : Instant :=
  admissions.foldl (fun latest a => max latest (a.getD latest)) now

/-- The waits that end at the given instants after a start. -/
def waits (start : Instant) (admissions : List (Option Instant)) : List Span :=
  admissions.filterMap (fun a => a.map (Arrival.heldBack ⟨start, none⟩))

/-- Sends requests together and waits for all of them. -/
def acquire (t : Trial) (n : Nat) : List Span × Trial :=
  let (admissions, limiter) := Limiter.serveAll (List.replicate n ⟨t.now, none⟩) t.limiter
  (waits t.now admissions,
    { t with limiter := limiter, now := lastAdmission t.now admissions })

/-- The meter at an instant, after waits that began together have ended at the given instants. -/
def meterAt (t : Trial) (ends : List Instant) (instant : Instant) : Meter :=
  if t.limiter.unlimited then t.meter
  else
    let begun := ends.foldl (fun (m : Meter) _ => m.begin t.now) t.meter
    (ends.filter (· ≤ instant)).foldl (fun (m : Meter) e => m.finish e) begun

/-- Sends requests together under the meter. -/
def metered (t : Trial) (n : Nat) : List Span × Trial :=
  let (admissions, limiter) := Limiter.serveAll (List.replicate n ⟨t.now, none⟩) t.limiter
  let finish := lastAdmission t.now admissions
  (waits t.now admissions,
    { limiter := limiter, meter := t.meterAt (admissions.filterMap id) finish, now := finish })

/-- Sends requests under the meter one after the other, each after a pause. -/
def inTurn (gap : Span) : Nat → Trial → List Span × Trial
  | 0, t => ([], t)
  | n + 1, t =>
    let (first, t) := (t.advance gap).metered 1
    let (others, t) := inTurn gap n t
    (first ++ others, t)

/-- What a trial with abandoned requests shows. -/
structure Abandoned where
  /-- The waits, if all requests were admitted in time. -/
  waits : Option (List Span)
  /-- The reading of the meter at the time of the look. -/
  seen : Span
  /-- The reading of the meter at the end. -/
  throttled : Span

/-- Sends requests together under the meter, gives up what is not admitted within a time, and looks
at the meter at another time. -/
def abandon (t : Trial) (n : Nat) (patience look : Span) : Abandoned × Trial :=
  let deadline := t.now + patience
  let (admissions, limiter) :=
    Limiter.serveAll (List.replicate n ⟨t.now, some deadline⟩) t.limiter
  let complete := admissions.all Option.isSome
  let finish := if complete then lastAdmission t.now admissions else deadline
  let ends := admissions.map (fun a => a.getD deadline)
  let lookAt := t.now + look
  let after := max finish lookAt
  let meter := t.meterAt ends after
  ({ waits := if complete then some (waits t.now admissions) else none
     seen := (t.meterAt ends lookAt).reading lookAt
     throttled := meter.reading after },
    { limiter := limiter, meter := meter, now := after })

/-- What the limiter shows of itself now. -/
def status (t : Trial) : Limiter.Status := t.limiter.status t.now

end Trial
end Biblio
