import Biblio.Clock
import Biblio.Source.Error

/-!
# Calls in progress

A call of a source takes time, and what it does depends on the world it acts on.

* `Activity` is such a call, step by step: it looks at the world, changes it, waits, and ends with
  an answer.  It says when a rate limit begins to hold it back and when that is over; several may do so
  at a time.
* `Activity.run` lets it run to its end, however long it takes.
-/

set_option autoImplicit false

namespace Biblio

/-- A call on a world `W` that ends with an `α`. -/
inductive Activity (W α : Type) where
  /-- The call has ended. -/
  | done (answer : α)
  /-- Looks at the clock and at the world. -/
  | look (next : Instant → W → Activity W α)
  /-- Changes the world. -/
  | change (f : W → W) (next : Activity W α)
  /-- A wait for a rate limit begins. -/
  | hold (next : Activity W α)
  /-- A wait for a rate limit is over. -/
  | release (next : Activity W α)
  /-- Lets time pass. -/
  | wait (span : Span) (next : Activity W α)

/-- A call of a source, which may fail. -/
abbrev Call (W α : Type) := Activity W (Except SourceError α)

namespace Activity

variable {W α β : Type}

/-- Goes on with another call when the first has ended. -/
def bind : Activity W α → (α → Activity W β) → Activity W β
  | .done a, f => f a
  | .look next, f => .look (fun now w => bind (next now w) f)
  | .change g next, f => .change g (bind next f)
  | .hold next, f => .hold (bind next f)
  | .release next, f => .release (bind next f)
  | .wait span next, f => .wait span (bind next f)

instance : Monad (Activity W) where
  pure := .done
  bind := bind

/-- Runs a call that starts at an instant to its end. -/
def run (now : Instant) (w : W) : Activity W α → α × Instant × W
  | .done a => (a, now, w)
  | .look next => run now w (next now w)
  | .change f next => run now (f w) next
  | .hold next => run now w next
  | .release next => run now w next
  | .wait span next => run (now + span) w next

end Activity
end Biblio
