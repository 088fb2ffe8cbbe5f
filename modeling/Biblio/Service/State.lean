import Biblio.Health.Tracking
import Biblio.Metrics.Series
import Biblio.Provider.Basic

/-!
# The running service

* `State` is all that changes while the service runs, and `Runtime` what the system decides on which it
  runs.
* `Action` is what the service does.  It changes the state, and it may break off because the clock
  would overflow; what has changed by then stays changed.
-/

set_option autoImplicit false

namespace Biblio

/-- What the service has no say in. -/
structure Runtime where
  /-- What the wall clock shows when the running clock has reached an instant; it may also stand
  still, or be set. -/
  wallAt : Instant → Option Moment := fun _ => none
  /-- Whether a call that begins at an instant is looked at before its deadline, if both are due at the
  same time.  The order is left to chance. -/
  callFirst : Instant → Bool := fun _ => false

/-- All that changes while the service runs; the sources act on a world `W`. -/
structure State (W : Type) where
  /-- The running clock. -/
  now : Instant := 0
  /-- The wall clock. -/
  wall : Moment := ⟨0, 0⟩
  /-- The system on which the service runs. -/
  runtime : Runtime := {}
  /-- What the sources act on. -/
  world : W
  store : Store := {}
  metrics : Metrics := {}
  /-- The caches of the providers, by their numbers. -/
  caches : List (Nat × Caches) := []
  /-- The provider in use for each definition. -/
  instances : List (Int × Provider W) := []
  /-- How many providers have been built. -/
  built : Nat := 0

instance {W : Type} [Inhabited W] : Inhabited (State W) := ⟨{ world := default }⟩

/-- What the service does. -/
abbrev Action (W α : Type) := ExceptT ClockOverflow (StateM (State W)) α

namespace State

variable {W : Type}

/-- At a later instant, with what has become of the world. -/
def later (s : State W) (now : Instant) (world : W) : State W :=
  { s with now := now, wall := (s.runtime.wallAt now).getD s.wall, world := world }

/-- The caches of a provider. -/
def cachesOf (s : State W) (p : Provider W) : Caches :=
  (s.caches.lookup p.number).getD (Caches.empty p.rules.windows)

/-- Changes the caches of a provider. -/
def setCaches (s : State W) (p : Provider W) (c : Caches) : State W :=
  { s with caches := (p.number, c) :: s.caches.filter (fun e => e.1 != p.number) }

/-- Counts something. -/
def count (s : State W) (changes : List (Series × Nat)) : State W :=
  { s with metrics := s.metrics.addAll changes }

end State

namespace Action

variable {W : Type}

/-- Counts one of a series. -/
def count (s : Series) : Action W Unit := modify fun st => st.count [(s, 1)]

/-- Counts the results of an operation. -/
def countResults (operation : String) (n : Nat) : Action W Unit :=
  modify fun st => st.count (Metrics.results operation n)

end Action
end Biblio
