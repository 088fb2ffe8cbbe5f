import Biblio.Registry.Error
import Biblio.Service.State
import Biblio.Text.Order

/-!
# Implementations

A factory knows the implementations that definitions may name, in the order of their names, and
builds the source of a definition.
-/

set_option autoImplicit false

namespace Biblio

/-- Builds the source of a definition. -/
abbrev Builder (W : Type) := Definition → Except SourceError (Source W)

/-- The implementations, each under its name. -/
structure Factory (W : Type) where
  builders : List (String × Builder W) := []

namespace Factory

variable {W : Type}

/-- Adds an implementation, in place of the one with the same name. -/
def register (f : Factory W) (implementation : String) (builder : Builder W) : Factory W :=
  ⟨Text.insertSorted implementation builder f.builders⟩

/-- The names of the implementations. -/
def implementations (f : Factory W) : List String := f.builders.map (·.1)

/-- Whether there is an implementation of a name. -/
def knows (f : Factory W) (implementation : String) : Bool :=
  (f.builders.lookup implementation).isSome

/-- Builds the source of a definition. -/
def build (f : Factory W) (d : Definition) : Except RegistryError (Source W) :=
  match f.builders.lookup d.implementation with
  | none => .error (.unknownImplementation d.implementation)
  | some builder =>
    match builder d with
    | .ok source => .ok source
    | .error e => .error (.unbuildable e)

end Factory

/-- What does not change while the service runs. -/
structure Service (W : Type) where
  factory : Factory W
  rules : Rules

end Biblio
