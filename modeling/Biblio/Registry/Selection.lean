import Biblio.Registry.Factory

/-!
# Selection of providers

The providers that are asked are those of the stored definitions that are enabled for the purpose,
highest priority first; equal priorities keep the order of the store.

* `Service.provider` is the provider in use for a definition.  It stays the same until the
  definition changes, and with it the caches.
* `Service.select` are the providers for a purpose, without those that cannot be built and, if
  wanted, without those that are suspended.
-/

set_option autoImplicit false

namespace Biblio

namespace State

variable {W : Type}

/-- The definitions for a purpose, highest priority first. -/
def selected (s : State W) (purpose : Definition → Bool) (skipSuspended : Bool) :
    Except StoreError (List Definition) :=
  match s.store.all with
  | .error e => .error e
  | .ok all =>
    let enabled := all.filter (fun d => d.enabled && purpose d)
    let suspended := (s.store.suspended s.wall).map Health.providerId
    let usable :=
      if skipSuspended then enabled.filter (fun d => !suspended.contains d.id) else enabled
    .ok (usable.mergeSort (fun a b => b.priority ≤ a.priority))

/-- The provider in use under an identifier. -/
def instance? (s : State W) (id : Int) : Option (Provider W) := s.instances.lookup id

/-- Puts a provider into use. -/
def enlist (s : State W) (p : Provider W) : State W :=
  { s with instances := (p.id, p) :: s.instances.filter (fun e => e.1 != p.id) }

/-- Takes the provider under an identifier out of use. -/
def dismiss (s : State W) (id : Int) : State W :=
  { s with instances := s.instances.filter (fun e => e.1 != id) }

end State

namespace Service

variable {W : Type}

/-- A new provider for a definition. -/
def assemble (service : Service W) (d : Definition) (source : Source W) (s : State W) :
    Provider W × State W :=
  ({ definition := d, source := source, number := s.built, rules := service.rules },
    { s with built := s.built + 1 })

/-- Builds a provider for a definition and puts it into use. -/
def replace (service : Service W) (d : Definition) (s : State W) :
    Except RegistryError (Provider W) × State W :=
  match service.factory.build d with
  | .error e => (.error e, s)
  | .ok source =>
    let (p, s) := service.assemble d.bare source s
    (.ok p, s.enlist p)

/-- The provider in use for a definition, a new one if the definition has changed. -/
def provider (service : Service W) (d : Definition) (s : State W) :
    Except RegistryError (Provider W) × State W :=
  match s.instance? d.id with
  | some p => if p.definition.sameConfig d then (.ok p, s) else service.replace d s
  | none => service.replace d s

/-- The providers for definitions, without those that cannot be built. -/
def providers (service : Service W) : List Definition → State W → List (Provider W) × State W
  | [], s => ([], s)
  | d :: rest, s =>
    match service.provider d s with
    | (.error _, s) => service.providers rest s
    | (.ok p, s) =>
      let (ps, s) := service.providers rest s
      (p :: ps, s)

/-- The providers for a purpose, highest priority first. -/
def select (service : Service W) (purpose : Definition → Bool) (skipSuspended : Bool)
    (s : State W) : Except RegistryError (List (Provider W)) × State W :=
  match s.selected purpose skipSuspended with
  | .error e => (.error (.ofStore e), s)
  | .ok ds =>
    let (ps, s) := service.providers ds s
    (.ok ps, s)

/-- The providers for a category. -/
def selectFor (service : Service W) (category : Category) (skipSuspended : Bool) (s : State W) :
    Except RegistryError (List (Provider W)) × State W :=
  service.select (fun d => d.enabledFor category) skipSuspended s

/-- The providers for anything at all. -/
def selectAll (service : Service W) (skipSuspended : Bool) (s : State W) :
    Except RegistryError (List (Provider W)) × State W :=
  service.select (fun _ => true) skipSuspended s

end Service
end Biblio
