import Biblio.Provider.Lookup
import Biblio.Registry.Selection

/-!
# The registry of providers

* `all`, `find`, `findNamed` and `knows` read the stored definitions, with the health records.
* `validate` lists what is wrong with a definition.  Names are unique whatever their case and the
  blanks around them, the implementation has to be known and to accept the settings, and the
  priority has bounds.
* `create`, `update`, `delete` and `seed` change the definitions.  `create` gives a definition the
  priority that its source suggests; `seed` fills a store that is empty.
* `test` checks that the source of a definition can be reached.
-/

set_option autoImplicit false

namespace Biblio

/-- What a new definition of an implementation starts from. -/
structure Template where
  implementation : String
  priority : Nat
  capabilities : Capabilities
  deriving DecidableEq, Repr, Inhabited

/-- A template as JSON. -/
def Template.toJson (t : Template) : Json :=
  Json.ofMembers
    [ ("implementation", .str t.implementation),
      ("priority", .nat t.priority),
      ("capabilities", t.capabilities.toJson) ]

/-- The form in which names are compared. -/
def nameKey (name : String) : String := Text.lowercase (Text.trim name)

namespace State

variable {W : Type}

/-- A definition with its health record. -/
def withHealth (s : State W) (d : Definition) : Definition :=
  { d with health := some (s.store.health d.id) }

/-- Every definition. -/
def all (s : State W) : Except RegistryError (List Definition) :=
  match s.store.all with
  | .error e => .error (.ofStore e)
  | .ok ds => .ok (ds.map s.withHealth)

/-- The definition under an identifier. -/
def find (s : State W) (id : Int) : Except RegistryError Definition :=
  match s.store.find? id with
  | .error e => .error (.ofStore e)
  | .ok none => .error (.notFound id)
  | .ok (some d) => .ok (s.withHealth d)

/-- The definition of a name, in any case. -/
def findNamed (s : State W) (name : String) : Except RegistryError (Option Definition) :=
  match s.store.all with
  | .error e => .error (.ofStore e)
  | .ok ds =>
    .ok ((ds.find? (fun d => Text.lowercase d.name == nameKey name)).map s.withHealth)

/-- Whether there is a definition under an identifier. -/
def knows (s : State W) (id : Int) : Except RegistryError Bool :=
  match s.store.find? id with
  | .error e => .error (.ofStore e)
  | .ok d => .ok d.isSome

end State

/-! ## Validation -/

/-- What is wrong with the name of a definition, given the stored ones. -/
def nameProblems (stored : Except StoreError (List Definition)) (d : Definition) :
    Except RegistryError (List Problem) :=
  let name := Text.trim d.name
  if name = "" then .ok [⟨"name", "must not be empty"⟩]
  else
    match stored with
    | .error e => .error (.ofStore e)
    | .ok others =>
      if others.any (fun o => o.id != d.id && nameKey o.name == nameKey d.name) then
        .ok [⟨"name", "a provider named '" ++ name ++ "' already exists"⟩]
      else .ok []

/-- What is wrong with a priority. -/
def priorityProblems (priority : Nat) : List Problem :=
  if Definition.validPriority priority then []
  else
    [⟨"priority",
      "must be between " ++ Decimal.text Definition.leastPriority ++ " and " ++
        Decimal.text Definition.greatestPriority⟩]

namespace Service

variable {W : Type}

/-- What is wrong with the implementation of a definition or with its settings; else the source. -/
def sourceOf (service : Service W) (d : Definition) : List Problem × Option (Source W) :=
  if service.factory.knows d.implementation then
    match service.factory.build d with
    | .ok source => ([], some source)
    | .error (.unbuildable e) => ([⟨"settings", e.message⟩], none)
    | .error e => ([⟨"implementation", e.message⟩], none)
  else ([⟨"implementation", "unknown implementation '" ++ d.implementation ++ "'"⟩], none)

/-- Everything that is wrong with a definition, and its source if it can be built. -/
def inspect (service : Service W) (d : Definition) (s : State W) :
    Except RegistryError (Validation × Option (Source W)) :=
  match nameProblems s.store.all d with
  | .error e => .error e
  | .ok named =>
    let (built, source) := service.sourceOf d
    .ok (⟨named ++ built ++ priorityProblems d.priority⟩, source)

/-- Everything that is wrong with a definition. -/
def validate (service : Service W) (d : Definition) (s : State W) :
    Except RegistryError Validation :=
  match service.inspect d s with
  | .error e => .error e
  | .ok (v, _) => .ok v

/-- The source of a valid definition. -/
def checkedSource (service : Service W) (d : Definition) (s : State W) :
    Except RegistryError (Source W) :=
  match service.inspect d s with
  | .error e => .error e
  | .ok (v, some source) => if v.isValid then .ok source else .error (.invalid v)
  | .ok (v, none) => .error (.invalid v)

/-! ## Changes -/

/-- A definition as it is going to be created. -/
def fresh (d : Definition) : Definition :=
  { d with
    id := 0
    health := none
    priority := if d.priority = 0 then Definition.defaultPriority else d.priority }

/-- The priority that a source suggests, if it has an opinion. -/
def suggestedPriority (source : Source W) (priority : Nat) : Nat :=
  if source.suggestedPriority = 0 then priority else source.suggestedPriority

/-- Stores a new definition. -/
def create (service : Service W) (d : Definition) (s : State W) :
    Except RegistryError Definition × State W :=
  let d := fresh d
  match service.checkedSource d s with
  | .error e => (.error e, s)
  | .ok source =>
    match s.store.insert { d with priority := suggestedPriority source d.priority } with
    | .error e => (.error (.ofStore e), s)
    | .ok (stored, store) =>
      let s := { s with store := store }
      (.ok (s.withHealth stored), s)

/-- Replaces a stored definition. -/
def update (service : Service W) (d : Definition) (s : State W) :
    Except RegistryError Definition × State W :=
  match s.knows d.id with
  | .error e => (.error e, s)
  | .ok false => (.error (.notFound d.id), s)
  | .ok true =>
    match service.checkedSource d.bare s with
    | .error e => (.error e, s)
    | .ok _ =>
      match s.store.update d.bare with
      | .error e => (.error (.ofStore e), s)
      | .ok (stored, store) =>
        let s := ({ s with store := store } : State W).dismiss stored.id
        (.ok (s.withHealth stored), s)

/-- Removes a definition and its health record. -/
def delete (id : Int) (s : State W) : Except RegistryError Unit × State W :=
  match s.store.delete id with
  | .error e => (.error (.ofStore e), s)
  | .ok store => (.ok (), ({ s with store := store } : State W).dismiss id)

/-- Creates definitions up to the first that is refused. -/
def createAll (service : Service W) : List Definition → State W →
    Except RegistryError Unit × State W
  | [], s => (.ok (), s)
  | d :: rest, s =>
    match service.create d s with
    | (.error e, s) => (.error e, s)
    | (.ok _, s) => service.createAll rest s

/-- Creates definitions in a store that has none, and says how many. -/
def seed (service : Service W) (ds : List Definition) (s : State W) :
    Except RegistryError Nat × State W :=
  match s.store.all with
  | .error e => (.error (.ofStore e), s)
  | .ok (_ :: _) => (.ok 0, s)
  | .ok [] =>
    match service.createAll ds s with
    | (.error e, s) => (.error e, s)
    | (.ok (), s) => (.ok ds.length, s)

/-! ## Checks -/

/-- Checks that the source of a definition can be reached; the health record of a stored one is kept
up to date. -/
def test (service : Service W) (d : Definition) : Action W Validation := do
  match service.factory.build d with
  | .error e => return .problem "implementation" e.message
  | .ok source =>
    let s ← get
    let p : Provider W := ⟨d.bare, source, s.built, service.rules⟩
    match ← p.checkReachable with
    | .ok () =>
      p.recordSuccess
      return {}
    | .error e =>
      p.recordFailure e.leastSuspension
      return .problem "" e.message

/-- What a new definition of each implementation starts from. -/
def templates (service : Service W) : List Template :=
  service.factory.implementations.filterMap fun implementation =>
    match service.factory.build (Definition.new implementation implementation) with
    | .error _ => none
    | .ok source =>
      some
        { implementation := implementation
          priority := suggestedPriority source Definition.defaultPriority
          capabilities := source.capabilities }

end Service
end Biblio
