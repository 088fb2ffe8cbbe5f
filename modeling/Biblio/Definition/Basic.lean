import Biblio.Capability
import Biblio.Health.Codec

/-!
# Provider definitions

A definition configures one provider: which implementation it runs, what it is used for and in
which order it is asked.

* `Definition.enabledFor` is the use in a category; interactive search is author or book search.
* `Definition.sameConfig` compares definitions without their health records.
-/

set_option autoImplicit false

namespace Biblio

open Json.Decoder (field record optional natural integer boolean list text value)

/-- A configured provider. -/
structure Definition where
  /-- The identifier in the store; zero if it is not stored. -/
  id : Int := 0
  name : String
  /-- The implementation that the provider runs. -/
  implementation : String
  /-- Providers of higher priority are asked first. -/
  priority : Nat := 0
  forAuthors : Bool := false
  forBooks : Bool := false
  forRefresh : Bool := false
  /-- Settings that only the implementation understands. -/
  settings : Json := .null
  tags : List String := []
  /-- The health record, where it is shown. -/
  health : Option Health := none
  deriving BEq, Inhabited

namespace Definition

/-- The priority of a definition that says none. -/
def defaultPriority : Nat := 50

/-- The lowest valid priority. -/
def leastPriority : Nat := 1

/-- The highest valid priority. -/
def greatestPriority : Nat := 100

/-- A priority between the lowest and the highest. -/
def validPriority (p : Nat) : Bool := leastPriority ≤ p && p ≤ greatestPriority

/-- A new definition for every use at the default priority. -/
def new (name implementation : String) : Definition where
  name := name
  implementation := implementation
  priority := defaultPriority
  forAuthors := true
  forBooks := true
  forRefresh := true

/-- Whether the definition is for any use at all. -/
def enabled (d : Definition) : Bool := d.forAuthors || d.forBooks || d.forRefresh

/-- Whether the definition is for the uses of a category. -/
def enabledFor (d : Definition) : Category → Bool
  | .authorSearch => d.forAuthors
  | .bookSearch => d.forBooks
  | .automaticRefresh => d.forRefresh
  | .interactiveSearch => d.forAuthors || d.forBooks

/-- Whether the definition is stored. -/
def stored (d : Definition) : Bool := d.id != 0

/-- The definition without its health record. -/
def bare (d : Definition) : Definition := { d with health := none }

/-- The same configuration, whatever the health records. -/
def sameConfig (a b : Definition) : Bool := a.bare == b.bare

/-- The greatest priority that is read. -/
def greatestByte : Nat := 255

def decoder : Json.Decoder Definition :=
  record
    [ field "id" .defaulted (integer leastId greatestId) (fun v d => { d with id := v }),
      field "name" .required text (fun v d => { d with name := v }),
      field "implementation" .required text (fun v d => { d with implementation := v }),
      field "priority" .defaulted (natural greatestByte) (fun v d => { d with priority := v }),
      field "enable_author_search" .defaulted boolean (fun v d => { d with forAuthors := v }),
      field "enable_book_search" .defaulted boolean (fun v d => { d with forBooks := v }),
      field "enable_automatic_refresh" .defaulted boolean (fun v d => { d with forRefresh := v }),
      field "settings" .defaulted value (fun v d => { d with settings := v }),
      field "tags" .defaulted (list text) (fun v d => { d with tags := v }),
      field "status" .defaulted (optional Health.decoder) (fun v d => { d with health := v }) ]
    { name := "", implementation := "" }

def toJson (d : Definition) : Json :=
  Json.ofPresent
    [ ("id", some (.num (.int d.id))),
      ("name", some (.str d.name)),
      ("implementation", some (.str d.implementation)),
      ("priority", some (.nat d.priority)),
      ("enable_author_search", some (.bool d.forAuthors)),
      ("enable_book_search", some (.bool d.forBooks)),
      ("enable_automatic_refresh", some (.bool d.forRefresh)),
      ("settings", some d.settings),
      ("tags", some (.strs d.tags)),
      ("status", d.health.map Health.toJson) ]

end Definition
end Biblio
