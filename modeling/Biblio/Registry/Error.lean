import Biblio.Definition.Validation
import Biblio.Source.Error
import Biblio.Store.Basic

/-!
# Errors of the registry

* `RegistryError` lists why the registry of providers refuses something.
* `RegistryError.ofStore` takes an unknown identifier in the store for an unknown provider.
-/

set_option autoImplicit false

namespace Biblio

/-- Why the registry refuses something. -/
inductive RegistryError where
  /-- There is no provider under the identifier. -/
  | notFound (id : Int)
  | unknownImplementation (name : String)
  /-- The definition is not valid. -/
  | invalid (validation : Validation)
  /-- The source of the provider cannot be built. -/
  | unbuildable (reason : SourceError)
  /-- The store failed. -/
  | storage (reason : StoreError)
  deriving DecidableEq, Repr, Inhabited

namespace RegistryError

/-- A store error as seen from the registry. -/
def ofStore : StoreError → RegistryError
  | .notFound id => .notFound id
  | .database fault => .storage (.database fault)

/-- The wording of a registry error. -/
def message : RegistryError → String
  | .notFound id => "Provider not found: " ++ Decimal.intText id
  | .unknownImplementation name => "Unknown provider implementation: " ++ name
  | .invalid validation => "Invalid provider definition: " ++ validation.text
  | .unbuildable reason => "Failed to build provider: " ++ reason.message
  | .storage reason => "Storage error: " ++ reason.message

end RegistryError
end Biblio
