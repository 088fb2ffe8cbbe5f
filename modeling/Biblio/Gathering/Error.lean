import Biblio.Registry.Error

/-!
# Errors of gathering

`GatherError` lists why a question that is put to all providers has no answer.
-/

set_option autoImplicit false

namespace Biblio

/-- Why there is no answer. -/
inductive GatherError where
  /-- No provider is selected for the category. -/
  | noProviders (category : Category)
  /-- Providers were tried in vain; the last failure of one of them is kept. -/
  | nothingFound (category : Category) (id : String) (tried : Nat) (cause : Option SourceError)
  /-- The providers could not be selected. -/
  | registry (reason : RegistryError)
  deriving DecidableEq, Repr, Inhabited

namespace GatherError

/-- The wording of an error. -/
def message : GatherError → String
  | .noProviders category => "No metadata providers available for " ++ category.label
  | .nothingFound category id tried _ =>
    "Metadata not found for '" ++ id ++ "' (" ++ category.label ++ ", " ++ Decimal.text tried ++
      " provider(s) tried)"
  | .registry reason => "Failed to load providers: " ++ reason.message

end GatherError
end Biblio
