import Biblio.Distinct
import Biblio.Service.State

/-!
# The answers of all providers

All providers are asked, whatever becomes of the others, and their results are joined in the order
in which they were asked.

* `askAll` joins the results; a provider that fails has none.
* `merged` keeps the first result of each identity.
-/

set_option autoImplicit false

namespace Biblio

/-- The results of all providers, in their order. -/
def askAll {W P T : Type} (ask : P → Action W (Except SourceError (List T))) :
    List P → Action W (List T)
  | [] => return []
  | p :: rest => do
    let found ← ask p
    let others ← askAll ask rest
    return found.toOption.getD [] ++ others

/-- The distinct results of all providers. -/
def merged {W P T : Type} [Keyed T] (ask : P → Action W (Except SourceError (List T)))
    (providers : List P) : Action W (List T) := do
  return distinct (← askAll ask providers)

end Biblio
