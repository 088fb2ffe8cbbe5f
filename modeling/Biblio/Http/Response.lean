import Biblio.Gathering.Error

/-!
# Responses

* `Response` is the answer to a request: a status and, where there is one, a JSON body.
* `RegistryError.response` and `GatherError.response` give every error its status; the body holds
  the wording.
-/

set_option autoImplicit false

namespace Biblio
namespace Http

/-- The answer to a request. -/
structure Response where
  status : Nat
  /-- The body, if it is JSON. -/
  body : Option Json := none
  deriving Inhabited

namespace Response

/-- A body with status 200. -/
def ok (body : Json) : Response := ⟨200, some body⟩

/-- A status without a JSON body. -/
def bare (status : Nat) : Response := ⟨status, none⟩

/-- A status with the wording of an error. -/
def failure (status : Nat) (message : String) : Response :=
  ⟨status, some (Json.ofMembers [("error", .str message)])⟩

end Response
end Http

/-- The status that stands for an error of the registry. -/
def RegistryError.status : RegistryError → Nat
  | .notFound _ => 404
  | .unknownImplementation _ | .invalid _ => 400
  | .unbuildable _ | .storage _ => 500

/-- The response to an error of the registry. -/
def RegistryError.response (e : RegistryError) : Http.Response := .failure e.status e.message

/-- The response to an error of gathering. -/
def GatherError.response (e : GatherError) : Http.Response :=
  match e with
  | .noProviders _ => .failure 503 e.message
  | .nothingFound _ _ _ _ => .failure 404 e.message
  | .registry reason => reason.response

end Biblio
