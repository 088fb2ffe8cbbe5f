import Biblio.Capability
import Biblio.Decimal.Digits
import Biblio.Span

/-!
# Errors of sources

* `SourceError` lists why a source gives no answer.
* `SourceError.leastSuspension` is how long the source itself asks to be left alone.
-/

set_option autoImplicit false

namespace Biblio

/-- Why a source gives no answer. -/
inductive SourceError where
  /-- The source does not support the operation. -/
  | notSupported (source : String) (operation : Operation)
  /-- The source answered that there is no such thing. -/
  | notFound (what : String)
  /-- Too many requests; the source may say when to try again. -/
  | rateLimited (retryAfter : Option Nat)
  /-- The request could not be sent or its answer not received. -/
  | transport (reason : String)
  /-- The source answered with a status that stands for a failure. -/
  | api (status : Nat) (message : String)
  /-- The answer could not be understood. -/
  | parse (reason : String)
  /-- The settings of the source cannot be used. -/
  | notConfigured (reason : String)
  /-- The call took longer than allowed. -/
  | timeout (seconds : Nat)
  deriving DecidableEq, Repr, Inhabited

namespace SourceError

/-- The wording of an error. -/
def message : SourceError → String
  | .notSupported source operation => source ++ " does not support " ++ operation.label
  | .notFound what => "Resource not found: " ++ what
  | .rateLimited _ => "Rate limit exceeded, please wait before retrying"
  | .transport reason => "HTTP request failed: " ++ reason
  | .api status text => "API error: " ++ Decimal.text status ++ " - " ++ text
  | .parse reason => "Failed to parse response: " ++ reason
  | .notConfigured reason => "Provider not configured: " ++ reason
  | .timeout seconds => "Provider call timed out after " ++ Decimal.text seconds ++ " seconds"

/-- Whether the source answered, but has nothing. -/
def isNotFound : SourceError → Bool
  | .notFound _ => true
  | _ => false

/-- Whether the source cannot do what it was asked, rather than failed to. -/
def isNotSupported : SourceError → Bool
  | .notSupported _ _ => true
  | _ => false

/-- How long the source asks to be left alone. -/
def leastSuspension : SourceError → Span
  | .rateLimited (some seconds) => Span.seconds seconds
  | _ => 0

end SourceError
end Biblio
