import Biblio.Health.Basic
import Biblio.Json.Decoder
import Biblio.Moment.Text

/-!
# Health records as JSON
-/

set_option autoImplicit false

namespace Biblio

open Json.Decoder (field record optional natural integer)

/-- The least identifier. -/
def leastId : Int := -9223372036854775808

/-- The greatest identifier. -/
def greatestId : Int := 9223372036854775807

/-- A moment in any spelling that is read. -/
def Moment.decoder : Json.Decoder Moment := fun depth d =>
  match Json.Decoder.text depth d with
  | .error f => .error f
  | .ok s =>
    match Moment.parseLeniently s with
    | .ok m => .ok m
    | .error _ => .error .misshapen

namespace Health

def decoder : Json.Decoder Health :=
  record
    [ field "provider_id" .required (integer leastId greatestId)
        (fun v h => { h with providerId := v }),
      field "last_successful_query" .defaulted (optional Moment.decoder)
        (fun v h => { h with lastSuccess := v }),
      field "successful_query_count" .defaulted (natural greatestQueries)
        (fun v h => { h with successes := v }),
      field "failed_query_count" .defaulted (natural greatestQueries)
        (fun v h => { h with failures := v }),
      field "escalation_level" .defaulted (natural greatestLevel)
        (fun v h => { h with level := v }),
      field "initial_failure" .defaulted (optional Moment.decoder)
        (fun v h => { h with firstFailure := v }),
      field "most_recent_failure" .defaulted (optional Moment.decoder)
        (fun v h => { h with lastFailure := v }),
      field "disabled_till" .defaulted (optional Moment.decoder)
        (fun v h => { h with suspendedTill := v }) ]
    (fresh 0)

/-- A moment as JSON. -/
def momentJson (m : Moment) : Json := .str m.render

def toJson (h : Health) : Json :=
  Json.ofPresent
    [ ("provider_id", some (.num (.int h.providerId))),
      ("last_successful_query", h.lastSuccess.map momentJson),
      ("successful_query_count", some (.nat h.successes)),
      ("failed_query_count", some (.nat h.failures)),
      ("escalation_level", some (.nat h.level)),
      ("initial_failure", h.firstFailure.map momentJson),
      ("most_recent_failure", h.lastFailure.map momentJson),
      ("disabled_till", h.suspendedTill.map momentJson) ]

end Health
end Biblio
