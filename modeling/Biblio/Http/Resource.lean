import Biblio.Definition.Basic

/-!
# Definitions in requests

A request carries a definition with the fields in an order of their own, and without the health
record: what it says about that does not count.
-/

set_option autoImplicit false

namespace Biblio
namespace Http

open Json.Decoder (field record natural integer boolean list text value)

/-- A definition in the body of a request. -/
def definitionDecoder : Json.Decoder Definition :=
  record
    [ field "id" .defaulted (integer leastId greatestId) (fun v d => { d with id := v }),
      field "name" .required text (fun v d => { d with name := v }),
      field "implementation" .required text (fun v d => { d with implementation := v }),
      field "enable_author_search" .defaulted boolean (fun v d => { d with forAuthors := v }),
      field "enable_book_search" .defaulted boolean (fun v d => { d with forBooks := v }),
      field "enable_automatic_refresh" .defaulted boolean (fun v d => { d with forRefresh := v }),
      field "priority" .defaulted (natural Definition.greatestByte)
        (fun v d => { d with priority := v }),
      field "tags" .defaulted (list text) (fun v d => { d with tags := v }),
      field "settings" .defaulted value (fun v d => { d with settings := v }) ]
    { name := "", implementation := "" }

end Http
end Biblio
