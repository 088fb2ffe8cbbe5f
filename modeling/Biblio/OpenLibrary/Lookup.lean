import Biblio.Http.Target
import Biblio.Json.Decoder
import Biblio.OpenLibrary.Config
import Biblio.Source.Activity
import Biblio.Text.Blank

/-!
# Look-ups over the network

A look-up sends requests, some of them together, and goes on with the replies.

* `Reply` is what comes back for an address, and a `Network` has one for every address.
* `Lookup` is a look-up as a tree of requests; `Lookup.run` runs it on a network, and `Lookup.sent`
  are the requests that it sends there.
* `Reply.read` reads a reply as a document: by its status, and then by its body.
-/

set_option autoImplicit false

namespace Biblio
namespace OpenLibrary

/-- What comes back for a request. -/
inductive Reply where
  /-- Nothing: the request could not be sent, or nobody answered. -/
  | unreachable (reason : String)
  /-- A response; `retryAfter` is its header of that name. -/
  | response (status : Nat) (retryAfter : Option String) (body : String)
  deriving DecidableEq, Repr, Inhabited

/-- The replies for all addresses. -/
abbrev Network := String → Reply

/-- The network that nobody can reach. -/
def Network.down : Network := fun _ => .unreachable "unreachable"

/-- A look-up that ends with an `α`, or with an error. -/
inductive Lookup (α : Type) where
  | done (result : Except SourceError α)
  | ask (address : String) (next : Reply → Lookup α)
  /-- Sends several requests together. -/
  | askAll (addresses : List String) (next : List Reply → Lookup α)

namespace Lookup

variable {α β : Type}

/-- Goes on when a look-up has succeeded. -/
def bind : Lookup α → (α → Lookup β) → Lookup β
  | .done (.ok a), f => f a
  | .done (.error e), _ => .done (.error e)
  | .ask address next, f => .ask address (fun r => bind (next r) f)
  | .askAll addresses next, f => .askAll addresses (fun rs => bind (next rs) f)

instance : Monad Lookup where
  pure a := .done (.ok a)
  bind := bind

/-- The result of a look-up on a network. -/
def run (network : Network) : Lookup α → Except SourceError α
  | .done r => r
  | .ask address next => run network (next (network address))
  | .askAll addresses next => run network (next (addresses.map network))

/-- The requests of a look-up on a network, in the order in which they are sent. -/
def sent (network : Network) : Lookup α → List String
  | .done _ => []
  | .ask address next => address :: sent network (next (network address))
  | .askAll addresses next => addresses ++ sent network (next (addresses.map network))

/-- A look-up whose absence of a document is an answer. -/
def found : Lookup α → Lookup (Option α)
  | .done (.ok a) => .done (.ok (some a))
  | .done (.error e) => .done (if e.isNotFound then .ok none else .error e)
  | .ask address next => .ask address (fun r => found (next r))
  | .askAll addresses next => .askAll addresses (fun rs => found (next rs))

/-- A look-up as the call of a source. -/
def call {W : Type} (network : W → Network) (l : Lookup α) : Call W α :=
  .look fun _ w => .done (l.run (network w))

end Lookup

/-! ## Reading replies -/

/-- The seconds in a header: a number that fits 64 bits. -/
def retrySeconds? (header : String) : Option Nat :=
  if header.toList.all (fun c => c = '\t' || (31 < c.toNat && c.toNat < 127)) then
    let digits :=
      match Text.trimChars header.toList with
      | '+' :: rest => rest
      | cs => cs
    (Decimal.ofDigits? digits).filter (· ≤ greatest64)
  else none

/-- Reads a reply to a request for a path as a document. -/
def Reply.read {α : Type} (decoder : Json.Decoder α) (path : String) :
    Reply → Except SourceError α
  | .unreachable reason => .error (.transport reason)
  | .response status retryAfter body =>
    if status = 429 then .error (.rateLimited (retryAfter.bind retrySeconds?))
    else if status = 404 then .error (.notFound path)
    else if status < 200 ∨ 300 ≤ status then .error (.api status body)
    else
      match Json.Decoder.ofString decoder body with
      | .ok a => .ok a
      | .error _ =>
        .error (.parse ("Failed to parse " ++ path ++ " response: error decoding response body"))

/-- The address of a path with a query. -/
def Config.address (c : Config) (path : String) (query : List (String × String)) : String :=
  c.baseUrl ++ path ++ (if query.isEmpty then "" else "?" ++ Http.formQuery query)

/-- Looks a document up. -/
def Config.get {α : Type} (c : Config) (decoder : Json.Decoder α) (path : String)
    (query : List (String × String)) : Lookup α :=
  .ask (c.address path query) (fun r => .done (r.read decoder path))

end OpenLibrary
end Biblio
