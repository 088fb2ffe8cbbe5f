import Biblio.Config.Basic
import Biblio.Entity.Codec
import Biblio.Gathering.Search
import Biblio.Http.MediaType
import Biblio.Http.Resource
import Biblio.Http.Response
import Biblio.Http.Target
import Biblio.Registry.Changes

/-!
# The interface over HTTP

* `Route` lists what a path may stand for; `Route.ofPath?` reads a path.  Names of routes come before
  identifiers, and no part of a path may be empty.
* `Route.allows` says which methods a route has.
* `answer` answers a request.  What is wrong with the request itself is answered with a status alone.
* `serve` answers a request and counts it under the label of its path.
-/

set_option autoImplicit false

namespace Biblio
namespace Http

/-- A request. -/
structure Request where
  method : String
  /-- The path and the query. -/
  target : String
  /-- The media type of the body, if one is given. -/
  mediaType : Option String := none
  body : String := ""
  deriving DecidableEq, Repr, Inhabited

/-- What a path stands for. -/
inductive Route where
  | health
  | config
  | providers
  | templates
  | healthRecords
  | check
  | provider (id : List Char)
  | author (id : List Char)
  | book (id : List Char)
  | changes
  | search
  | searchAuthors
  | searchBooks
  | searchIsbn (isbn : List Char)
  | searchAsin (asin : List Char)
  | measurements
  deriving DecidableEq, Repr

namespace Route

/-- The route of a path below the root of the interface. -/
def ofParts? (parts : List (List Char)) : Option Route :=
  match parts.map String.ofList, parts with
  | ["health"], _ => some .health
  | ["config"], _ => some .config
  | ["providers"], _ => some .providers
  | ["providers", "schema"], _ => some .templates
  | ["providers", "status"], _ => some .healthRecords
  | ["providers", "test"], _ => some .check
  | ["providers", _], [_, id] => some (.provider id)
  | ["metadata", "author", _], [_, _, id] => some (.author id)
  | ["metadata", "book", _], [_, _, id] => some (.book id)
  | ["metadata", "changed-authors"], _ => some .changes
  | ["metadata", "search"], _ => some .search
  | ["metadata", "search", "author"], _ => some .searchAuthors
  | ["metadata", "search", "book"], _ => some .searchBooks
  | ["metadata", "search", "isbn", _], [_, _, _, isbn] => some (.searchIsbn isbn)
  | ["metadata", "search", "asin", _], [_, _, _, asin] => some (.searchAsin asin)
  | _, _ => none

/-- The route of a path. -/
def ofPath? (path : String) : Option Route :=
  match Metrics.segments path.toList with
  | [] :: parts =>
    if parts.any List.isEmpty then none
    else
      match parts.map String.ofList, parts with
      | ["metrics"], _ => some .measurements
      | "api" :: "v1" :: _, _ :: _ :: rest => ofParts? rest
      | _, _ => none
  | _ => none

/-- The methods that a route has. -/
def methods : Route → List String
  | .providers => ["GET", "HEAD", "POST"]
  | .check => ["POST"]
  | .provider _ => ["GET", "HEAD", "PUT", "DELETE"]
  | _ => ["GET", "HEAD"]

/-- Whether a route has a method. -/
def allows (r : Route) (method : String) : Bool := r.methods.contains method

end Route

/-! ## Requests that cannot be understood -/

/-- An identifier in a path: decimal digits, perhaps with a sign. -/
def identifier? (segment : List Char) : Option Int :=
  match decodeSegment segment with
  | none => none
  | some s =>
    let (negative, digits) :=
      match s.toList with
      | '-' :: rest => (true, rest)
      | '+' :: rest => (false, rest)
      | cs => (false, cs)
    match Decimal.ofDigits? digits with
    | none => none
    | some n =>
      let i : Int := if negative then -(n : Int) else n
      if leastId ≤ i ∧ i ≤ greatestId then some i else none

/-- The definition in the body of a request, or the status that says why there is none. -/
def definitionIn (r : Request) : Except Nat Definition :=
  if (r.mediaType.map isJson).getD false then
    match Json.Decoder.ofString definitionDecoder r.body with
    | .ok d => .ok d
    | .error .misshapen => .error 422
    | .error _ => .error 400
  else .error 415

variable {W : Type}

/-- Goes on with what a request says, or else refuses it. -/
def withParsed {α : Type} (parsed : Option α) (go : α → Action W Response) : Action W Response :=
  match parsed with
  | none => return .bare 400
  | some a => go a

/-- Goes on with the definition in the body of a request, or else refuses it. -/
def withDefinition (r : Request) (go : Definition → Action W Response) : Action W Response :=
  match definitionIn r with
  | .error status => return .bare status
  | .ok d => go d

/-! ## Answers -/

/-- The response to a result of the registry. -/
def registryResponse {α : Type} (shown : α → Response) : Except RegistryError α → Response
  | .ok a => shown a
  | .error e => e.response

/-- The response to a result of gathering. -/
def gatherResponse {α : Type} (shown : α → Json) : Except GatherError α → Response
  | .ok a => .ok (shown a)
  | .error e => e.response

/-- A list in a body. -/
def listJson {α : Type} (shown : α → Json) (as : List α) : Json := .arr (as.map shown)

/-- Lists and changes the definitions. -/
def answerProviders (service : Service W) (r : Request) : Action W Response :=
  if r.method = "POST" then
    withDefinition r fun d => modifyGet fun s =>
      let (created, s) := service.create d s
      (registryResponse (fun d => ⟨201, some d.toJson⟩) created, s)
  else return registryResponse (fun ds => .ok (listJson Definition.toJson ds)) (← get).all

/-- Shows and changes one definition; the identifier in the path counts. -/
def answerProvider (service : Service W) (r : Request) (id : Int) : Action W Response :=
  if r.method = "PUT" then
    withDefinition r fun d => modifyGet fun s =>
      let (updated, s) := service.update { d with id := id } s
      (registryResponse (fun d => .ok d.toJson) updated, s)
  else if r.method = "DELETE" then
    modifyGet fun s =>
      let (deleted, s) := Service.delete id s
      (registryResponse (fun _ => .bare 204) deleted, s)
  else return registryResponse (fun d => .ok d.toJson) ((← get).find id)

/-- Checks a definition. -/
def answerCheck (service : Service W) (r : Request) : Action W Response :=
  withDefinition r fun d => do
    let v ← service.test d
    if v.isValid then
      return .ok (Json.ofMembers [("valid", .bool true), ("errors", v.problemsJson)])
    else return .failure 400 v.text

/-- The authors that have changed since a moment. -/
def answerChanges (service : Service W) (pairs : List (String × String)) : Action W Response :=
  withParsed (required? pairs "since") fun since =>
    match Moment.parse since with
    | .error e => return .failure 400 ("invalid 'since' timestamp: " ++ e.message)
    | .ok m =>
      return gatherResponse
        (fun ids => Json.ofMembers [("since", .str m.render), ("ids", .strs ids)])
        (← service.changedAuthors m)

/-- Searches for books by title. -/
def answerBookSearch (service : Service W) (pairs : List (String × String)) :
    Action W Response :=
  withParsed (required? pairs "title") fun title =>
    withParsed (value? pairs "author") fun author =>
      withParsed (flag? pairs "all_editions" false) fun allEditions => do
        let author := (author.map Text.trim).filter (· != "")
        return gatherResponse (listJson Book.toJson)
          (← service.searchBooks title author allEditions)

/-- Answers a request for a route that has its method. -/
def answer (service : Service W) (config : Config) (r : Request) : Route → Action W Response
  | .health => return .ok (Json.ofMembers [("status", .str "ok")])
  | .config => return .ok config.sanitizedJson
  | .providers => answerProviders service r
  | .templates => return .ok (listJson Template.toJson service.templates)
  | .healthRecords => return .ok (listJson Health.toJson (← get).store.healthRecords)
  | .check => answerCheck service r
  | .provider id => withParsed (identifier? id) (answerProvider service r)
  | .author id =>
    withParsed (decodeSegment id) fun id =>
      withParsed (flag? (formPairs (queryOf r.target)) "use_cache" true) fun useCache => do
        return gatherResponse Author.toJson (← service.authorInfo id useCache)
  | .book id =>
    withParsed (decodeSegment id) fun id => do
      return gatherResponse BookInfo.toJson (← service.bookInfo id)
  | .changes => answerChanges service (formPairs (queryOf r.target))
  | .search =>
    withParsed (required? (formPairs (queryOf r.target)) "term") fun term => do
      return gatherResponse (listJson SearchEntity.toJson) (← service.searchEntities term)
  | .searchAuthors =>
    withParsed (required? (formPairs (queryOf r.target)) "term") fun term => do
      return gatherResponse (listJson Author.toJson) (← service.searchAuthors term)
  | .searchBooks => answerBookSearch service (formPairs (queryOf r.target))
  | .searchIsbn isbn =>
    withParsed (decodeSegment isbn) fun isbn => do
      return gatherResponse (listJson Book.toJson) (← service.searchIsbn isbn)
  | .searchAsin asin =>
    withParsed (decodeSegment asin) fun asin => do
      return gatherResponse (listJson Book.toJson) (← service.searchAsin asin)
  | .measurements => return .bare 200

/-- Answers a request whose path may stand for nothing. -/
def dispatch (service : Service W) (config : Config) (r : Request) : Action W Response :=
  match Route.ofPath? (pathOf r.target) with
  | none => return .bare 404
  | some route =>
    if route.allows r.method then answer service config r route else return .bare 405

/-- Answers a request and counts it.  What a client may do is asked in advance, and that is not
counted; the answer to a request for the head has no body. -/
def serve (service : Service W) (config : Config) (r : Request) : Action W Response := do
  if r.method = "OPTIONS" then return .bare 200
  let response ← dispatch service config r
  let label := Metrics.pathLabel (pathOf r.target)
  Action.count (Metrics.httpDuration r.method label response.status)
  Action.count (Metrics.httpRequest r.method label response.status)
  return if r.method = "HEAD" then { response with body := none } else response

end Http
end Biblio
