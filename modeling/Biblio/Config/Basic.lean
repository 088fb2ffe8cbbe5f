import Biblio.Config.Address
import Biblio.Config.Redaction
import Biblio.Definition.Basic
import Biblio.OpenLibrary.Config

/-!
# Configuration

* `Config` is what the service is started with; every part has a default.
* `CacheDays.windows` and `BackoffSeconds.policy` are the spans that the numbers stand for.
* `Config.sanitizedJson` is the configuration as it is shown, without secrets.
-/

set_option autoImplicit false

namespace Biblio

open Json.Decoder (field record natural text list)
open OpenLibrary (greatest64)

/-- Where the service listens. -/
structure Listener where
  host : Address := Address.unspecified
  port : Nat := 8787
  deriving DecidableEq, Repr, Inhabited

/-- How many days entries stay in the caches. -/
structure CacheDays where
  /-- Look-ups by identifier, counted from the last use. -/
  entity : Nat := 90
  /-- Searches by name or title. -/
  search : Nat := 7
  /-- Searches by product number. -/
  identifier : Nat := 90
  deriving DecidableEq, Repr, Inhabited

/-- How long entries stay in the caches. -/
structure CacheWindows where
  entity : Span := Span.seconds (90 * 86400)
  search : Span := Span.seconds (7 * 86400)
  identifier : Span := Span.seconds (90 * 86400)
  deriving DecidableEq, Repr, Inhabited

/-- Days as spans. -/
def CacheDays.windows (c : CacheDays) : CacheWindows where
  entity := Span.seconds (Span.daysInSeconds c.entity)
  search := Span.seconds (Span.daysInSeconds c.search)
  identifier := Span.seconds (Span.daysInSeconds c.identifier)

/-- How long failing sources are suspended, in seconds. -/
structure BackoffSeconds where
  base : Nat := 60
  greatest : Nat := 86400
  deriving DecidableEq, Repr, Inhabited

/-- The policy that the seconds stand for. -/
def BackoffSeconds.policy (b : BackoffSeconds) : Backoff :=
  ⟨Span.seconds b.base, Span.seconds b.greatest⟩

/-- How metadata are gathered. -/
structure MetadataConfig where
  /-- The seconds that one call of a provider may take. -/
  requestTimeoutSecs : Nat := 30
  cache : CacheDays := {}
  backoff : BackoffSeconds := {}
  openLibrary : OpenLibrary.Config := {}
  /-- The definitions that an empty store starts with. -/
  providers : List Definition := []
  deriving Inhabited

/-- The time that one call of a provider may take. -/
def MetadataConfig.requestTimeout (m : MetadataConfig) : Span := Span.seconds m.requestTimeoutSecs

/-- What the service is started with. -/
structure Config where
  server : Listener := {}
  /-- Where the store is kept. -/
  databasePath : String := "bookshelf.db"
  metadata : MetadataConfig := {}
  deriving Inhabited

namespace Config

/-- The greatest port. -/
def greatestPort : Nat := 65535

/-- The decoder of the listener. -/
def listenerDecoder : Json.Decoder Listener :=
  record
    [ field "host" .defaulted Address.decoder (fun v l => { l with host := v }),
      field "port" .defaulted (natural greatestPort) (fun v l => { l with port := v }) ]
    {}

/-- The decoder of the place of the store. -/
def databaseDecoder : Json.Decoder String :=
  record [field "path" .defaulted text (fun v _ => v)] "bookshelf.db"

/-- The decoder of the lives of cache entries. -/
def cacheDecoder : Json.Decoder CacheDays :=
  record
    [ field "entity_ttl_days" .defaulted (natural greatest64) (fun v c => { c with entity := v }),
      field "search_ttl_days" .defaulted (natural greatest64) (fun v c => { c with search := v }),
      field "identifier_ttl_days" .defaulted (natural greatest64)
        (fun v c => { c with identifier := v }) ]
    {}

/-- The decoder of the lengths of suspensions. -/
def backoffDecoder : Json.Decoder BackoffSeconds :=
  record
    [ field "base_secs" .defaulted (natural greatest64) (fun v b => { b with base := v }),
      field "max_secs" .defaulted (natural greatest64) (fun v b => { b with greatest := v }) ]
    {}

/-- The decoder of the metadata part. -/
def metadataDecoder : Json.Decoder MetadataConfig :=
  record
    [ field "request_timeout_secs" .defaulted (natural greatest64)
        (fun v m => { m with requestTimeoutSecs := v }),
      field "cache" .defaulted cacheDecoder (fun v m => { m with cache := v }),
      field "backoff" .defaulted backoffDecoder (fun v m => { m with backoff := v }),
      field "open_library" .defaulted OpenLibrary.Config.decoder
        (fun v m => { m with openLibrary := v }),
      field "providers" .defaulted (list Definition.decoder)
        (fun v m => { m with providers := v }) ]
    {}

def decoder : Json.Decoder Config :=
  record
    [ field "server" .defaulted listenerDecoder (fun v c => { c with server := v }),
      field "database" .defaulted databaseDecoder (fun v c => { c with databasePath := v }),
      field "metadata" .defaulted metadataDecoder (fun v c => { c with metadata := v }) ]
    {}

/-- A definition with its secrets hidden. -/
def redacted (d : Definition) : Definition := { d with settings := Redaction.redact d.settings }

/-- The configuration as it is shown, without secrets. -/
def sanitizedJson (c : Config) : Json :=
  Json.ofMembers
    [ ("server",
        Json.ofMembers [("host", .str c.server.host.render), ("port", .nat c.server.port)]),
      ("database", Json.ofMembers [("path", .str c.databasePath)]),
      ("metadata",
        Json.ofMembers
          [ ("request_timeout_secs", .nat c.metadata.requestTimeoutSecs),
            ("cache",
              Json.ofMembers
                [ ("entity_ttl_days", .nat c.metadata.cache.entity),
                  ("search_ttl_days", .nat c.metadata.cache.search),
                  ("identifier_ttl_days", .nat c.metadata.cache.identifier) ]),
            ("backoff",
              Json.ofMembers
                [ ("base_secs", .nat c.metadata.backoff.base),
                  ("max_secs", .nat c.metadata.backoff.greatest) ]),
            ("open_library", c.metadata.openLibrary.toJson),
            ("providers",
              .arr (c.metadata.providers.map (fun d => (redacted d).toJson))) ]) ]

end Config
end Biblio
