import Biblio.Config.Load
import Biblio.OpenLibrary.Source
import Biblio.Registry.Changes

/-!
# Starting the server

* `LogLine` is a line of the log, `StartFault` why a start fails.
* `start` takes a loaded configuration through all that happens before the server listens: the
  configuration is checked, the store is opened, and an empty store gets the definitions of the
  configuration.  What was logged is part of the result, whether the start fails or not.
-/

set_option autoImplicit false

namespace Biblio
namespace Server

/-! ## The log -/

/-- How serious a line of the log is. -/
inductive Severity where
  | info
  | error
  deriving DecidableEq, Repr

/-- The name of a severity. -/
def Severity.label : Severity → String
  | .info => "INFO"
  | .error => "ERROR"

/-- A line of the log. -/
structure LogLine where
  severity : Severity
  /-- The part of the program that the line comes from. -/
  origin : String
  text : String
  deriving DecidableEq, Repr

/-- The text of a line. -/
def LogLine.render (l : LogLine) : String := l.severity.label ++ " " ++ l.origin ++ ": " ++ l.text

/-- The name under which the server logs. -/
def origin : String := "bookshelf"

/-- The name under which the registry of providers logs. -/
def registryOrigin : String := "bookshelf_core::registry::providers"

/-- A line that the server logs. -/
def note (text : String) : LogLine := ⟨.info, origin, text⟩

/-! ## Faults -/

/-- Why a start fails. -/
inductive StartFault where
  /-- There is no configuration at the path. -/
  | loading (path : String) (reason : ConfigError)
  /-- The configuration breaks a rule. -/
  | checking (reason : ConfigError)
  /-- The store cannot be opened. -/
  | opening (reason : StoreError)
  /-- A definition of the configuration is refused. -/
  | seeding (reason : RegistryError)
  deriving DecidableEq, Repr

/-- The wording of a fault. -/
def StartFault.message : StartFault → String
  | .loading path reason =>
    "Failed to load config from " ++ Text.quoted path ++ ": " ++ reason.message
  | .checking reason => "Configuration validation failed: " ++ reason.message
  | .opening reason => "Failed to open metadata store: " ++ reason.message
  | .seeding reason => "Failed to seed provider definitions: " ++ reason.message

/-- The line that reports a fault. -/
def StartFault.line (f : StartFault) : LogLine :=
  ⟨.error, origin, "Fatal error: " ++ f.message⟩

/-! ## The start -/

/-- The version of the server. -/
def version : String := "0.1.0"

/-- The configuration is read from here unless a variable names another path. -/
def defaultPath : String := "config.toml"

/-- The variable that names the path of the configuration. -/
def pathVariable : String := "BOOKSHELF_CONFIG"

/-- The path of the configuration. -/
def configPath (bindings : List (String × String)) : String :=
  (bindings.lookup pathVariable).getD defaultPath

/-- What is logged first. -/
def greeting (path : String) : List LogLine :=
  [ note ("Bookshelf metadata server v" ++ version),
    note ("Loading configuration from " ++ Text.quoted path) ]

/-- What is logged about an accepted configuration. -/
def accepted (c : Config) : List LogLine :=
  [ note "Configuration loaded successfully",
    note ("Database path: " ++ Text.quoted c.databasePath) ]

/-- What is logged about a definition that was created. -/
def created (row : DefinitionRow) : LogLine :=
  ⟨.info, registryOrigin,
    "Created provider '" ++ row.name ++ "' (" ++ row.implementation ++ ") with priority " ++
      Decimal.text row.priority⟩

/-- What is logged about the definitions that a store started with. -/
def seeded (count : Nat) : List LogLine :=
  if count = 0 then []
  else [note ("Seeded " ++ Decimal.text count ++ " provider definition(s) from config")]

/-- An address and a port, the address in brackets if it contains colons itself. -/
def endpoint (l : Listener) : String :=
  let host :=
    match l.host with
    | .v4 _ => l.host.render
    | .v6 _ => "[" ++ l.host.render ++ "]"
  host ++ ":" ++ Decimal.text l.port

/-- What is logged when the server begins to listen. -/
def listening (l : Listener) : LogLine := note ("Starting server on " ++ endpoint l)

/-- What is logged when the server ends. -/
def farewell : List LogLine := [note "Shutdown signal received", note "Server stopped"]

/-- The service that a configuration describes. -/
def serviceFor {W : Type} (c : Config) (network : W → OpenLibrary.Network) : Service W where
  factory :=
    ({} : Factory W).register OpenLibrary.implementation
      (OpenLibrary.builder
        (c.metadata.openLibrary.withDefaultTimeout c.metadata.requestTimeout) network)
  rules := ⟨c.metadata.backoff.policy, c.metadata.cache.windows, c.metadata.requestTimeout⟩

/-- The configuration with which a start goes on. -/
def configured (path : String) (loaded : Except ConfigError Config) : Except StartFault Config :=
  match loaded with
  | .error e => .error (.loading path e)
  | .ok c =>
    match c.validate with
    | .error e => .error (.checking e)
    | .ok () => .ok c

/-- A server that is ready to listen. -/
structure Running (W : Type) where
  config : Config
  service : Service W
  state : State W

/-- A start of the server. -/
structure Start (W : Type) where
  /-- What was logged, up to the fault if there is one. -/
  log : List LogLine
  /-- What the store holds afterwards, if it was opened. -/
  store : Option Store
  result : Except StartFault (Running W)

/-- A start that ends with a fault. -/
def Start.failed {W : Type} (log : List LogLine) (store : Option Store) (f : StartFault) : Start W :=
  ⟨log ++ [f.line], store, .error f⟩

/-- Starts the server with the configuration that was loaded from a path.  `opened` is the store at
the path of a database; everything else begins as in `s`. -/
def start {W : Type} (path : String) (loaded : Except ConfigError Config)
    (opened : String → Except StoreError Store) (network : W → OpenLibrary.Network) (s : State W) :
    Start W :=
  match configured path loaded with
  | .error f => .failed (greeting path) none f
  | .ok config =>
    let log := greeting path ++ accepted config
    match opened config.databasePath with
    | .error e => .failed log none (.opening e)
    | .ok store =>
      let service := serviceFor config network
      let (result, s) := service.seed config.metadata.providers { s with store := store }
      let log :=
        log ++ note "Metadata store initialized" ::
          (s.store.definitions.drop store.definitions.length).map created
      match result with
      | .error e => .failed log (some s.store) (.seeding e)
      | .ok count =>
        ⟨log ++ seeded count ++ [listening config.server], some s.store,
          .ok ⟨config, service, s⟩⟩

end Server
end Biblio
