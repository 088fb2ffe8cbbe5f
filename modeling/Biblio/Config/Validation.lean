import Biblio.Config.Basic
import Biblio.Decimal.Digits
import Biblio.Text.Blank

/-!
# Validation of configurations

`Config.check` looks for the first thing that is wrong with a configuration, in a fixed order;
`ConfigError` lists what can go wrong when a configuration is loaded.
-/

set_option autoImplicit false

namespace Biblio

/-- The rules that a configuration may break. -/
inductive ConfigProblem where
  /-- The setting may not be zero. -/
  | zero (setting : String)
  /-- The first suspension is longer than the longest. -/
  | backoffOrder (base greatest : Nat)
  | blankName
  | priority (name : String) (found : Nat)
  | duplicateName (name : String)
  deriving DecidableEq, Repr

/-- The wording of a problem. -/
def ConfigProblem.message : ConfigProblem → String
  | .zero setting => setting ++ " cannot be 0"
  | .backoffOrder base greatest =>
    "metadata.backoff.base_secs (" ++ Decimal.text base ++ ") exceeds max_secs (" ++
      Decimal.text greatest ++ ")"
  | .blankName => "metadata.providers: name cannot be empty"
  | .priority name found =>
    "metadata.providers '" ++ name ++ "': priority " ++ Decimal.text found ++
      " is outside 1..=" ++ Decimal.text Definition.greatestPriority
  | .duplicateName name => "metadata.providers: duplicate name '" ++ name ++ "'"

/-- Why there is no usable configuration. -/
inductive ConfigError where
  | fileNotFound (path : String)
  | parse (reason : String)
  | validation (problem : ConfigProblem)
  deriving DecidableEq, Repr

/-- The wording of an error. -/
def ConfigError.message : ConfigError → String
  | .fileNotFound path => "Configuration file not found: " ++ path
  | .parse reason => "Failed to parse configuration: " ++ reason
  | .validation problem => "Configuration validation failed: " ++ problem.message

namespace Config

/-- The first problem of the definitions that a store starts with; `names` are those of the
definitions before. -/
def checkSeeds (names : List String) : List Definition → Option ConfigProblem
  | [] => none
  | d :: rest =>
    if Text.isAllBlank d.name then some .blankName
    else if Definition.greatestPriority < d.priority then some (.priority d.name d.priority)
    else
      let name := Text.lowercase d.name
      if names.contains name then some (.duplicateName d.name)
      else checkSeeds (name :: names) rest

/-- The settings that may not be zero, in the order in which they are checked, up to the lengths of
suspensions. -/
def nonzeroSettings (c : Config) : List (String × Nat) :=
  [ ("server.port", c.server.port),
    ("metadata.request_timeout_secs", c.metadata.requestTimeoutSecs),
    ("metadata.cache.entity_ttl_days", c.metadata.cache.entity),
    ("metadata.cache.search_ttl_days", c.metadata.cache.search),
    ("metadata.cache.identifier_ttl_days", c.metadata.cache.identifier),
    ("metadata.backoff.base_secs", c.metadata.backoff.base) ]

/-- The first problem of a configuration. -/
def check (c : Config) : Option ConfigProblem :=
  match c.nonzeroSettings.find? (fun s => s.2 == 0) with
  | some (name, _) => some (.zero name)
  | none =>
    let b := c.metadata.backoff
    if b.greatest < b.base then some (.backoffOrder b.base b.greatest)
    else if c.metadata.openLibrary.searchLimit = 0 then
      some (.zero "metadata.open_library.search_limit")
    else if c.metadata.openLibrary.timeoutSecs = some 0 then
      some (.zero "metadata.open_library.timeout_secs")
    else checkSeeds [] c.metadata.providers

/-- Accepts a configuration without problems. -/
def validate (c : Config) : Except ConfigError Unit :=
  match c.check with
  | some problem => .error (.validation problem)
  | none => .ok ()

end Config
end Biblio
