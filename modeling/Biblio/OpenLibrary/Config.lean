import Biblio.Json.Decoder
import Biblio.Decimal.Shortest
import Biblio.Source.Error
import Biblio.Text.Quoted

/-!
# Configuration of the Open Library source

* `OpenLibrary.Config` says where the service is and how it may be used.
* `Overrides` are the settings of one definition, which take precedence; `Overrides.ofJson` reads
  them strictly and `SettingsError` says what is wrong with them.
* `Config.override` applies settings: no settings change nothing, and any others leave no slash at
  the end of an address.
-/

set_option autoImplicit false

namespace Biblio
namespace OpenLibrary

open Json.Decoder (field record optional natural text)

/-- How the service is reached and used. -/
structure Config where
  baseUrl : String := "https://openlibrary.org"
  coversUrl : String := "https://covers.openlibrary.org"
  userAgent : String := "Bookshelf/0.1.0 ( https://github.com/bookshelf )"
  /-- The number of requests a minute; zero for any number. -/
  requestsPerMinute : Nat := 60
  /-- The number of results that a search asks for. -/
  searchLimit : Nat := 20
  /-- The seconds that a request may take. -/
  timeoutSecs : Option Nat := none
  deriving DecidableEq, Repr, Inhabited

/-- The greatest number that 32 bits hold. -/
def greatest32 : Nat := 4294967295

/-- The greatest number that 64 bits hold. -/
def greatest64 : Nat := 18446744073709551615

namespace Config

/-- The time that a request may take if nothing is configured. -/
def fallbackTimeout : Span := Span.seconds 30

/-- The time that a request may take. -/
def timeout (c : Config) : Span :=
  match c.timeoutSecs with
  | some secs => Span.seconds secs
  | none => fallbackTimeout

/-- Sets the time that a request may take, unless it is set already. -/
def withDefaultTimeout (c : Config) (d : Span) : Config :=
  { c with timeoutSecs := some (c.timeoutSecs.getD d.wholeSeconds) }

def decoder : Json.Decoder Config :=
  record
    [ field "base_url" .defaulted text (fun v c => { c with baseUrl := v }),
      field "covers_url" .defaulted text (fun v c => { c with coversUrl := v }),
      field "user_agent" .defaulted text (fun v c => { c with userAgent := v }),
      field "requests_per_minute" .defaulted (natural greatest32)
        (fun v c => { c with requestsPerMinute := v }),
      field "search_limit" .defaulted (natural greatest32) (fun v c => { c with searchLimit := v }),
      field "timeout_secs" .defaulted (optional (natural greatest64))
        (fun v c => { c with timeoutSecs := v }) ]
    {}

def toJson (c : Config) : Json :=
  Json.ofPresent
    [ ("base_url", some (.str c.baseUrl)),
      ("covers_url", some (.str c.coversUrl)),
      ("user_agent", some (.str c.userAgent)),
      ("requests_per_minute", some (.nat c.requestsPerMinute)),
      ("search_limit", some (.nat c.searchLimit)),
      ("timeout_secs", c.timeoutSecs.map .nat) ]

end Config

/-! ## Settings of one definition -/

/-- What a setting is expected to be. -/
inductive Expected where
  | string
  | number32
  | number64
  | overrides
  deriving DecidableEq, Repr

/-- The wording of an expectation. -/
def Expected.text : Expected → String
  | .string => "a string"
  | .number32 => "u32"
  | .number64 => "u64"
  | .overrides => "struct SettingsOverride"

/-- Why settings cannot be used. -/
inductive SettingsError where
  | wrongType (found : Json) (expected : Expected)
  | outOfRange (found : Int) (expected : Expected)
  | unknownField (name : String)
  /-- A list of settings with fewer items than there are settings. -/
  | tooFew (count : Nat)
  /-- A list of settings with more items than there are settings. -/
  | tooMany (count : Nat)
  | zeroTimeout

/-- The settings that exist, in the order of a list of them. -/
def settingNames : List String :=
  ["base_url", "covers_url", "requests_per_minute", "search_limit", "timeout_secs"]

/-- Positional notation at any length. -/
def positional : Decimal.Layout := ⟨400, 400⟩

/-- The wording for a value that was found. -/
def describe : Json → String
  | .null => "unit value"
  | .bool b => "boolean `" ++ (if b then "true" else "false") ++ "`"
  | .num (.int i) => "integer `" ++ Decimal.intText i ++ "`"
  | .num (.float x) =>
    "floating point `" ++ (positional.text? (Decimal.ofFloat x)).getD "NaN" ++ "`"
  | .str s => "string " ++ Text.quoted s
  | .arr _ => "sequence"
  | .obj _ => "map"

/-- The wording of an error. -/
def SettingsError.message : SettingsError → String
  | .wrongType found expected =>
    "invalid type: " ++ describe found ++ ", expected " ++ expected.text
  | .outOfRange found expected =>
    "invalid value: integer `" ++ Decimal.intText found ++ "`, expected " ++ expected.text
  | .unknownField name =>
    "unknown field `" ++ name ++ "`, expected one of " ++
      ", ".intercalate (settingNames.map (fun n => "`" ++ n ++ "`"))
  | .tooFew count =>
    "invalid length " ++ Decimal.text count ++ ", expected struct SettingsOverride with 5 elements"
  | .tooMany count =>
    "invalid length " ++ Decimal.text count ++ ", expected fewer elements in array"
  | .zeroTimeout => "timeout_secs cannot be 0"

/-- The settings of one definition; what is absent is left as it is. -/
structure Overrides where
  baseUrl : Option String := none
  coversUrl : Option String := none
  requestsPerMinute : Option Nat := none
  searchLimit : Option Nat := none
  timeoutSecs : Option Nat := none
  deriving DecidableEq, Repr, Inhabited

namespace Overrides

/-- A text, or nothing for `null`. -/
def readText : Json → Except SettingsError (Option String)
  | .null => .ok none
  | .str s => .ok (some s)
  | j => .error (.wrongType j .string)

/-- A natural number up to a bound, or nothing for `null`. -/
def readNumber (expected : Expected) (bound : Nat) : Json → Except SettingsError (Option Nat)
  | .null => .ok none
  | .num (.int i) =>
    if 0 ≤ i ∧ i ≤ bound then .ok (some i.toNat) else .error (.outOfRange i expected)
  | j => .error (.wrongType j expected)

/-- Reads one setting into the others. -/
def set (o : Overrides) (name : String) (j : Json) : Except SettingsError Overrides :=
  match name with
  | "base_url" => (readText j).map (fun v => { o with baseUrl := v })
  | "covers_url" => (readText j).map (fun v => { o with coversUrl := v })
  | "requests_per_minute" =>
    (readNumber .number32 greatest32 j).map (fun v => { o with requestsPerMinute := v })
  | "search_limit" =>
    (readNumber .number32 greatest32 j).map (fun v => { o with searchLimit := v })
  | "timeout_secs" =>
    (readNumber .number64 greatest64 j).map (fun v => { o with timeoutSecs := v })
  | _ => .error (.unknownField name)

/-- Reads named settings one after the other. -/
def ofMembers (o : Overrides) : List (String × Json) → Except SettingsError Overrides
  | [] => .ok o
  | (name, j) :: rest =>
    match o.set name j with
    | .error e => .error e
    | .ok o => ofMembers o rest

/-- Reads a list of settings in their order. -/
def ofItems (items : List Json) : Except SettingsError Overrides :=
  match ofMembers {} (settingNames.zip items) with
  | .error e => .error e
  | .ok o =>
    if items.length < settingNames.length then .error (.tooFew items.length)
    else if settingNames.length < items.length then .error (.tooMany items.length)
    else .ok o

/-- Reads the settings of a definition: an object, or a list of all settings. -/
def ofJson : Json → Except SettingsError Overrides
  | .obj members => ofMembers {} members
  | .arr items => ofItems items
  | j => .error (.wrongType j .overrides)

end Overrides

/-- An address without slashes at its end. -/
def trimSlashes (url : String) : String :=
  String.ofList (url.toList.reverse.dropWhile (· == '/')).reverse

namespace Config

/-- Applies settings that have been read. -/
def apply (c : Config) (o : Overrides) : Except SettingsError Config :=
  if o.timeoutSecs = some 0 then .error .zeroTimeout
  else
    .ok
      { baseUrl := trimSlashes (o.baseUrl.getD c.baseUrl)
        coversUrl := trimSlashes (o.coversUrl.getD c.coversUrl)
        userAgent := c.userAgent
        requestsPerMinute := o.requestsPerMinute.getD c.requestsPerMinute
        searchLimit := o.searchLimit.getD c.searchLimit
        timeoutSecs := o.timeoutSecs.or c.timeoutSecs }

/-- The configuration with the settings of a definition on top. -/
def override (c : Config) : Json → Except SettingsError Config
  | .null => .ok c
  | settings =>
    match Overrides.ofJson settings with
    | .error e => .error e
    | .ok o => c.apply o

/-- A settings error as the error of a source. -/
def sourceError (e : SettingsError) : SourceError :=
  .notConfigured ("invalid settings: " ++ e.message)

end Config
end OpenLibrary
end Biblio
