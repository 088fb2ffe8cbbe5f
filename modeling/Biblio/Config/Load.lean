import Biblio.Config.Environment
import Biblio.Config.Validation
import Biblio.Toml.Document

/-!
# Loading a configuration

* `Config.ofToml` reads a configuration from a TOML document.
* `Config.load` reads the file of the configuration and lays the settings of the environment over it.
-/

set_option autoImplicit false

namespace Biblio
namespace Config

/-- What stands at the path of a configuration. -/
inductive File where
  | missing
  /-- Something without text, such as a folder; it has no settings. -/
  | folder
  | text (content : String)
  /-- A file that is no text. -/
  | binary
  deriving DecidableEq, Repr, Inhabited

/-- The settings in a TOML document. -/
def settings (toml : String) : Except ConfigError Tree :=
  match Toml.parse toml with
  | some t => .ok t
  | none => .error (.parse "not a TOML document")

/-- The configuration that settings stand for. -/
def ofTree (t : Tree) : Except ConfigError Config :=
  match t.read decoder with
  | .ok c => .ok c
  | .error _ => .error (.parse "a setting has the wrong type")

/-- Reads a configuration from a TOML document. -/
def ofToml (toml : String) : Except ConfigError Config :=
  match settings toml with
  | .ok t => ofTree t
  | .error e => .error e

/-- The settings in a file at a path. -/
def File.settings (path : String) : File → Except ConfigError Tree
  | .missing => .error (.fileNotFound path)
  | .folder => .ok (.branch [])
  | .text content => Config.settings content
  | .binary => .error (.parse "not a text")

/-- Reads the configuration in a file, under the settings in variables of the environment. -/
def load (path : String) (file : File) (bindings : List (String × String)) :
    Except ConfigError Config :=
  match file.settings path with
  | .ok t => ofTree (t.merge (Environment.settings bindings))
  | .error e => .error e

end Config
end Biblio
