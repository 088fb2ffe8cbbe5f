import Biblio.Json.Basic
import Biblio.Text.Case
import Biblio.Text.Infix

/-!
# Redaction

Settings may hold secrets.  `redact` hides every value whose key looks like the name of a secret, at
any depth, and changes nothing else.
-/

set_option autoImplicit false

namespace Biblio
namespace Redaction

/-- The words that make a key the name of a secret. -/
def markers : List (List Char) :=
  [['k', 'e', 'y'], ['t', 'o', 'k', 'e', 'n'], ['s', 'e', 'c', 'r', 'e', 't'],
    ['p', 'a', 's', 's', 'w', 'o', 'r', 'd']]

/-- Whether a key, in lower case, contains one of the words. -/
def isSecretKey (key : String) : Bool :=
  markers.any (fun m => Text.occursIn m (Text.lower key.toList))

/-- What is shown in place of a secret. -/
def hidden : Json := .str "********"

mutual

/-- Hides the values under secret keys. -/
def redact : Json → Json
  | .arr items => .arr (redactItems items)
  | .obj members => .obj (redactMembers members)
  | j => j

/-- Hides the secrets in the items of an array. -/
def redactItems : List Json → List Json
  | [] => []
  | j :: rest => redact j :: redactItems rest

/-- Hides the secrets in the members of an object. -/
def redactMembers : List (String × Json) → List (String × Json)
  | [] => []
  | (key, j) :: rest =>
    (key, if isSecretKey key then hidden else redact j) :: redactMembers rest

end

end Redaction
end Biblio
