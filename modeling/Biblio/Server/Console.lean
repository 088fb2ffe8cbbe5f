import Biblio.Http.Api

/-!
# Requests by the line

* `Console.request?` reads a request from a line: a method, a target, and perhaps a JSON body.
* `Console.render` writes the response to it in a line: its status and its body.
-/

set_option autoImplicit false

namespace Biblio
namespace Server
namespace Console

/-- Cuts a text at its first blank. -/
def cut (cs : List Char) : List Char × List Char :=
  let word := cs.takeWhile (fun c => !Text.isBlank c)
  (word, (cs.drop word.length).dropWhile Text.isBlank)

/-- The request in a line, if it has a method and a target. -/
def request? (line : String) : Option Http.Request :=
  let (method, rest) := cut (Text.trimChars line.toList)
  let (target, body) := cut rest
  if target.isEmpty then none
  else
    some
      { method := String.ofList method
        target := String.ofList target
        mediaType := if body.isEmpty then none else some "application/json"
        body := String.ofList body }

/-- The line of a response. -/
def render (r : Http.Response) : String :=
  match r.body with
  | some body => Decimal.text r.status ++ " " ++ body.render
  | none => Decimal.text r.status

end Console
end Server
end Biblio
