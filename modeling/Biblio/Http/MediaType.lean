/-!
# Media types

The header of a request says what its body is.  `isJson` tells whether it is JSON: the type is
`application`, and the subtype is `json` or ends in `+json`.  Parameters may follow, each a name, an
equals sign and a value, which may be quoted.
-/

set_option autoImplicit false

namespace Biblio
namespace Http

/-- A character of a name. -/
def isToken (c : Char) : Bool :=
  c.isAlphanum || ['!', '#', '$', '%', '&', '\'', '*', '+', '-', '.', '^', '_', Char.ofNat 96, '|',
    '~'].contains c

/-- A character of a quoted value. -/
def isQuotable (c : Char) : Bool := 31 < c.toNat && c != '"' && c.toNat != 127

/-- Reads the rest of a value, and then the parameters behind it. -/
def areParameters : Nat → List Char → Bool
  | _, [] => true
  | 0, _ => false
  | fuel + 1, ' ' :: rest => areParameters fuel rest
  | fuel + 1, cs =>
    let name := cs.takeWhile isToken
    match cs.drop name.length with
    | '=' :: '"' :: rest =>
      let value := rest.takeWhile isQuotable
      match rest.drop value.length with
      | '"' :: ';' :: rest => !name.isEmpty && !value.isEmpty && areParameters fuel rest
      | ['"'] => !name.isEmpty && !value.isEmpty
      | _ => false
    | '=' :: rest =>
      let value := rest.takeWhile isToken
      match rest.drop value.length with
      | ';' :: rest => !name.isEmpty && !value.isEmpty && areParameters fuel rest
      | [] => !name.isEmpty
      | _ => false
    | _ => false

/-- A subtype that stands for JSON: the whole of it, or what stands behind its last plus. -/
def isJsonSubtype (subtype : List Char) : Bool :=
  subtype = ['j', 's', 'o', 'n'] ||
    (subtype.reverse.take 5 = ['n', 'o', 's', 'j', '+'] && 5 < subtype.length)

/-- Whether a media type is JSON. -/
def isJson (mediaType : String) : Bool :=
  let cs := mediaType.toList.map Char.toLower
  let kind := cs.takeWhile isToken
  match cs.drop kind.length with
  | '/' :: rest =>
    let subtype := rest.takeWhile isToken
    kind = "application".toList && isJsonSubtype subtype &&
      (match rest.drop subtype.length with
      | [] => true
      | c :: rest => (c = ';' || c = ' ') && areParameters rest.length rest)
  | _ => false

end Http
end Biblio
