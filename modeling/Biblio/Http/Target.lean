import Biblio.Json.Reader
import Biblio.Metrics.PathLabel
import Biblio.Text.Utf8

/-!
# Targets of requests

The target of a request is a path and, behind a question mark, a query.

* `pathOf` and `queryOf` take the two apart; what stands behind a number sign belongs to neither.
* `decodeSegment` reads a segment of a path, and `formPairs` the pairs of a query: octets may be
  written as a percent sign and two hexadecimal digits, and in a query a plus stands for a blank.
* `encodeSegment` and `encodeForm` write them.
-/

set_option autoImplicit false

namespace Biblio
namespace Http

/-- A target as far as it is meant for the server. -/
def sentPart (target : String) : List Char := target.toList.takeWhile (· != '#')

/-- The path of a target. -/
def pathOf (target : String) : String := String.ofList ((sentPart target).takeWhile (· != '?'))

/-- The query of a target; empty if there is none. -/
def queryOf (target : String) : List Char := ((sentPart target).dropWhile (· != '?')).drop 1

/-- The code of an octet as a character. -/
def octetChar (b : Nat) : Char := Char.ofNat b

/-- The value of a hexadecimal digit. -/
def hexOctet? (b : Nat) : Option Nat := Json.hexValue? (octetChar b)

/-- Replaces what is written with a percent sign by the octet that is meant.  A percent sign without
two digits stands for itself. -/
def unescape : List Nat → List Nat
  | 37 :: a :: b :: rest =>
    match hexOctet? a, hexOctet? b with
    | some x, some y => (16 * x + y) :: unescape rest
    | _, _ => 37 :: unescape (a :: b :: rest)
  | b :: rest => b :: unescape rest
  | [] => []

/-- A segment of a path as it is meant, if that is text. -/
def decodeSegment (segment : List Char) : Option String :=
  Text.Utf8.decodeStrictly (unescape (Text.Utf8.encode (String.ofList segment)))

/-- Part of a query as it is meant. -/
def decodeForm (part : List Char) : String :=
  Text.Utf8.decodeLeniently
    (unescape ((Text.Utf8.encode (String.ofList part)).map (fun b => if b = 43 then 32 else b)))

/-- Splits at every occurrence of a character. -/
def splitAt (separator : Char) : List Char → List (List Char)
  | [] => [[]]
  | c :: cs =>
    match splitAt separator cs with
    | [] => [[c]]
    | first :: others =>
      if c = separator then [] :: first :: others else (c :: first) :: others

/-- The pairs of a query.  A pair without an equals sign has an empty value. -/
def formPairs (query : List Char) : List (String × String) :=
  ((splitAt '&' query).filter (fun p => !p.isEmpty)).map fun p =>
    (decodeForm (p.takeWhile (· != '=')), decodeForm ((p.dropWhile (· != '=')).drop 1))

/-! ## Writing -/

/-- A hexadecimal digit as it is written in targets. -/
def hexChar (n : Nat) : Char := if n < 10 then Char.ofNat (48 + n) else Char.ofNat (55 + n)

/-- An octet, written with a percent sign. -/
def escaped (b : Nat) : List Char := ['%', hexChar (b / 16), hexChar (b % 16)]

/-- A letter or digit. -/
def isPlain (b : Nat) : Bool := b < 128 && (octetChar b).isAlphanum

/-- An octet of a segment. -/
def segmentOctet (b : Nat) : List Char :=
  if isPlain b || b = 45 || b = 46 || b = 95 || b = 126 then [octetChar b] else escaped b

/-- A segment of a path. -/
def encodeSegment (s : String) : String :=
  String.ofList ((Text.Utf8.encode s).flatMap segmentOctet)

/-- An octet of a query. -/
def formOctet (b : Nat) : List Char :=
  if b = 32 then ['+']
  else if isPlain b || b = 42 || b = 45 || b = 46 || b = 95 then [octetChar b]
  else escaped b

/-- Part of a query. -/
def encodeForm (s : String) : String := String.ofList ((Text.Utf8.encode s).flatMap formOctet)

/-- A query of pairs. -/
def formQuery (pairs : List (String × String)) : String :=
  "&".intercalate (pairs.map (fun p => encodeForm p.1 ++ "=" ++ encodeForm p.2))

/-! ## Values in queries -/

/-- The value under a name; twice is a mistake. -/
def value? (pairs : List (String × String)) (name : String) : Option (Option String) :=
  match pairs.filter (fun p => p.1 == name) with
  | [] => some none
  | [p] => some (some p.2)
  | _ => none

/-- The value under a name that has to be there. -/
def required? (pairs : List (String × String)) (name : String) : Option String :=
  (value? pairs name).join

/-- A truth value under a name. -/
def flag? (pairs : List (String × String)) (name : String) (default : Bool) : Option Bool :=
  match value? pairs name with
  | none => none
  | some none => some default
  | some (some "true") => some true
  | some (some "false") => some false
  | some (some _) => none

end Http
end Biblio
