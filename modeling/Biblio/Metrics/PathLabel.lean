/-!
# Labels of paths

Measurements of requests are kept by path, so identifiers in a path are replaced by a placeholder.

* `hideEntities` replaces the segment after `author`, `book`, `isbn` or `asin`.
* `hideNumbers` replaces a segment of digits; the segment after one is left as it is.
* `pathLabel` does the one and then the other.
-/

set_option autoImplicit false

namespace Biblio
namespace Metrics

/-- The segments behind which an identifier stands. -/
def entityNames : List (List Char) :=
  [['a', 'u', 't', 'h', 'o', 'r'], ['b', 'o', 'o', 'k'], ['i', 's', 'b', 'n'],
    ['a', 's', 'i', 'n']]

/-- What stands in the place of an identifier. -/
def placeholder : List Char := ['\x7b', 'i', 'd', '\x7d']

/-- The pieces of a path between its slashes. -/
def segments : List Char → List (List Char)
  | [] => [[]]
  | c :: cs =>
    if c = '/' then [] :: segments cs
    else
      match segments cs with
      | [] => [[c]]
      | s :: ss => (c :: s) :: ss

/-- Segments with slashes between them. -/
def joinSegments : List (List Char) → List Char
  | [] => []
  | [s] => s
  | s :: ss => s ++ '/' :: joinSegments ss

/-- Replaces each segment behind the name of an entity. -/
def hideEntities : List (List Char) → List (List Char)
  | s :: t :: rest =>
    if entityNames.contains s && !t.isEmpty then s :: placeholder :: hideEntities rest
    else s :: hideEntities (t :: rest)
  | ss => ss

/-- A segment of digits. -/
def isNumber (s : List Char) : Bool := !s.isEmpty && s.all Char.isDigit

/-- Replaces segments of digits, but not one that follows another that was replaced. -/
def hideNumbers : List (List Char) → List (List Char)
  | [] => []
  | [s] => [if isNumber s then placeholder else s]
  | s :: t :: rest =>
    if isNumber s then placeholder :: t :: hideNumbers rest else s :: hideNumbers (t :: rest)

/-- Applies a change to the segments behind the first slash. -/
def behindFirst (f : List (List Char) → List (List Char)) :
    List (List Char) → List (List Char)
  | [] => []
  | s :: rest => s :: f rest

/-- The label of a path. -/
def pathLabel (path : String) : String :=
  String.ofList
    (joinSegments (behindFirst hideNumbers (behindFirst hideEntities (segments path.toList))))

end Metrics
end Biblio
