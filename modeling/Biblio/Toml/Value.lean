import Biblio.Toml.Number

/-!
# Values in TOML

* `scanValue` reads a value: a string, a number, a time, a truth value, an array or a table in one
  line.
* `insertAt` puts a value under a key with several parts into a table in one line.  Tables that come
  into being this way can be added to, all others cannot.
-/

set_option autoImplicit false

namespace Biblio
namespace Toml

/-- A table in one line while it is read. -/
inductive Draft where
  /-- A value, which nothing can be added to. -/
  | leaf (value : Tree)
  /-- A table that came into being through a key with several parts. -/
  | table (members : List (String × Draft))

mutual

/-- The value of a draft. -/
def Draft.tree : Draft → Tree
  | .leaf t => t
  | .table ms => .branch (Draft.trees ms)

/-- The values of the members of a draft, in the order of their names. -/
def Draft.trees : List (String × Draft) → List (String × Tree)
  | [] => []
  | (k, d) :: rest => Text.insertSorted k (Draft.tree d) (Draft.trees rest)

end

/-- Puts a value under the parts of a key, if nothing is in the way. -/
def insertAt (value : Tree) : List String → List (String × Draft) → Option (List (String × Draft))
  | [], _ => none
  | [k], ms => if (ms.lookup k).isSome then none else some (ms ++ [(k, .leaf value)])
  | k :: ks, ms =>
    match ms.lookup k with
    | none => (insertAt value ks []).map (fun sub => ms ++ [(k, .table sub)])
    | some (.leaf _) => none
    | some (.table sub) =>
      (insertAt value ks sub).map fun sub =>
        ms.map (fun m => if m.1 = k then (k, .table sub) else m)

/-- Puts values under keys into a table, one after the other. -/
def draftOf : List (List String × Tree) → List (String × Draft) → Option (List (String × Draft))
  | [], ms => some ms
  | (key, value) :: rest, ms =>
    match insertAt value key ms with
    | none => none
    | some ms => draftOf rest ms

/-- The table that has values under keys. -/
def tableOf (pairs : List (List String × Tree)) : Option Tree :=
  (draftOf pairs []).map (fun ms => .branch (Draft.trees ms))

/-- Reads a value that is no container. -/
def scanScalar (cs : List Char) : Scan Tree :=
  match cs with
  | '"' :: _ | '\'' :: _ => (scanString cs).map (fun r => (.text r.1, r.2))
  | 't' :: 'r' :: 'u' :: 'e' :: rest => some (.flag true, rest)
  | 'f' :: 'a' :: 'l' :: 's' :: 'e' :: rest => some (.flag false, rest)
  | _ => if looksLikeDate cs || looksLikeTime cs then scanTime cs else scanNumber cs

mutual

/-- Reads a value; `depth` counts the containers around it. -/
def scanValueIn : Nat → Nat → List Char → Scan Tree
  | 0, _, _ => none
  | fuel + 1, depth, '[' :: rest =>
    if depthLimit ≤ depth + 1 then none
    else (scanItems fuel (depth + 1) rest).map (fun r => (.items r.1, r.2))
  | fuel + 1, depth, '\x7b' :: rest =>
    if depthLimit ≤ depth + 1 then none
    else
      match skipBlank rest with
      | '\x7d' :: rest => some (.branch [], rest)
      | rest =>
        match scanPairs fuel (depth + 1) rest with
        | none => none
        | some (pairs, rest) => (tableOf pairs).map (·, rest)
  | _ + 1, _, cs => scanScalar cs

/-- Reads the items of an array up to its end; a comma may stand behind the last one. -/
def scanItems : Nat → Nat → List Char → Scan (List Tree)
  | 0, _, _ => none
  | fuel + 1, depth, cs =>
    match skipLines false cs with
    | none => none
    | some (']' :: rest) => some ([], rest)
    | some start =>
      match scanValueIn fuel depth start with
      | none => none
      | some (value, rest) =>
        match skipLines false rest with
        | some (',' :: rest) => (scanItems fuel depth rest).map (fun r => (value :: r.1, r.2))
        | some (']' :: rest) => some ([value], rest)
        | _ => none

/-- Reads the pairs of a table in one line up to its end. -/
def scanPairs : Nat → Nat → List Char → Scan (List (List String × Tree))
  | 0, _, _ => none
  | fuel + 1, depth, cs =>
    match scanKey cs with
    | some (key, '=' :: rest) =>
      match scanValueIn fuel depth (skipBlank rest) with
      | none => none
      | some (value, rest) =>
        match skipBlank rest with
        | ',' :: rest => (scanPairs fuel depth rest).map (fun r => ((key, value) :: r.1, r.2))
        | '\x7d' :: rest => some ([(key, value)], rest)
        | _ => none
    | _ => none

end

/-- Reads a value. -/
def scanValue (cs : List Char) : Scan Tree := scanValueIn (2 * cs.length + 1) 0 cs

end Toml
end Biblio
