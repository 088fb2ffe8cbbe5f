import Biblio.Json.Decoder

/-!
# Trees of settings

Settings come from a file and from the environment before they are given types.

* `Tree` is a value of settings, whatever it comes from.
* `Tree.merge` lays one tree over another: branches are joined, all else is replaced.
* `Tree.document` is the tree as a document, from which `Tree.read` reads typed values.
-/

set_option autoImplicit false

namespace Biblio

/-- A value of settings. -/
inductive Tree where
  | flag (b : Bool)
  | integer (i : Int)
  | float (x : Float)
  | text (s : String)
  | items (values : List Tree)
  /-- Values under names, in the order of the names. -/
  | branch (members : List (String × Tree))
  deriving Inhabited

namespace Tree

/-- The branch that has a value at the end of a path. -/
def nest : List String → Tree → Tree
  | [], t => t
  | k :: ks, t => .branch [(k, nest ks t)]

/-- The members of a branch; none if the tree is none. -/
def members : Tree → List (String × Tree)
  | .branch ms => ms
  | _ => []

mutual

/-- Lays a tree over another. -/
def merge (under : Tree) : Tree → Tree
  | .branch ms =>
    match under with
    | .branch below => .branch (mergeMembers below ms)
    | _ => .branch ms
  | t => t

/-- Lays members over those of a branch. -/
def mergeMembers (under : List (String × Tree)) : List (String × Tree) → List (String × Tree)
  | [] => under
  | (k, t) :: rest =>
    let value :=
      match under.lookup k with
      | some below => merge below t
      | none => t
    mergeMembers (Text.insertSorted k value under) rest

end

mutual

/-- The tree as a document.  Items beyond the ones that are asked for do not matter. -/
def document : Tree → Json.Document
  | .flag b => .bool b
  | .integer i => .number (some (.int i))
  | .float x => .number (some (.float x))
  | .text s => .text (some s)
  | .items ts => .array (documents ts) true
  | .branch ms => .object (documentMembers ms)

/-- Trees as the items of an array. -/
def documents : List Tree → Json.Items
  | [] => .close
  | t :: ts => .item (document t) (documents ts)

/-- Trees under names as the members of an object. -/
def documentMembers : List (String × Tree) → Json.Members
  | [] => .close
  | (k, t) :: rest => .member (some k) (document t) (documentMembers rest)

end

mutual

/-- How deep branches and lists of items are nested. -/
def depth : Tree → Nat
  | .items ts => depths ts + 1
  | .branch ms => depthMembers ms + 1
  | _ => 0

/-- The greatest depth of trees. -/
def depths : List Tree → Nat
  | [] => 0
  | t :: ts => max (depth t) (depths ts)

/-- The greatest depth of trees under names. -/
def depthMembers : List (String × Tree) → Nat
  | [] => 0
  | (_, t) :: rest => max (depth t) (depthMembers rest)

end

/-- Reads a typed value, however deep the tree is. -/
def read {α : Type} (decoder : Json.Decoder α) (t : Tree) : Except Json.Fault α :=
  decoder (t.depth + 1) t.document

end Tree
end Biblio
