import Biblio.Toml.Value

/-!
# TOML documents

A document is a sequence of statements: headers of tables, and pairs of a key and a value that belong
to the table whose header came last.

* `Node` is a table while the document is read, with what may still be done to it.  A table that only
  came into being on the way to another one may still get a header; one that came into being through
  a key with several parts may be added to in the same way, but gets no header.
* `openTable`, `openElement` and `insertPair` carry out the three kinds of statement.
* `parse` reads a document.
-/

set_option autoImplicit false

namespace Biblio
namespace Toml

/-- How a table came into being. -/
inductive Origin where
  /-- Through a header of its own. -/
  | header
  /-- On the way to another table. -/
  | passed
  /-- Through a key with several parts. -/
  | dotted
  deriving DecidableEq, Repr

/-- A value under a name while a document is read. -/
inductive Node where
  | leaf (value : Tree)
  | table (origin : Origin) (members : List (String × Node))
  /-- The tables of an array, the last of which is still open. -/
  | elements (closed : List (List (String × Node))) (last : List (String × Node))

/-- The members of a table while a document is read. -/
abbrev Members := List (String × Node)

mutual

/-- The value of a node. -/
def Node.tree : Node → Tree
  | .leaf t => t
  | .table _ ms => .branch (Node.trees ms)
  | .elements closed last => .items (Node.tables closed ++ [.branch (Node.trees last)])

/-- The values of members, in the order of their names. -/
def Node.trees : List (String × Node) → List (String × Tree)
  | [] => []
  | (k, n) :: rest => Text.insertSorted k (Node.tree n) (Node.trees rest)

/-- The values of the tables of an array. -/
def Node.tables : List (List (String × Node)) → List Tree
  | [] => []
  | ms :: rest => .branch (Node.trees ms) :: Node.tables rest

end

/-- Puts a node under a name, in place of what is there. -/
def putNode (k : String) (n : Node) (ms : Members) : Members :=
  if (ms.lookup k).isSome then ms.map (fun m => if m.1 = k then (k, n) else m) else ms ++ [(k, n)]

/-- Goes down a path to a table and changes it.  Tables that are missing on the way come into being
with the given origin; what came into being through a header is not passed by a key with several
parts. -/
def within (origin : Origin) (change : Origin → Members → Option Members) :
    List String → Origin → Members → Option Members
  | [], here, ms => change here ms
  | k :: ks, _, ms =>
    match ms.lookup k with
    | none => (within origin change ks origin []).map (fun sub => putNode k (.table origin sub) ms)
    | some (.leaf _) => none
    | some (.table o sub) =>
      if origin = .dotted ∧ o = .header then none
      else (within origin change ks o sub).map (fun sub => putNode k (.table o sub) ms)
    | some (.elements closed last) =>
      (within origin change ks .header last).map
        (fun last => putNode k (.elements closed last) ms)

/-- The last part of a path and those before it. -/
def unsnoc : List String → Option (List String × String)
  | [] => none
  | [k] => some ([], k)
  | k :: ks => (unsnoc ks).map (fun r => (k :: r.1, r.2))

/-- Gives the table at a path its header. -/
def openTable (path : List String) (root : Members) : Option Members :=
  match unsnoc path with
  | none => none
  | some (parents, k) =>
    within .passed (fun _ ms =>
      match ms.lookup k with
      | none => some (putNode k (.table .header []) ms)
      | some (.table .passed sub) => some (putNode k (.table .header sub) ms)
      | some _ => none) parents .header root

/-- Adds a table to the array at a path. -/
def openElement (path : List String) (root : Members) : Option Members :=
  match unsnoc path with
  | none => none
  | some (parents, k) =>
    within .passed (fun _ ms =>
      match ms.lookup k with
      | none => some (putNode k (.elements [] []) ms)
      | some (.elements closed last) => some (putNode k (.elements (closed ++ [last]) []) ms)
      | some _ => none) parents .header root

/-- Puts a value under a key into the table at a path. -/
def insertPair (path key : List String) (value : Tree) (root : Members) : Option Members :=
  match unsnoc key with
  | none => none
  | some (parents, k) =>
    let put (here : Origin) (ms : Members) : Option Members :=
      if !parents.isEmpty && here != .dotted then none
      else if (ms.lookup k).isSome then none
      else some (putNode k (.leaf value) ms)
    within .passed (fun here ms => within .dotted put parents here ms) path .header root

/-! ## Statements -/

/-- A statement of a document. -/
inductive Statement where
  | table (path : List String)
  | element (path : List String)
  | pair (key : List String) (value : Tree)

/-- Reads a statement that begins here, with the rest of its line. -/
def scanStatement (cs : List Char) : Scan Statement :=
  match cs with
  | '[' :: '[' :: rest =>
    match scanKey rest with
    | some (path, ']' :: ']' :: rest) => (skipRest rest).map (.element path, ·)
    | _ => none
  | '[' :: rest =>
    match scanKey rest with
    | some (path, ']' :: rest) => (skipRest rest).map (.table path, ·)
    | _ => none
  | _ =>
    match scanKey cs with
    | some (key, '=' :: rest) =>
      match scanValue (skipBlank rest) with
      | some (value, rest) => (skipRest rest).map (.pair key value, ·)
      | none => none
    | _ => none

/-- Reads the statements of a document; the number bounds how many there are. -/
def statements : Nat → List Char → Option (List Statement)
  | 0, _ => some []
  | fuel + 1, cs =>
    match skipLines false cs with
    | none => none
    | some [] => some []
    | some start =>
      match scanStatement start with
      | none => none
      | some (s, rest) => (statements fuel rest).map (s :: ·)

/-- Carries out statements; pairs go into the table at a path. -/
def execute : List String → List Statement → Members → Option Members
  | _, [], root => some root
  | _, .table path :: rest, root =>
    match openTable path root with
    | none => none
    | some root => execute path rest root
  | _, .element path :: rest, root =>
    match openElement path root with
    | none => none
    | some root => execute path rest root
  | here, .pair key value :: rest, root =>
    match insertPair here key value root with
    | none => none
    | some root => execute here rest root

/-- Drops the mark of the byte order at the beginning of a text. -/
def dropMark : List Char → List Char
  | c :: rest => if c.toNat = 0xFEFF then rest else c :: rest
  | [] => []

/-- Reads a document. -/
def parse (s : String) : Option Tree :=
  let cs := unifyLines (dropMark s.toList)
  match statements (cs.length + 1) cs with
  | none => none
  | some ss => (execute [] ss []).map (fun root => .branch (Node.trees root))

end Toml
end Biblio
