import Biblio.Config.Load
import Biblio.Store.Basic

/-!
# The folder of the server

A server reads its configuration from a file and keeps its store in another one.  What one run
leaves in the folder is what the next one finds.

* `Folder.file` is what stands at a path, and `Folder.openStore` the store there.
* `Folder.write` and `Folder.keep` put a text and a store under a path.
-/

set_option autoImplicit false

namespace Biblio
namespace Server

/-- What the folder of a server holds, by name.  A name has a text or a store, not both. -/
structure Folder where
  texts : List (String × String) := []
  stores : List (String × Store) := []
  deriving Inhabited

namespace Folder

/-- The parts of a path between its slashes. -/
def parts : List Char → List (List Char)
  | [] => [[]]
  | c :: rest =>
    if c = '/' then [] :: parts rest
    else match parts rest with
      | [] => [[c]]
      | p :: ps => (c :: p) :: ps

/-- The parts of a path that lead somewhere else. -/
def steps (path : String) : List (List Char) :=
  (parts path.toList).filter (fun p => !p.isEmpty && p != ['.'])

/-- Whether a path begins at the root of all folders. -/
def absolute (path : String) : Bool := path.toList.head? = some '/'

/-- The folders that exist beside and above this one. -/
def isFolder (path : String) : Bool :=
  !path.isEmpty &&
    if absolute path then steps path = [] || steps path = ["tmp".toList]
    else (steps path).all (· = ['.', '.'])

/-- The name in this folder that a path stands for. -/
def name? (path : String) : Option String :=
  match steps path with
  | [p] => if absolute path || p = ['.', '.'] then none else some (String.ofList p)
  | _ => none

/-- The path without its last step. -/
def parent (path : String) : List (List Char) := (steps path).dropLast

/-- Whether a file at the path can be made. -/
def reachable (path : String) : Bool :=
  if absolute path then parent path = [] || parent path = ["tmp".toList]
  else (parent path).all (· = ['.', '.'])

/-- Removes what has a name. -/
def clear (f : Folder) (name : String) : Folder where
  texts := f.texts.filter (fun e => e.1 != name)
  stores := f.stores.filter (fun e => e.1 != name)

/-- Puts a text under a name. -/
def write (f : Folder) (name text : String) : Folder :=
  { f.clear name with texts := (name, text) :: (f.clear name).texts }

/-- What stands at a path. -/
def file (f : Folder) (path : String) : Config.File :=
  if isFolder path then .folder
  else
    match name? path with
    | none => .missing
    | some name =>
      match f.texts.lookup name with
      | some text => .text text
      | none => if (f.stores.lookup name).isSome then .binary else .missing

/-- Whether the store at a path is given up with the run: it has no name, or one that stands for the
memory. -/
def isTransient (path : String) : Bool := path.isEmpty || path = ":memory:"

/-- Opens the store at a path, or makes an empty one. -/
def openStore (f : Folder) (path : String) : Except StoreError Store :=
  if isTransient path then .ok {}
  else if isFolder path || !reachable path then
    .error (.database ("unable to open database file: " ++ path))
  else
    match name? path with
    | none => .ok {}
    | some name =>
      match f.stores.lookup name with
      | some store => .ok store
      | none =>
        if ((f.texts.lookup name).getD "").isEmpty then .ok {}
        else .error (.database "file is not a database")

/-- Keeps a store under a path. -/
def keep (f : Folder) (path : String) (store : Store) : Folder :=
  if isTransient path then f
  else
    match name? path with
    | none => f
    | some name => { f.clear name with stores := (name, store) :: (f.clear name).stores }

end Folder
end Server
end Biblio
