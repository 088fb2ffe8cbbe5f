import Biblio.Config.Tree
import Biblio.Decimal.Nearest
import Biblio.Text.Blank
import Biblio.Toml.Lexeme

/-!
# Settings from the environment

A variable whose name begins with `BOOKSHELF_` is a setting.  Two underscores in the name separate
the parts of its path, in which capitals do not count.

* `Environment.path?` is the path of a variable, if it is a setting.
* `Environment.value` reads the value of a variable.  It has a notation for truth values, numbers,
  lists and tables; whatever is not written in this notation is the text as it stands.
* `Environment.settings` lays the settings of all variables over each other, in their order.
* `Environment.ofBlock` reads the variables of a process, as its system lists them.
-/

set_option autoImplicit false

namespace Biblio
namespace Environment

/-- What the name of a setting begins with. -/
def namePrefix : List Char := "BOOKSHELF_".toList

/-- The name with a point for every two underscores. -/
def pointed : List Char → List Char
  | '_' :: '_' :: rest => '.' :: pointed rest
  | c :: rest => c :: pointed rest
  | [] => []

/-- The parts of a path between its points. -/
def parts : List Char → List (List Char)
  | [] => [[]]
  | c :: rest =>
    if c = '.' then [] :: parts rest
    else match parts rest with
      | [] => [[c]]
      | p :: ps => (c :: p) :: ps

/-- The path of a variable; none if it is no setting. -/
def path? (name : String) : Option (List String) :=
  let cs := Text.trimChars name.toList
  if (cs.take namePrefix.length).map Char.toUpper = namePrefix then
    let ps := parts (Text.trimChars (pointed (cs.drop namePrefix.length)))
    if ps.any List.isEmpty then none
    else some (ps.map (fun p => String.ofList (p.map Char.toLower)))
  else none

/-! ## The notation of values -/

/-- A blank of the notation. -/
def isSpace (c : Char) : Bool :=
  c = ' ' || c = '\t' || c = '\n' || c = '\r' || c = '\x0c'

/-- Passes over blanks. -/
def skipSpace (cs : List Char) : List Char := cs.dropWhile isSpace

/-- Whether a character ends a plain value. -/
def isSeparator (c : Char) : Bool :=
  c = ',' || c = '[' || c = ']' || c = '\x7b' || c = '\x7d'

/-- The greatest integer. -/
def greatestInteger : Int := 18446744073709551615

/-- The least integer. -/
def leastInteger : Int := -9223372036854775808

/-- A value that is neither quoted nor a container: a number if it can be one, else a text. -/
def plain (cs : List Char) : Tree :=
  let float := if cs.contains '.' then Decimal.float? cs else none
  match float with
  | some x => .float x
  | none =>
    match Decimal.int? cs with
    | some i => if leastInteger ≤ i ∧ i ≤ greatestInteger then .integer i else .text (String.ofList cs)
    | none => .text (String.ofList cs)

/-- Reads up to the closing quote, escapes included. -/
def quotedPart : List Char → Option (List Char × List Char)
  | '"' :: rest => some ([], rest)
  | '\\' :: c :: rest => (quotedPart rest).map (fun r => ('\\' :: c :: r.1, r.2))
  | c :: rest => (quotedPart rest).map (fun r => (c :: r.1, r.2))
  | [] => none

/-- Reads a quoted text behind its opening quote. -/
def scanQuoted (cs : List Char) : Option (String × List Char) :=
  match quotedPart cs with
  | none => none
  | some (raw, rest) => (Toml.unescape false raw).map (fun s => (String.ofList s, rest))

/-- Reads a single character behind its opening quote. -/
def scanCharacter : List Char → Option (Char × List Char)
  | '\\' :: c :: '\'' :: rest =>
    match c with
    | 'n' => some ('\n', rest)
    | 'r' => some ('\r', rest)
    | 't' => some ('\t', rest)
    | '\\' => some ('\\', rest)
    | '\'' => some ('\'', rest)
    | _ => none
  | c :: '\'' :: rest => if c = '\\' then none else some (c, rest)
  | _ => none

/-- Reads a key of a table, with blanks around it. -/
def scanKey (cs : List Char) : Option (String × List Char) :=
  let key :=
    match skipSpace cs with
    | '"' :: rest => scanQuoted rest
    | start =>
      let bare := start.takeWhile Toml.isKeyChar
      if bare.isEmpty then none else some (String.ofList bare, start.drop bare.length)
  key.map (fun r => (r.1, skipSpace r.2))

/-- A value with the blanks behind it passed over. -/
def andSpace (value : Tree) (rest : List Char) : Option (Tree × List Char) :=
  some (value, skipSpace rest)

mutual

/-- Reads a value, with blanks around it; the number bounds how much is read. -/
def scanValue : Nat → List Char → Option (Tree × List Char)
  | 0, _ => none
  | fuel + 1, cs =>
    match skipSpace cs with
    | 't' :: 'r' :: 'u' :: 'e' :: rest => andSpace (.flag true) rest
    | 'f' :: 'a' :: 'l' :: 's' :: 'e' :: rest => andSpace (.flag false) rest
    | '\x7b' :: rest =>
      match scanMembers fuel rest with
      | some (ms, rest) =>
        andSpace (.branch (ms.foldl (fun acc m => Text.insertSorted m.1 m.2 acc) [])) rest
      | none => none
    | '[' :: rest =>
      match scanItems fuel rest with
      | some (ts, rest) => andSpace (.items ts) rest
      | none => none
    | '"' :: rest =>
      match scanQuoted rest with
      | some (s, rest) => andSpace (.text s) rest
      | none => none
    | '\'' :: rest =>
      match scanCharacter rest with
      | some (c, rest) => andSpace (.text c.toString) rest
      | none => none
    | start =>
      let run := start.takeWhile (fun c => !isSeparator c)
      andSpace (plain (Text.trimChars run)) (start.drop run.length)

/-- Reads the items of a list behind its opening bracket. -/
def scanItems : Nat → List Char → Option (List Tree × List Char)
  | 0, _ => none
  | _ + 1, ']' :: rest => some ([], rest)
  | fuel + 1, cs =>
    match scanValue fuel cs with
    | some (t, ',' :: rest) => (scanItems fuel rest).map (fun r => (t :: r.1, r.2))
    | some (t, ']' :: rest) => some ([t], rest)
    | _ => none

/-- Reads the members of a table behind its opening brace. -/
def scanMembers : Nat → List Char → Option (List (String × Tree) × List Char)
  | 0, _ => none
  | _ + 1, '\x7d' :: rest => some ([], rest)
  | fuel + 1, cs =>
    match scanKey cs with
    | some (k, '=' :: rest) =>
      match scanValue fuel rest with
      | some (t, ',' :: rest) => (scanMembers fuel rest).map (fun r => ((k, t) :: r.1, r.2))
      | some (t, '\x7d' :: rest) => some ([(k, t)], rest)
      | _ => none
    | _ => none

end

/-- The value of a variable. -/
def value (s : String) : Tree :=
  let cs := s.toList
  match scanValue (2 * cs.length + 2) cs with
  | some (t, []) => t
  | _ => .text s

/-! ## All settings -/

/-- The settings in variables, given with their values. -/
def settings (bindings : List (String × String)) : Tree :=
  bindings.foldl (fun t v =>
    match path? v.1 with
    | some path => t.merge (Tree.nest path (value v.2))
    | none => t) (.branch [])

/-- Cuts a text behind every zero character. -/
def entries : List Char → List (List Char)
  | [] => []
  | c :: rest =>
    if c.toNat = 0 then [] :: entries rest
    else match entries rest with
      | [] => [[c]]
      | e :: es => (c :: e) :: es

/-- The variables in a block, in which every variable ends with a zero character and has its name in
front of an equals sign. -/
def ofBlock (block : String) : List (String × String) :=
  (entries block.toList).filterMap fun e =>
    let name := e.takeWhile (· != '=')
    if name.isEmpty then none
    else some (String.ofList name, String.ofList (e.drop (name.length + 1)))

end Environment
end Biblio
