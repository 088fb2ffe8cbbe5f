import Biblio.Json.Reader

/-!
# The lexemes of TOML

The smallest parts of a TOML document: blanks, comments, keys and strings.  A line may end with a
carriage return in front of the line feed; `unifyLines` drops it in advance, so that one that is left
is a fault.

* `skipBlank` passes over blanks in a line, `skipLines` also over comments and the ends of lines.
* `scanKey` reads a key, which has one or more parts.
* `scanString` reads a string in any of the four notations.
-/

set_option autoImplicit false

namespace Biblio
namespace Toml

/-- What was read, and the rest of the text; none if the text is at fault. -/
abbrev Scan (α : Type) := Option (α × List Char)

/-! ## Blanks -/

/-- Drops a carriage return in front of a line feed. -/
def unifyLines : List Char → List Char
  | '\r' :: '\n' :: rest => '\n' :: unifyLines rest
  | c :: rest => c :: unifyLines rest
  | [] => []

/-- A blank or a tab. -/
def isBlank (c : Char) : Bool := c = ' ' || c = '\t'

/-- Passes over blanks. -/
def skipBlank (cs : List Char) : List Char := cs.dropWhile isBlank

/-- A character that may stand in a comment. -/
def isPlain (c : Char) : Bool := c = '\t' || (31 < c.toNat && c.toNat != 127)

/-- Passes over blanks, comments and the ends of lines; `inComment` inside a comment. -/
def skipLines (inComment : Bool) : List Char → Option (List Char)
  | [] => some []
  | c :: rest =>
    if c = '\n' then skipLines false rest
    else if inComment then if isPlain c then skipLines true rest else none
    else if isBlank c then skipLines false rest
    else if c = '#' then skipLines true rest
    else some (c :: rest)

/-- Passes over what may stand at the end of a line, and over the end. -/
def skipRest (cs : List Char) : Option (List Char) :=
  let behind :=
    match skipBlank cs with
    | '#' :: rest => rest.dropWhile isPlain
    | rest => rest
  match behind with
  | [] => some []
  | '\n' :: rest => some rest
  | _ => none

/-! ## Strings -/

/-- The character that an escape of one letter stands for. -/
def escapeOf? : Char → Option Char
  | 'b' => some '\x08'
  | 't' => some '\t'
  | 'n' => some '\n'
  | 'f' => some '\x0c'
  | 'r' => some '\r'
  | '"' => some '"'
  | '\\' => some '\\'
  | _ => none

/-- The character with a hexadecimal code, if there is one. -/
def scalar? (digits : List Char) : Option Char :=
  match digits.mapM Json.hexValue? with
  | none => none
  | some ds =>
    let n := ds.foldl (fun n d => 16 * n + d) 0
    if n.isValidChar then some (Char.ofNat n) else none

/-- Whether nothing but blanks stands in front of the end of the line. -/
def endsLine (cs : List Char) : Bool := (skipBlank cs).head? = some '\n'

/-- Replaces escapes by what they stand for.  A backslash at the end of a line takes everything up to
the next visible character with it; `skipping` behind such a backslash. -/
def unescape (skipping : Bool) : List Char → Option (List Char)
  | [] => some []
  | '\\' :: 'u' :: a :: b :: c :: d :: rest =>
    match scalar? [a, b, c, d] with
    | some ch => (unescape false rest).map (ch :: ·)
    | none => none
  | '\\' :: 'U' :: a :: b :: c :: d :: e :: f :: g :: h :: rest =>
    match scalar? [a, b, c, d, e, f, g, h] with
    | some ch => (unescape false rest).map (ch :: ·)
    | none => none
  | '\\' :: c :: rest =>
    if isBlank c || c = '\n' then
      if endsLine (c :: rest) then unescape true rest else none
    else
      match escapeOf? c with
      | some ch => (unescape false rest).map (ch :: ·)
      | none => none
  | c :: rest =>
    if skipping && (isBlank c || c = '\n') then unescape true rest
    else if c = '\\' then none
    else (unescape false rest).map (c :: ·)

/-- Reads up to the closing quote of a string in one line, escapes included. -/
def rawLine : List Char → Scan (List Char)
  | '"' :: rest => some ([], rest)
  | '\\' :: c :: rest =>
    if c = '\n' then none else (rawLine rest).map (fun r => ('\\' :: c :: r.1, r.2))
  | c :: rest => if isPlain c then (rawLine rest).map (fun r => (c :: r.1, r.2)) else none
  | [] => none

/-- Takes up to two more quotes in front of what follows: of five quotes in a row the last three are
the end of a string. -/
def moreQuotes (quote : Char) : List Char → List Char × List Char
  | a :: b :: rest =>
    if a = quote then if b = quote then ([a, b], rest) else ([a], b :: rest)
    else ([], a :: b :: rest)
  | [a] => if a = quote then ([a], []) else ([], [a])
  | [] => ([], [])

/-- Reads up to the three closing quotes of a string of several lines, escapes included. -/
def rawLines : List Char → Scan (List Char)
  | '"' :: '"' :: '"' :: rest => some (moreQuotes '"' rest)
  | '\\' :: c :: rest => (rawLines rest).map (fun r => ('\\' :: c :: r.1, r.2))
  | c :: rest =>
    if isPlain c || c = '\n' then (rawLines rest).map (fun r => (c :: r.1, r.2)) else none
  | [] => none

/-- Reads up to the closing quote of a literal string in one line. -/
def literalLine : List Char → Scan (List Char)
  | '\'' :: rest => some ([], rest)
  | c :: rest => if isPlain c then (literalLine rest).map (fun r => (c :: r.1, r.2)) else none
  | [] => none

/-- Reads up to the three closing quotes of a literal string of several lines. -/
def literalLines : List Char → Scan (List Char)
  | '\'' :: '\'' :: '\'' :: rest => some (moreQuotes '\'' rest)
  | c :: rest =>
    if isPlain c || c = '\n' then (literalLines rest).map (fun r => (c :: r.1, r.2)) else none
  | [] => none

/-- Passes over the end of the line behind opening quotes. -/
def skipFirstEnd : List Char → List Char
  | '\n' :: rest => rest
  | cs => cs

/-- Reads the escapes in what was read. -/
def withEscapes : Scan (List Char) → Scan String
  | none => none
  | some (raw, rest) => (unescape false raw).map (fun cs => (String.ofList cs, rest))

/-- Reads a string in one line, in either notation. -/
def scanLine : List Char → Scan String
  | '"' :: rest => withEscapes (rawLine rest)
  | '\'' :: rest => (literalLine rest).map (fun r => (String.ofList r.1, r.2))
  | _ => none

/-- Reads a string in any notation. -/
def scanString : List Char → Scan String
  | '"' :: '"' :: '"' :: rest => withEscapes (rawLines (skipFirstEnd rest))
  | '\'' :: '\'' :: '\'' :: rest =>
    (literalLines (skipFirstEnd rest)).map (fun r => (String.ofList r.1, r.2))
  | cs => scanLine cs

/-! ## Keys -/

/-- A character of a key that is not quoted. -/
def isKeyChar (c : Char) : Bool := c.isAlphanum || c = '-' || c = '_'

/-- Reads one part of a key. -/
def scanKeyPart (cs : List Char) : Scan String :=
  match cs with
  | '"' :: _ | '\'' :: _ => scanLine cs
  | _ =>
    let bare := cs.takeWhile isKeyChar
    if bare.isEmpty then none else some (String.ofList bare, cs.drop bare.length)

/-- Reads the parts of a key; the number bounds how many there are. -/
def scanKeyParts : Nat → List Char → Scan (List String)
  | 0, _ => none
  | n + 1, cs =>
    match scanKeyPart (skipBlank cs) with
    | none => none
    | some (part, rest) =>
      match skipBlank rest with
      | '.' :: rest => (scanKeyParts n rest).map (fun r => (part :: r.1, r.2))
      | rest => some ([part], rest)

/-- How deep keys and values may go. -/
def depthLimit : Nat := 80

/-- Reads a key, with blanks around it. -/
def scanKey (cs : List Char) : Scan (List String) := scanKeyParts (depthLimit - 1) cs

end Toml
end Biblio
