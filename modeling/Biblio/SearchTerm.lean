import Biblio.Text.Key

/-!
# Search terms

What a reader types into the search field may be an identifier or free text.

* `SearchTerm` is what the term asks for.
* `SearchTerm.parse` looks for one of the labels `isbn:`, `asin:`, `author:`, `work:` and `book:`,
  in any case, with something behind it; then for the shape of an ISBN; all else is text.
-/

set_option autoImplicit false

namespace Biblio

/-- What a search term asks for. -/
inductive SearchTerm where
  | isbn (value : String)
  | asin (value : String)
  /-- An author by identifier. -/
  | authorId (value : String)
  /-- A book by identifier. -/
  | bookId (value : String)
  | text (value : String)
  deriving DecidableEq, Repr

namespace SearchTerm

/-- The labels and what they ask for. -/
def labels : List (List Char × (String → SearchTerm)) :=
  [ (['i', 's', 'b', 'n', ':'], .isbn),
    (['a', 's', 'i', 'n', ':'], .asin),
    (['a', 'u', 't', 'h', 'o', 'r', ':'], .authorId),
    (['w', 'o', 'r', 'k', ':'], .bookId),
    (['b', 'o', 'o', 'k', ':'], .bookId) ]

/-- What stands behind a label, if the text begins with it in any case. -/
def afterLabel? : List Char → List Char → Option (List Char)
  | [], cs => some cs
  | _ :: _, [] => none
  | l :: ls, c :: cs => if c.toLower = l then afterLabel? ls cs else none

/-- The value that a labelled term carries; none if there is only a blank behind the label. -/
def labelled? (label cs : List Char) : Option String :=
  match afterLabel? label cs with
  | none => none
  | some rest =>
    let v := Text.trimChars rest
    if v.isEmpty then none else some (String.ofList v)

/-- Classifies a search term. -/
def parse (s : String) : SearchTerm :=
  let t := Text.trimChars s.toList
  let found := labels.findSome? (fun l => (labelled? l.1 t).map l.2)
  match found with
  | some term => term
  | none =>
    let whole := String.ofList t
    if Text.looksLikeIsbn whole then .isbn whole else .text whole

/-- The value that a term carries. -/
def value : SearchTerm → String
  | .isbn v | .asin v | .authorId v | .bookId v | .text v => v

/-- The name of a term's kind. -/
def kind : SearchTerm → String
  | .isbn _ => "Isbn"
  | .asin _ => "Asin"
  | .authorId _ => "AuthorId"
  | .bookId _ => "BookId"
  | .text _ => "Text"

end SearchTerm
end Biblio
