/-!
# Bibliographic entities

What metadata sources return.

* `Author`, `Edition` and `Book` are the records; `BookInfo` is a book with the metadata of its
  authors, and `SearchEntity` is a hit of a combined search.
* `Keyed` gives the identifier by which results of different sources are joined, and the key space
  it lives in.
-/

set_option autoImplicit false

namespace Biblio

/-- A number of votes and their average. -/
structure Ratings where
  votes : Nat := 0
  value : Float32 := 0
  deriving BEq, Inhabited

/-- An author. -/
structure Author where
  /-- The identifier that the source keeps stable. -/
  foreignId : String
  name : String
  aliases : List String := []
  overview : Option String := none
  birthDate : Option String := none
  deathDate : Option String := none
  /-- Addresses of portraits. -/
  images : List String := []
  ratings : Ratings := {}
  workCount : Nat := 0
  deriving BEq, Inhabited

/-- One edition of a book. -/
structure Edition where
  foreignId : String
  title : String
  isbn13 : Option String := none
  asin : Option String := none
  publisher : Option String := none
  language : Option String := none
  format : Option String := none
  pageCount : Option Nat := none
  releaseDate : Option String := none
  images : List String := []
  deriving BEq, Inhabited

/-- A book, as a work with its editions. -/
structure Book where
  foreignId : String
  title : String
  /-- The identifier of the first author. -/
  authorForeignId : Option String := none
  authorName : Option String := none
  overview : Option String := none
  releaseDate : Option String := none
  genres : List String := []
  images : List String := []
  ratings : Ratings := {}
  editions : List Edition := []
  /-- How many editions the source knows of, listed or not. -/
  editionCount : Nat := 0
  deriving BEq, Inhabited

/-- What a book lookup says about an author. -/
structure AuthorMetadata where
  foreignId : String
  name : String
  aliases : List String := []
  overview : Option String := none
  birthDate : Option String := none
  deathDate : Option String := none
  images : List String := []
  deriving BEq, Inhabited

/-- The metadata of an author: the record without ratings and work count. -/
def Author.metadata (a : Author) : AuthorMetadata where
  foreignId := a.foreignId
  name := a.name
  aliases := a.aliases
  overview := a.overview
  birthDate := a.birthDate
  deathDate := a.deathDate
  images := a.images

/-- The answer of a book lookup. -/
structure BookInfo where
  /-- The identifier of the book's first author. -/
  authorForeignId : String
  book : Book
  authors : List AuthorMetadata := []
  deriving BEq, Inhabited

/-- A hit of a search for authors and books together. -/
inductive SearchEntity where
  | author (a : Author)
  | book (b : Book)
  deriving BEq, Inhabited

/-- The name of an author or the title of a book. -/
def SearchEntity.displayName : SearchEntity → String
  | .author a => a.name
  | .book b => b.title

/-- Results that carry an identifier.  Two results are the same entity exactly when both the kind
and the identifier agree. -/
class Keyed (α : Type) where
  foreignId : α → String
  /-- The key space of the identifier. -/
  kind : α → String := fun _ => ""

instance : Keyed Author where
  foreignId := Author.foreignId

instance : Keyed Book where
  foreignId := Book.foreignId

instance : Keyed BookInfo where
  foreignId := fun info => info.book.foreignId

instance : Keyed SearchEntity where
  foreignId
    | .author a => a.foreignId
    | .book b => b.foreignId
  kind
    | .author _ => "author"
    | .book _ => "book"

end Biblio
