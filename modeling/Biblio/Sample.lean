import Biblio.Source.Basic

/-!
# Samples

Small records, and a source that has nothing, for trying the library out.
-/

set_option autoImplicit false

namespace Biblio
namespace Sample

/-- An author with enough works not to count as noise. -/
def author (id name : String) : Author := { foreignId := id, name := name, workCount := 20 }

/-- An author with every part of the record filled in, apart from other names. -/
def detailedAuthor (id name : String) (workCount : Nat) : Author where
  foreignId := id
  name := name
  overview := some (name ++ " is a writer.")
  birthDate := some "1929"
  deathDate := some "2018"
  images := ["https://covers.example.org/a/" ++ id ++ ".jpg"]
  ratings := { votes := 1000, value := 4.2 }
  workCount := workCount

/-- A book of one author. -/
def book (id title authorId : String) : Book :=
  { foreignId := id, title := title, authorForeignId := some authorId, editionCount := 1 }

/-- An edition with a product number. -/
def edition (id title isbn13 : String) : Edition :=
  { foreignId := id, title := title, isbn13 := some isbn13 }

/-- The answer of a look-up of a book by one author. -/
def bookInfo (id title : String) (a : Author) : BookInfo where
  authorForeignId := a.foreignId
  book := { book id title a.foreignId with authorName := some a.name }
  authors := [a.metadata]

/-- A source that claims to support everything and knows nothing. -/
def source {W : Type} (name : String) : Source W where
  name := name
  capabilities := Capabilities.full
  fetchAuthor _ := .done (.ok none)
  fetchBook _ := .done (.ok none)
  searchAuthors _ := .done (.ok [])
  searchBooks _ _ _ := .done (.ok [])
  test := .done (.ok ())

end Sample
end Biblio
