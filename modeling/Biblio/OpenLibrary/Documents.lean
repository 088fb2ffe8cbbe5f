import Biblio.Entity
import Biblio.Json.Decoder
import Biblio.Moment.Text
import Biblio.OpenLibrary.Config

/-!
# Documents of Open Library

The documents that Open Library sends, as far as they are read, and what they say about authors,
books and editions.

* `AuthorDocument`, `WorkDocument` and `EditionDocument` are whole records; `AuthorHit` and `BookHit`
  are found by searching; `ChangeDocument` is an entry of the list of changes.
* Keys are paths such as `/authors/OL1A`, whose last part is the identifier: `keyId`.
-/

set_option autoImplicit false

namespace Biblio
namespace OpenLibrary

open Json.Decoder (field record optional natural integer single list text)

/-! ## Identifiers, images and texts -/

/-- The identifier in a key: what stands behind the last slash. -/
def keyId (key : String) : String :=
  String.ofList (key.toList.reverse.takeWhile (· != '/')).reverse

/-- The addresses of images; a number that is not positive stands for none. -/
def imageUrls (covers kind : String) (ids : List Int) : List String :=
  (ids.filter (0 < ·)).map fun id =>
    covers ++ "/" ++ kind ++ "/id/" ++ Decimal.intText id ++ "-L.jpg"

/-- A text, either as it is or as the value of an object; an array of the value is not one. -/
def textDecoder : Json.Decoder String := fun depth d =>
  match Json.Decoder.value depth d with
  | .error f => .error f
  | .ok (.str s) => .ok s
  | .ok (.obj _) => record [field "value" .required text (fun v _ => v)] "" depth d
  | .ok _ => .error .misshapen

/-- A text that says something. -/
def meaningful (t : Option String) : Option String := (t.map Text.trim).filter (· != "")

/-- An object with a key. -/
def keyDecoder : Json.Decoder String :=
  record [field "key" .required text (fun v _ => v)] ""

/-- Numbers of images. -/
def imagesDecoder : Json.Decoder (List Int) := list (integer leastImage greatestImage)
where
  /-- The least number of an image. -/
  leastImage : Int := -9223372036854775808
  /-- The greatest number of an image. -/
  greatestImage : Int := 9223372036854775807

/-- The number of an image. -/
def imageDecoder : Json.Decoder Int :=
  integer imagesDecoder.leastImage imagesDecoder.greatestImage

/-- Ratings, of which either part may be missing. -/
def ratingsOf (average : Option Float32) (votes : Option Nat) : Ratings :=
  ⟨votes.getD 0, average.getD 0⟩

/-! ## Authors -/

/-- The record of an author. -/
structure AuthorDocument where
  key : String := ""
  name : Option String := none
  personalName : Option String := none
  alternateNames : List String := []
  bio : Option String := none
  birthDate : Option String := none
  deathDate : Option String := none
  photos : List Int := []
  deriving Inhabited

namespace AuthorDocument

def decoder : Json.Decoder AuthorDocument :=
  record
    [ field "key" .required text (fun v a => { a with key := v }),
      field "name" .defaulted (optional text) (fun v a => { a with name := v }),
      field "personal_name" .defaulted (optional text) (fun v a => { a with personalName := v }),
      field "alternate_names" .defaulted (list text) (fun v a => { a with alternateNames := v }),
      field "bio" .defaulted (optional textDecoder) (fun v a => { a with bio := v }),
      field "birth_date" .defaulted (optional text) (fun v a => { a with birthDate := v }),
      field "death_date" .defaulted (optional text) (fun v a => { a with deathDate := v }),
      field "photos" .defaulted imagesDecoder (fun v a => { a with photos := v }) ]
    {}

/-- The author of a record. -/
def author (a : AuthorDocument) (covers : String) (workCount : Nat) : Author :=
  let name := (a.name.or a.personalName).getD ""
  { foreignId := keyId a.key
    name := name
    aliases := a.alternateNames.filter (· != name)
    overview := meaningful a.bio
    birthDate := a.birthDate
    deathDate := a.deathDate
    images := imageUrls covers "a" a.photos
    workCount := workCount }

end AuthorDocument

/-- A page of a list, with the length of the whole. -/
structure Listing (α : Type) where
  size : Nat := 0
  entries : List α := []
  deriving Inhabited

def Listing.decoder {α : Type} (entry : Json.Decoder α) : Json.Decoder (Listing α) :=
  record
    [ field "size" .defaulted (natural greatest32) (fun v l => { l with size := v }),
      field "entries" .defaulted (list entry) (fun v l => { l with entries := v }) ]
    {}

/-- The list in the answer to a search. -/
def hitsDecoder {α : Type} (hit : Json.Decoder α) : Json.Decoder (List α) :=
  record [field "docs" .defaulted (list hit) (fun v _ => v)] []

/-- An author who was found. -/
structure AuthorHit where
  key : String := ""
  name : String := ""
  alternateNames : List String := []
  birthDate : Option String := none
  deathDate : Option String := none
  workCount : Nat := 0
  ratingsAverage : Option Float32 := none
  ratingsCount : Option Nat := none
  deriving Inhabited

namespace AuthorHit

def decoder : Json.Decoder AuthorHit :=
  record
    [ field "key" .required text (fun v a => { a with key := v }),
      field "name" .defaulted text (fun v a => { a with name := v }),
      field "alternate_names" .defaulted (list text) (fun v a => { a with alternateNames := v }),
      field "birth_date" .defaulted (optional text) (fun v a => { a with birthDate := v }),
      field "death_date" .defaulted (optional text) (fun v a => { a with deathDate := v }),
      field "work_count" .defaulted (natural greatest32) (fun v a => { a with workCount := v }),
      field "ratings_average" .defaulted (optional single)
        (fun v a => { a with ratingsAverage := v }),
      field "ratings_count" .defaulted (optional (natural greatest32))
        (fun v a => { a with ratingsCount := v }) ]
    {}

/-- The author who was found. -/
def author (a : AuthorHit) (covers : String) : Author where
  foreignId := keyId a.key
  name := a.name
  aliases := a.alternateNames
  birthDate := a.birthDate
  deathDate := a.deathDate
  images := [covers ++ "/a/olid/" ++ keyId a.key ++ "-L.jpg"]
  ratings := ratingsOf a.ratingsAverage a.ratingsCount
  workCount := a.workCount

end AuthorHit

/-! ## Works and editions -/

/-- The record of a work. -/
structure WorkDocument where
  key : String := ""
  title : String := ""
  subtitle : Option String := none
  /-- The keys of the credited authors. -/
  authors : List String := []
  description : Option String := none
  firstPublishDate : Option String := none
  covers : List Int := []
  subjects : List String := []
  deriving Inhabited

namespace WorkDocument

/-- A credit: the key of an author inside an object. -/
def creditDecoder : Json.Decoder String :=
  record [field "author" .required keyDecoder (fun v _ => v)] ""

def decoder : Json.Decoder WorkDocument :=
  record
    [ field "key" .required text (fun v w => { w with key := v }),
      field "title" .defaulted text (fun v w => { w with title := v }),
      field "subtitle" .defaulted (optional text) (fun v w => { w with subtitle := v }),
      field "authors" .defaulted (list creditDecoder) (fun v w => { w with authors := v }),
      field "description" .defaulted (optional textDecoder)
        (fun v w => { w with description := v }),
      field "first_publish_date" .defaulted (optional text)
        (fun v w => { w with firstPublishDate := v }),
      field "covers" .defaulted imagesDecoder (fun v w => { w with covers := v }),
      field "subjects" .defaulted (list text) (fun v w => { w with subjects := v }) ]
    {}

/-- The identifiers of the credited authors, in the order of the credits. -/
def authorIds (w : WorkDocument) : List String := w.authors.map keyId

/-- The title with the subtitle. -/
def fullTitle (w : WorkDocument) : String :=
  match w.subtitle with
  | some subtitle => if subtitle = "" then w.title else w.title ++ ": " ++ subtitle
  | none => w.title

/-- The book of a work with its editions, of which more may be known than are listed. -/
def book (w : WorkDocument) (covers : String) (editions : List Edition) (editionCount : Nat)
    (primary : Option AuthorMetadata) : Book where
  foreignId := keyId w.key
  title := w.fullTitle
  authorForeignId := primary.map AuthorMetadata.foreignId
  authorName := primary.map AuthorMetadata.name
  overview := meaningful w.description
  releaseDate := w.firstPublishDate
  genres := w.subjects
  images := imageUrls covers "b" w.covers
  editions := editions
  editionCount := max editionCount editions.length

end WorkDocument

/-- The record of an edition. -/
structure EditionDocument where
  key : String := ""
  title : String := ""
  /-- The keys of its works. -/
  works : List String := []
  isbn13 : List String := []
  isbn10 : List String := []
  publishers : List String := []
  /-- The keys of its languages. -/
  languages : List String := []
  physicalFormat : Option String := none
  numberOfPages : Option Nat := none
  publishDate : Option String := none
  covers : List Int := []
  /-- The numbers that a shop has for it. -/
  shopNumbers : List String := []
  deriving Inhabited

namespace EditionDocument

/-- The numbers of one shop among the identifiers. -/
def identifiersDecoder : Json.Decoder (List String) :=
  record [field "amazon" .defaulted (list text) (fun v _ => v)] []

def decoder : Json.Decoder EditionDocument :=
  record
    [ field "key" .required text (fun v e => { e with key := v }),
      field "title" .defaulted text (fun v e => { e with title := v }),
      field "works" .defaulted (list keyDecoder) (fun v e => { e with works := v }),
      field "isbn_13" .defaulted (list text) (fun v e => { e with isbn13 := v }),
      field "isbn_10" .defaulted (list text) (fun v e => { e with isbn10 := v }),
      field "publishers" .defaulted (list text) (fun v e => { e with publishers := v }),
      field "languages" .defaulted (list keyDecoder) (fun v e => { e with languages := v }),
      field "physical_format" .defaulted (optional text)
        (fun v e => { e with physicalFormat := v }),
      field "number_of_pages" .defaulted (optional (natural greatest32))
        (fun v e => { e with numberOfPages := v }),
      field "publish_date" .defaulted (optional text) (fun v e => { e with publishDate := v }),
      field "covers" .defaulted imagesDecoder (fun v e => { e with covers := v }),
      field "identifiers" .defaulted (optional identifiersDecoder)
        (fun v e => { e with shopNumbers := v.getD [] }) ]
    {}

/-- The identifier of the first work. -/
def workId? (e : EditionDocument) : Option String := e.works.head?.map keyId

/-- The edition of a record. -/
def edition (e : EditionDocument) (covers : String) : Edition where
  foreignId := keyId e.key
  title := e.title
  isbn13 := e.isbn13.head?.or e.isbn10.head?
  asin := e.shopNumbers.head?
  publisher := e.publishers.head?
  language := e.languages.head?.map keyId
  format := e.physicalFormat
  pageCount := e.numberOfPages
  releaseDate := e.publishDate
  images := imageUrls covers "b" e.covers

end EditionDocument

/-! ## Books that were found -/

/-- An edition of a book that was found. -/
structure EditionHit where
  key : String := ""
  title : String := ""
  isbn : List String := []
  publisher : List String := []
  language : List String := []
  cover : Option Int := none
  publishDate : List String := []
  deriving Inhabited

namespace EditionHit

def decoder : Json.Decoder EditionHit :=
  record
    [ field "key" .required text (fun v e => { e with key := v }),
      field "title" .defaulted text (fun v e => { e with title := v }),
      field "isbn" .defaulted (list text) (fun v e => { e with isbn := v }),
      field "publisher" .defaulted (list text) (fun v e => { e with publisher := v }),
      field "language" .defaulted (list text) (fun v e => { e with language := v }),
      field "cover_i" .defaulted (optional imageDecoder) (fun v e => { e with cover := v }),
      field "publish_date" .defaulted (list text) (fun v e => { e with publishDate := v }) ]
    {}

/-- The edition that was found. -/
def edition (e : EditionHit) (covers : String) : Edition where
  foreignId := keyId e.key
  title := e.title
  isbn13 := (e.isbn.find? (fun n => n.utf8ByteSize == 13)).or e.isbn.head?
  publisher := e.publisher.head?
  language := e.language.head?
  releaseDate := e.publishDate.head?
  images := imageUrls covers "b" e.cover.toList

end EditionHit

/-- A book that was found. -/
structure BookHit where
  key : String := ""
  title : String := ""
  authorKey : List String := []
  authorName : List String := []
  firstPublishYear : Option Int := none
  cover : Option Int := none
  editionCount : Nat := 0
  ratingsAverage : Option Float32 := none
  ratingsCount : Option Nat := none
  subject : List String := []
  editions : List EditionHit := []
  deriving Inhabited

namespace BookHit

/-- The number of genres that are taken from a book that was found. -/
def greatestGenres : Nat := 10

/-- A year: a number of 32 bits. -/
def yearDecoder : Json.Decoder Int := integer (-2147483648) 2147483647

def decoder : Json.Decoder BookHit :=
  record
    [ field "key" .required text (fun v b => { b with key := v }),
      field "title" .defaulted text (fun v b => { b with title := v }),
      field "author_key" .defaulted (list text) (fun v b => { b with authorKey := v }),
      field "author_name" .defaulted (list text) (fun v b => { b with authorName := v }),
      field "first_publish_year" .defaulted (optional yearDecoder)
        (fun v b => { b with firstPublishYear := v }),
      field "cover_i" .defaulted (optional imageDecoder) (fun v b => { b with cover := v }),
      field "edition_count" .defaulted (natural greatest32)
        (fun v b => { b with editionCount := v }),
      field "ratings_average" .defaulted (optional single)
        (fun v b => { b with ratingsAverage := v }),
      field "ratings_count" .defaulted (optional (natural greatest32))
        (fun v b => { b with ratingsCount := v }),
      field "subject" .defaulted (list text) (fun v b => { b with subject := v }),
      field "editions" .defaulted (optional (hitsDecoder EditionHit.decoder))
        (fun v b => { b with editions := v.getD [] }) ]
    {}

/-- The book that was found. -/
def book (b : BookHit) (covers : String) : Book where
  foreignId := keyId b.key
  title := b.title
  authorForeignId := b.authorKey.head?
  authorName := b.authorName.head?
  releaseDate := b.firstPublishYear.map Decimal.intText
  genres := b.subject.take greatestGenres
  images := imageUrls covers "b" b.cover.toList
  ratings := ratingsOf b.ratingsAverage b.ratingsCount
  editions := b.editions.map (fun e => e.edition covers)
  editionCount := max b.editionCount b.editions.length

end BookHit

/-! ## Changes -/

/-- An entry of the list of changes. -/
structure ChangeDocument where
  timestamp : String := ""
  /-- The keys of what was changed. -/
  changes : List String := []
  deriving Inhabited

namespace ChangeDocument

def decoder : Json.Decoder ChangeDocument :=
  record
    [ field "timestamp" .required text (fun v c => { c with timestamp := v }),
      field "changes" .defaulted (list keyDecoder) (fun v c => { c with changes := v }) ]
    {}

/-- The moment of a change, if it can be read. -/
def moment? (c : ChangeDocument) : Option Moment :=
  (Moment.parseLocal c.timestamp).toOption

/-- The keys of authors begin with this. -/
def authorMark : List Char := ['/', 'a', 'u', 't', 'h', 'o', 'r', 's', '/']

/-- The identifiers of the authors that were changed. -/
def authorIds (c : ChangeDocument) : List String :=
  (c.changes.filter (fun k => authorMark.isPrefixOf k.toList)).map keyId

end ChangeDocument

end OpenLibrary
end Biblio
