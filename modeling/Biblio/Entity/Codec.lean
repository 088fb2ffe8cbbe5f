import Biblio.Entity
import Biblio.Json.Decoder
import Biblio.Json.Printer

/-!
# Entities as JSON

Every entity has a decoder and a `toJson`.  Members that hold nothing are left out, and a search
entity carries its kind in the member `type`.
-/

set_option autoImplicit false

namespace Biblio

open Json (Decoder)
open Json.Decoder (field record text optional list natural single)

/-- The greatest count that is read. -/
def greatestCount : Nat := 4294967295

/-- A single-precision value as the number with the same shortest text. -/
def Json.ofSingle (x : Float32) : Json :=
  match Decimal.ofFloat32 x with
  | .finite v =>
    let y :=
      if v.mantissa = 0 then 0.0
      else
        let (d, k) := Decimal.shortest v
        Float.ofScientific d (k < 0) k.natAbs
    .num (.float (if v.negative then -y else y))
  | _ => .null

namespace Ratings

def decoder : Decoder Ratings :=
  record
    [ field "votes" .defaulted (natural greatestCount) (fun v r => { r with votes := v }),
      field "value" .defaulted single (fun v r => { r with value := v }) ]
    {}

def toJson (r : Ratings) : Json :=
  Json.ofMembers [("votes", .nat r.votes), ("value", Json.ofSingle r.value)]

end Ratings

namespace Author

def decoder : Decoder Author :=
  record
    [ field "foreign_id" .required text (fun v a => { a with foreignId := v }),
      field "name" .required text (fun v a => { a with name := v }),
      field "aliases" .defaulted (list text) (fun v a => { a with aliases := v }),
      field "overview" .defaulted (optional text) (fun v a => { a with overview := v }),
      field "birth_date" .defaulted (optional text) (fun v a => { a with birthDate := v }),
      field "death_date" .defaulted (optional text) (fun v a => { a with deathDate := v }),
      field "images" .defaulted (list text) (fun v a => { a with images := v }),
      field "ratings" .defaulted Ratings.decoder (fun v a => { a with ratings := v }),
      field "work_count" .defaulted (natural greatestCount) (fun v a => { a with workCount := v }) ]
    { foreignId := "", name := "" }

/-- The members of an author's object. -/
def members (a : Author) : List (String × Option Json) :=
  [ ("foreign_id", some (.str a.foreignId)),
    ("name", some (.str a.name)),
    ("aliases", some (.strs a.aliases)),
    ("overview", a.overview.map .str),
    ("birth_date", a.birthDate.map .str),
    ("death_date", a.deathDate.map .str),
    ("images", some (.strs a.images)),
    ("ratings", some a.ratings.toJson),
    ("work_count", some (.nat a.workCount)) ]

def toJson (a : Author) : Json := Json.ofPresent a.members

end Author

namespace Edition

def decoder : Decoder Edition :=
  record
    [ field "foreign_id" .required text (fun v e => { e with foreignId := v }),
      field "title" .required text (fun v e => { e with title := v }),
      field "isbn13" .defaulted (optional text) (fun v e => { e with isbn13 := v }),
      field "asin" .defaulted (optional text) (fun v e => { e with asin := v }),
      field "publisher" .defaulted (optional text) (fun v e => { e with publisher := v }),
      field "language" .defaulted (optional text) (fun v e => { e with language := v }),
      field "format" .defaulted (optional text) (fun v e => { e with format := v }),
      field "page_count" .defaulted (optional (natural greatestCount))
        (fun v e => { e with pageCount := v }),
      field "release_date" .defaulted (optional text) (fun v e => { e with releaseDate := v }),
      field "images" .defaulted (list text) (fun v e => { e with images := v }) ]
    { foreignId := "", title := "" }

def toJson (e : Edition) : Json :=
  Json.ofPresent
    [ ("foreign_id", some (.str e.foreignId)),
      ("title", some (.str e.title)),
      ("isbn13", e.isbn13.map .str),
      ("asin", e.asin.map .str),
      ("publisher", e.publisher.map .str),
      ("language", e.language.map .str),
      ("format", e.format.map .str),
      ("page_count", e.pageCount.map .nat),
      ("release_date", e.releaseDate.map .str),
      ("images", some (.strs e.images)) ]

end Edition

namespace Book

def decoder : Decoder Book :=
  record
    [ field "foreign_id" .required text (fun v b => { b with foreignId := v }),
      field "title" .required text (fun v b => { b with title := v }),
      field "author_foreign_id" .defaulted (optional text)
        (fun v b => { b with authorForeignId := v }),
      field "author_name" .defaulted (optional text) (fun v b => { b with authorName := v }),
      field "overview" .defaulted (optional text) (fun v b => { b with overview := v }),
      field "release_date" .defaulted (optional text) (fun v b => { b with releaseDate := v }),
      field "genres" .defaulted (list text) (fun v b => { b with genres := v }),
      field "images" .defaulted (list text) (fun v b => { b with images := v }),
      field "ratings" .defaulted Ratings.decoder (fun v b => { b with ratings := v }),
      field "editions" .defaulted (list Edition.decoder) (fun v b => { b with editions := v }),
      field "edition_count" .defaulted (natural greatestCount)
        (fun v b => { b with editionCount := v }) ]
    { foreignId := "", title := "" }

/-- The members of a book's object. -/
def members (b : Book) : List (String × Option Json) :=
  [ ("foreign_id", some (.str b.foreignId)),
    ("title", some (.str b.title)),
    ("author_foreign_id", b.authorForeignId.map .str),
    ("author_name", b.authorName.map .str),
    ("overview", b.overview.map .str),
    ("release_date", b.releaseDate.map .str),
    ("genres", some (.strs b.genres)),
    ("images", some (.strs b.images)),
    ("ratings", some b.ratings.toJson),
    ("editions", some (.arr (b.editions.map Edition.toJson))),
    ("edition_count", some (.nat b.editionCount)) ]

def toJson (b : Book) : Json := Json.ofPresent b.members

end Book

namespace AuthorMetadata

def decoder : Decoder AuthorMetadata :=
  record
    [ field "foreign_id" .required text (fun v a => { a with foreignId := v }),
      field "name" .required text (fun v a => { a with name := v }),
      field "aliases" .defaulted (list text) (fun v a => { a with aliases := v }),
      field "overview" .defaulted (optional text) (fun v a => { a with overview := v }),
      field "birth_date" .defaulted (optional text) (fun v a => { a with birthDate := v }),
      field "death_date" .defaulted (optional text) (fun v a => { a with deathDate := v }),
      field "images" .defaulted (list text) (fun v a => { a with images := v }) ]
    { foreignId := "", name := "" }

def toJson (a : AuthorMetadata) : Json :=
  Json.ofPresent
    [ ("foreign_id", some (.str a.foreignId)),
      ("name", some (.str a.name)),
      ("aliases", some (.strs a.aliases)),
      ("overview", a.overview.map .str),
      ("birth_date", a.birthDate.map .str),
      ("death_date", a.deathDate.map .str),
      ("images", some (.strs a.images)) ]

end AuthorMetadata

namespace BookInfo

def decoder : Decoder BookInfo :=
  record
    [ field "author_foreign_id" .required text (fun v b => { b with authorForeignId := v }),
      field "book" .required Book.decoder (fun v b => { b with book := v }),
      field "authors" .defaulted (list AuthorMetadata.decoder) (fun v b => { b with authors := v }) ]
    { authorForeignId := "", book := { foreignId := "", title := "" } }

def toJson (b : BookInfo) : Json :=
  Json.ofMembers
    [ ("author_foreign_id", .str b.authorForeignId),
      ("book", b.book.toJson),
      ("authors", .arr (b.authors.map AuthorMetadata.toJson)) ]

end BookInfo

namespace SearchEntity

/-- The kinds of entity, by the name in the member `type`. -/
inductive Kind where
  | author
  | book

/-- The names of the kinds. -/
def kinds : List (String × Kind) := [("author", .author), ("book", .book)]

/-- Reads the content of an entity whose kind is known.  The whole text has been read before, so
all that can be wrong with it is its shape. -/
def content (kind : Kind) : Decoder SearchEntity := fun depth d =>
  let r :=
    match kind with
    | .author => (Author.decoder depth d).map SearchEntity.author
    | .book => (Book.decoder depth d).map SearchEntity.book
  r.mapError (fun _ => .misshapen)

/-- The kind that a document names. -/
def kindOf (depth : Nat) (d : Json.Document) : Except Json.Fault Kind :=
  (Json.Decoder.choice kinds depth d).mapError (fun _ => .misshapen)

/-- Takes the member `type` out of an object whose members are read in order: the kind it names and
the other members. -/
def splitKind (depth : Nat) : Json.Members → Option Kind →
    Except Json.Fault (Option Kind × Json.Members)
  | .close, found => .ok (found, .close)
  | .broken f, _ => .error f
  | .member none _ _, _ => .error .malformed
  | .member (some k) v rest, found =>
    if k = "type" then
      match found with
      | some _ => .error .misshapen
      | none =>
        match Json.Decoder.text depth v with
        | .error f => .error f
        | .ok name =>
          match kinds.lookup name with
          | none => .error .misshapen
          | some kind => splitKind depth rest (some kind)
    else
      match v.toJson depth with
      | .error f => .error f
      | .ok _ =>
        match splitKind depth rest found with
        | .error f => .error f
        | .ok (found, others) => .ok (found, .member (some k) v others)

/-- Reads the items of an array to their end. -/
def wholeItems (depth : Nat) (items : Json.Items) : Except Json.Fault Unit :=
  (items.toJson depth).map (fun _ => ())

/-- Reads an entity: an object with the member `type`, or an array that begins with the kind. -/
def decoder : Decoder SearchEntity := fun depth d =>
  match d with
  | .object ms =>
    if depth ≤ 1 then .error .malformed
    else
      match splitKind (depth - 1) ms none with
      | .error f => .error f
      | .ok (none, _) => .error .misshapen
      | .ok (some kind, others) => content kind depth (.object others)
  | .array xs surplus =>
    if depth ≤ 1 then .error .malformed
    else
      match xs with
      | .close => .error .misshapen
      | .broken f => .error f
      | .item v rest =>
        match kindOf (depth - 1) v, wholeItems (depth - 1) rest with
        | .error _, _ => .error (Json.Decoder.mismatch v)
        | .ok _, .error f => .error f
        | .ok kind, .ok () => content kind depth (.array rest surplus)
  | d => .error (Json.Decoder.mismatch d)

def toJson : SearchEntity → Json
  | .author a => Json.ofPresent (("type", some (.str "author")) :: a.members)
  | .book b => Json.ofPresent (("type", some (.str "book")) :: b.members)

end SearchEntity

end Biblio
