import Biblio.OpenLibrary.Documents
import Biblio.OpenLibrary.Lookup
import Biblio.Registry.Factory
import Biblio.Text.Key

/-!
# Open Library as a source

* `Config.fetchAuthor`, `fetchBook`, `searchAuthors`, `searchBooks`, `searchIsbn`, `changedAuthors`
  and `test` are the look-ups of the source.  A book goes with its editions and its credited
  authors; an author or a list of editions that is missing is left out, and any other failure fails
  the whole look-up.
* `Config.source` is the source on a network, and `builder` builds it for a definition.
-/

set_option autoImplicit false

namespace Biblio
namespace OpenLibrary

/-- How many editions are asked for together with a work. -/
def editionPage : Nat := 50

/-- How many entries a page of the list of changes has. -/
def changePage : Nat := 1000

/-- How many pages of the list of changes are read. -/
def greatestChangePages : Nat := 10

/-- What is asked for about the books of a search. -/
def searchFields : String :=
  "key,title,author_key,author_name,first_publish_year,cover_i,edition_count,ratings_average," ++
    "ratings_count,subject"

/-- The path of an author. -/
def authorPath (id : String) : String := "/authors/" ++ Http.encodeSegment id ++ ".json"

/-- What the replies say about credited authors; the ones that are missing are left out. -/
def creditedAuthors (covers : String) : List (String × Reply) →
    Except SourceError (List AuthorMetadata)
  | [] => .ok []
  | (id, r) :: rest =>
    match r.read AuthorDocument.decoder (authorPath id) with
    | .ok a =>
      match creditedAuthors covers rest with
      | .ok others => .ok ((a.author covers 0).metadata :: others)
      | .error e => .error e
    | .error e => if e.isNotFound then creditedAuthors covers rest else .error e

/-- Puts an edition in front of the editions of a book. -/
def withMatched (b : Book) (matched : Edition) : Book :=
  let editions := matched :: b.editions.filter (fun e => e.foreignId != matched.foreignId)
  { b with editions := editions, editionCount := max b.editionCount editions.length }

/-- Whether a page of changes goes back beyond a moment. -/
def reachesBefore (since : Moment) (page : List ChangeDocument) : Bool :=
  page.any (fun c => (c.moment?.map (fun m => m.precedes since)).getD false)

/-- The authors that a page of changes names, from a moment on. -/
def changedSince (since : Moment) (page : List ChangeDocument) : List String :=
  (page.filter (fun c => (c.moment?.map (fun m => !m.precedes since)).getD false)).flatMap
    ChangeDocument.authorIds

namespace Config

/-- Fetches an author with the number of works. -/
def fetchAuthor (c : Config) (id : String) : Lookup (Option Author) := do
  match ← (c.get AuthorDocument.decoder (authorPath id) []).found with
  | none => return none
  | some a =>
    let works ← (c.get (Listing.decoder Json.Decoder.value)
      ("/authors/" ++ Http.encodeSegment id ++ "/works.json") [("limit", "1")]).found
    return some (a.author c.coversUrl ((works.map Listing.size).getD 0))

/-- Looks up the authors with the given identifiers, all together. -/
def credited (c : Config) (ids : List String) : Lookup (List AuthorMetadata) :=
  .askAll (ids.map (fun id => c.address (authorPath id) []))
    (fun rs => .done (creditedAuthors c.coversUrl (ids.zip rs)))

/-- Fetches a book with its editions and its authors. -/
def fetchBook (c : Config) (id : String) : Lookup (Option BookInfo) := do
  match ← (c.get WorkDocument.decoder ("/works/" ++ Http.encodeSegment id ++ ".json") []).found with
  | none => return none
  | some work =>
    let listing ← (c.get (Listing.decoder EditionDocument.decoder)
      ("/works/" ++ Http.encodeSegment id ++ "/editions.json")
      [("limit", Decimal.text editionPage)]).found
    let listing := listing.getD {}
    let editions := listing.entries.map (fun e => e.edition c.coversUrl)
    let authors ← c.credited work.authorIds
    return some
      { authorForeignId := (authors.head?.map AuthorMetadata.foreignId).getD ""
        book := work.book c.coversUrl editions listing.size authors.head?
        authors := authors }

/-- Searches for authors by name. -/
def searchAuthors (c : Config) (query : String) : Lookup (List Author) := do
  let hits ← c.get (hitsDecoder AuthorHit.decoder) "/search/authors.json"
    [("q", query), ("limit", Decimal.text c.searchLimit)]
  return hits.map (fun a => a.author c.coversUrl)

/-- Searches for books by title, and by author if one is given. -/
def searchBooks (c : Config) (title : String) (author : Option String) (allEditions : Bool) :
    Lookup (List Book) := do
  let fields := if allEditions then searchFields ++ ",editions" else searchFields
  let byAuthor := (author.filter (fun a => !Text.isAllBlank a)).map (fun a => ("author", a))
  let hits ← c.get (hitsDecoder BookHit.decoder) "/search.json"
    ([("title", title), ("limit", Decimal.text c.searchLimit), ("fields", fields)] ++
      byAuthor.toList)
  return hits.map (fun b => b.book c.coversUrl)

/-- Searches for the book of an edition by its number; the edition comes first. -/
def searchIsbn (c : Config) (isbn : String) : Lookup (List Book) := do
  let path := "/isbn/" ++ Http.encodeSegment (Text.isbnKey isbn) ++ ".json"
  match ← (c.get EditionDocument.decoder path []).found with
  | none => return []
  | some edition =>
    match edition.workId? with
    | none => return []
    | some work =>
      match ← c.fetchBook work with
      | none => return []
      | some info => return [withMatched info.book (edition.edition c.coversUrl)]

/-- The page of the list of changes with a number. -/
def changes (c : Config) (page : Nat) : Lookup (List ChangeDocument) :=
  c.get (Json.Decoder.list ChangeDocument.decoder) "/recentchanges.json"
    [("limit", Decimal.text changePage), ("offset", Decimal.text (page * changePage))]

/-- The authors that have changed since a moment, from the page with a number on; the list is in
descending order of time, so reading ends with the first page that goes back beyond the moment. -/
def changedFrom (c : Config) (since : Moment) (page : Nat) : Nat → Lookup (List String)
  | 0 => return []
  | pages + 1 => do
    let entries ← c.changes page
    if entries.isEmpty then return []
    let ids := changedSince since entries
    if reachesBefore since entries then return ids
    let more ← c.changedFrom since (page + 1) pages
    return ids ++ more

/-- The authors that have changed since a moment, each once. -/
def changedAuthors (c : Config) (since : Moment) : Lookup (List String) := do
  return Text.sortedSet (← c.changedFrom since 0 greatestChangePages)

/-- Checks that Open Library can be reached. -/
def test (c : Config) : Lookup Unit := do
  let _ ← c.get (hitsDecoder AuthorHit.decoder) "/search/authors.json"
    [("q", "tolkien"), ("limit", "1")]
  return ()

/-- What Open Library supports. -/
def capabilities (c : Config) : Capabilities where
  authorSearch := true
  bookSearch := true
  isbnLookup := true
  changeFeed := true
  covers := true
  ratings := true
  descriptions := true
  requestsPerMinute := c.requestsPerMinute

/-- Open Library as a source, on the network of the world. -/
def source {W : Type} (c : Config) (name : String) (network : W → Network) : Source W where
  name := name
  capabilities := c.capabilities
  fetchAuthor id := (c.fetchAuthor id).call network
  fetchBook id := (c.fetchBook id).call network
  searchAuthors query := (c.searchAuthors query).call network
  searchBooks title author allEditions := (c.searchBooks title author allEditions).call network
  searchIsbn isbn := (c.searchIsbn isbn).call network
  changedAuthors since := (c.changedAuthors since).call network
  test := c.test.call network

/-- A character that may stand in a header. -/
def isHeaderChar (ch : Char) : Bool := ch = '\t' || (31 < ch.toNat && ch.toNat != 127)

/-- Whether requests can carry the name of the user agent. -/
def sendable (c : Config) : Bool := c.userAgent.toList.all isHeaderChar

end Config

/-- The name of the implementation. -/
def implementation : String := "OpenLibrary"

/-- The configuration for a definition, if it can be used. -/
def configFor (c : Config) (d : Definition) : Except SourceError Config :=
  match c.override d.settings with
  | .error e => .error (Config.sourceError e)
  | .ok c => if c.sendable then .ok c else .error (.transport "builder error")

/-- Builds the source for a definition. -/
def builder {W : Type} (c : Config) (network : W → Network) : Builder W := fun d =>
  match configFor c d with
  | .error e => .error e
  | .ok c => .ok (c.source d.name network)

end OpenLibrary
end Biblio
