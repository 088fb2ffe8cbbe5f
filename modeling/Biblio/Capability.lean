import Biblio.Json.Decoder

/-!
# Operations and capabilities

* `Operation` lists what a source can be asked, `Capabilities` what one source supports.
* `Category` is the kind of use that providers are selected for.
-/

set_option autoImplicit false

namespace Biblio

open Json.Decoder (field record boolean natural choice)

/-- What a source can be asked. -/
inductive Operation where
  | getAuthor
  | getBook
  | searchAuthors
  | searchBooks
  | searchIsbn
  | searchAsin
  | changedAuthors
  | test
  deriving DecidableEq, Repr, Inhabited

namespace Operation

/-- Every operation. -/
def all : List Operation :=
  [.getAuthor, .getBook, .searchAuthors, .searchBooks, .searchIsbn, .searchAsin, .changedAuthors,
    .test]

/-- The name of an operation in messages and measurements. -/
def label : Operation → String
  | .getAuthor => "get_author"
  | .getBook => "get_book"
  | .searchAuthors => "search_authors"
  | .searchBooks => "search_books"
  | .searchIsbn => "search_isbn"
  | .searchAsin => "search_asin"
  | .changedAuthors => "changed_authors"
  | .test => "test"

def decoder : Json.Decoder Operation := choice (all.map (fun o => (o.label, o)))

end Operation

/-- The uses that providers are selected for. -/
inductive Category where
  | authorSearch
  | bookSearch
  | automaticRefresh
  /-- Author search or book search. -/
  | interactiveSearch
  deriving DecidableEq, Repr, Inhabited

namespace Category

/-- Every category. -/
def all : List Category := [.authorSearch, .bookSearch, .automaticRefresh, .interactiveSearch]

/-- The name of a category in messages. -/
def label : Category → String
  | .authorSearch => "author_search"
  | .bookSearch => "book_search"
  | .automaticRefresh => "automatic_refresh"
  | .interactiveSearch => "interactive_search"

def decoder : Json.Decoder Category := choice (all.map (fun c => (c.label, c)))

end Category

/-- What a source supports. -/
structure Capabilities where
  authorSearch : Bool := false
  bookSearch : Bool := false
  isbnLookup : Bool := false
  asinLookup : Bool := false
  seriesInfo : Bool := false
  changeFeed : Bool := false
  covers : Bool := false
  ratings : Bool := false
  descriptions : Bool := false
  /-- The number of requests a minute that the source takes; zero for any number. -/
  requestsPerMinute : Nat := 0
  deriving DecidableEq, Repr, Inhabited

namespace Capabilities

/-- Everything, at any rate. -/
def full : Capabilities := ⟨true, true, true, true, true, true, true, true, true, 0⟩

/-- Whether an operation is supported; a test always is. -/
def supports (c : Capabilities) : Operation → Bool
  | .getAuthor | .searchAuthors => c.authorSearch
  | .getBook | .searchBooks => c.bookSearch
  | .searchIsbn => c.isbnLookup
  | .searchAsin => c.asinLookup
  | .changedAuthors => c.changeFeed
  | .test => true

/-- The greatest rate. -/
def greatestRate : Nat := 4294967295

def decoder : Json.Decoder Capabilities :=
  record
    [ field "author_search" .defaulted boolean (fun v c => { c with authorSearch := v }),
      field "book_search" .defaulted boolean (fun v c => { c with bookSearch := v }),
      field "isbn_lookup" .defaulted boolean (fun v c => { c with isbnLookup := v }),
      field "asin_lookup" .defaulted boolean (fun v c => { c with asinLookup := v }),
      field "series_info" .defaulted boolean (fun v c => { c with seriesInfo := v }),
      field "change_feed" .defaulted boolean (fun v c => { c with changeFeed := v }),
      field "covers" .defaulted boolean (fun v c => { c with covers := v }),
      field "ratings" .defaulted boolean (fun v c => { c with ratings := v }),
      field "descriptions" .defaulted boolean (fun v c => { c with descriptions := v }),
      field "max_requests_per_minute" .defaulted (natural greatestRate)
        (fun v c => { c with requestsPerMinute := v }) ]
    {}

def toJson (c : Capabilities) : Json :=
  Json.ofMembers
    [ ("author_search", .bool c.authorSearch),
      ("book_search", .bool c.bookSearch),
      ("isbn_lookup", .bool c.isbnLookup),
      ("asin_lookup", .bool c.asinLookup),
      ("series_info", .bool c.seriesInfo),
      ("change_feed", .bool c.changeFeed),
      ("covers", .bool c.covers),
      ("ratings", .bool c.ratings),
      ("descriptions", .bool c.descriptions),
      ("max_requests_per_minute", .nat c.requestsPerMinute) ]

end Capabilities
end Biblio
