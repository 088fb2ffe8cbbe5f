import Biblio.Cache
import Biblio.Config.Basic
import Biblio.Definition.Validation
import Biblio.Source.Basic

/-!
# Providers

A provider is a source that runs under a definition, together with what all sources share: caches
for its answers and a limit for the time of a call.

* `Provider` is one provider.  Its number tells it from every other one that was ever built, even
  for the same definition.
* `Caches` are the caches of one provider, and a `Shelf` is one of them.
-/

set_option autoImplicit false

namespace Biblio

/-- The rules that all providers follow. -/
structure Rules where
  /-- How long a provider that fails is suspended. -/
  backoff : Backoff := Backoff.standard
  /-- How long answers are kept. -/
  windows : CacheWindows := {}
  /-- How long one call may be active. -/
  callTimeout : Span
  deriving Inhabited

/-- A source under a definition. -/
structure Provider (W : Type) where
  definition : Definition
  source : Source W
  /-- Tells the provider from every other that was built. -/
  number : Nat
  rules : Rules

namespace Provider

variable {W : Type}

/-- The identifier of the definition. -/
def id (p : Provider W) : Int := p.definition.id

/-- The name in the definition. -/
def name (p : Provider W) : String := p.definition.name

/-- What the source supports. -/
def capabilities (p : Provider W) : Capabilities := p.source.capabilities

/-- Whether the source supports an operation. -/
def supports (p : Provider W) (o : Operation) : Bool := p.capabilities.supports o

end Provider

/-- The caches of a provider. -/
structure Caches where
  authors : Cache Author
  books : Cache BookInfo
  authorSearches : Cache (List Author)
  bookSearches : Cache (List Book)
  isbn : Cache (List Book)
  asin : Cache (List Book)
  deriving Inhabited

namespace Caches

/-- Empty caches.  What is fetched by identifier is kept from its last use on, what is searched
from the time it was found. -/
def empty (w : CacheWindows) : Caches where
  authors := { expiry := .rolling w.entity }
  books := { expiry := .rolling w.entity }
  authorSearches := { expiry := .fixed w.search }
  bookSearches := { expiry := .fixed w.search }
  isbn := { expiry := .fixed w.identifier }
  asin := { expiry := .fixed w.identifier }

/-- Drops what has expired and says how much it was. -/
def purge (c : Caches) (now : Instant) : Nat × Caches :=
  let (a, authors) := c.authors.purge now
  let (b, books) := c.books.purge now
  let (d, authorSearches) := c.authorSearches.purge now
  let (e, bookSearches) := c.bookSearches.purge now
  let (f, isbn) := c.isbn.purge now
  let (g, asin) := c.asin.purge now
  (a + b + d + e + f + g, ⟨authors, books, authorSearches, bookSearches, isbn, asin⟩)

end Caches

/-- One of the caches of a provider. -/
structure Shelf (V : Type) where
  /-- The name of the cache in measurements. -/
  name : String
  get : Caches → Cache V
  set : Cache V → Caches → Caches

namespace Shelf

/-- Authors by identifier. -/
def authors : Shelf Author := ⟨"author", Caches.authors, fun c s => { s with authors := c }⟩

/-- Books by identifier. -/
def books : Shelf BookInfo := ⟨"book", Caches.books, fun c s => { s with books := c }⟩

/-- Searches for authors. -/
def authorSearches : Shelf (List Author) :=
  ⟨"author_search", Caches.authorSearches, fun c s => { s with authorSearches := c }⟩

/-- Searches for books. -/
def bookSearches : Shelf (List Book) :=
  ⟨"book_search", Caches.bookSearches, fun c s => { s with bookSearches := c }⟩

/-- Searches by the number of an edition. -/
def isbn : Shelf (List Book) := ⟨"isbn", Caches.isbn, fun c s => { s with isbn := c }⟩

/-- Searches by the number of a shop's article. -/
def asin : Shelf (List Book) := ⟨"asin", Caches.asin, fun c s => { s with asin := c }⟩

end Shelf
end Biblio
