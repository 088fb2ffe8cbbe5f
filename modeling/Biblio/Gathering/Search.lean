import Biblio.Gathering.Failover
import Biblio.Gathering.Merge
import Biblio.Provider.Lookup
import Biblio.Registry.Selection
import Biblio.Relevance.Rank
import Biblio.SearchTerm

/-!
# Questions to all providers

The questions that the service answers, each put to the providers that are selected for it and not
suspended.

* `authorInfo` and `bookInfo` fetch by identifier from the first provider that has an answer.
* `searchAuthors`, `searchBooks`, `searchIsbn` and `searchAsin` merge the results of all; authors
  are ranked, and those that do not fit the query are dropped.
* `changedAuthors` joins the lists of changes.
* `searchEntities` takes a term as its reader means it: identifier, product number or free text.
-/

set_option autoImplicit false

namespace Biblio
namespace Service

variable {W α : Type}

/-! ## Who is asked -/

/-- The providers for a category that are not suspended. -/
def usable (service : Service W) (category : Category) :
    Action W (Except GatherError (List (Provider W))) :=
  modifyGet fun s =>
    match service.selectFor category true s with
    | (.error e, s) => (.error (.registry e), s)
    | (.ok ps, s) => (.ok ps, s)

/-- Goes on with the providers for a category. -/
def withUsable (service : Service W) (category : Category)
    (go : List (Provider W) → Action W (Except GatherError α)) :
    Action W (Except GatherError α) := do
  match ← service.usable category with
  | .error e => return .error e
  | .ok ps => go ps

/-- Goes on with the providers for a category, of which there has to be one. -/
def withRequired (service : Service W) (category : Category)
    (go : List (Provider W) → Action W α) : Action W (Except GatherError α) :=
  service.withUsable category fun ps => do
    if ps.isEmpty then return .error (.noProviders category)
    return .ok (← go ps)

/-- Goes on with the providers for a category that support an operation; without any, there are no
results. -/
def withCapable (service : Service W) (category : Category) (o : Operation)
    (go : List (Provider W) → Action W (List α)) : Action W (Except GatherError (List α)) :=
  service.withUsable category fun ps => do
    let ps := ps.filter (fun p => p.supports o)
    if ps.isEmpty then return .ok []
    return .ok (← go ps)

/-! ## One answer -/

/-- An author by identifier. -/
def authorInfo (service : Service W) (id : String) (useCache : Bool) :
    Action W (Except GatherError Author) :=
  service.withUsable .authorSearch
    (firstAnswer .authorSearch .getAuthor id (fun p => p.fetchAuthor id useCache))

/-- A book by identifier. -/
def bookInfo (service : Service W) (id : String) : Action W (Except GatherError BookInfo) :=
  service.withUsable .bookSearch
    (firstAnswer .bookSearch .getBook id (fun p => p.fetchBook id))

/-! ## Merged answers -/

/-- Counts the results of an operation and passes them on. -/
def counted (operation : String) (results : List α) : Action W (List α) := do
  Action.countResults operation results.length
  return results

/-- The identifiers of the authors that have changed since a moment, in order. -/
def changedAuthors (service : Service W) (since : Moment) :
    Action W (Except GatherError (List String)) :=
  service.withCapable .automaticRefresh .changedAuthors fun ps => do
    let ids ← askAll (fun p => p.changedAuthors since) ps
    counted Operation.changedAuthors.label (Text.sortedSet ids)

/-- Authors by name, best first. -/
def searchAuthors (service : Service W) (query : String) :
    Action W (Except GatherError (List Author)) :=
  service.withRequired .authorSearch fun ps => do
    let authors ← merged (fun p => p.searchAuthors query) ps
    counted Operation.searchAuthors.label (Relevance.rankAuthors query authors)

/-- Books by title, and by author if one is given. -/
def searchBooks (service : Service W) (title : String) (author : Option String)
    (allEditions : Bool) : Action W (Except GatherError (List Book)) :=
  service.withRequired .bookSearch fun ps => do
    let books ← merged (fun p => p.searchBooks title author allEditions) ps
    counted Operation.searchBooks.label books

/-- Books by the number of an edition. -/
def searchIsbn (service : Service W) (isbn : String) :
    Action W (Except GatherError (List Book)) :=
  service.withCapable .bookSearch .searchIsbn fun ps => do
    let books ← merged (fun p => p.searchIsbn isbn) ps
    counted Operation.searchIsbn.label books

/-- Books by the number of a shop's article. -/
def searchAsin (service : Service W) (asin : String) :
    Action W (Except GatherError (List Book)) :=
  service.withCapable .bookSearch .searchAsin fun ps => do
    let books ← merged (fun p => p.searchAsin asin) ps
    counted Operation.searchAsin.label books

/-! ## Authors and books together -/

/-- Results of one kind as entities; none if they are not wanted. -/
def entitiesIf (wanted : Bool) (entity : α → SearchEntity)
    (ask : Action W (Except SourceError (List α))) :
    Action W (Except SourceError (List SearchEntity)) := do
  if wanted then
    match ← ask with
    | .error e => return .error e
    | .ok found => return .ok (found.map entity)
  else return .ok []

/-- What one provider finds for a free text, as far as it is used for authors and for books. -/
def searchText (text : String) (p : Provider W) : Action W (List SearchEntity) :=
  askAll (fun ask => ask)
    [ entitiesIf (p.definition.forAuthors && p.supports .searchAuthors) .author
        (p.searchAuthors text),
      entitiesIf (p.definition.forBooks && p.supports .searchBooks) .book
        (p.searchBooks text none false) ]

/-- Authors and books for a free text, best first. -/
def searchEverything (service : Service W) (text : String) :
    Action W (Except GatherError (List SearchEntity)) :=
  service.withRequired .interactiveSearch fun ps => do
    let found ← merged (fun p => Except.ok <$> searchText text p) ps
    counted "search_entity" (Relevance.rankEntities text found)

/-- An answer as a list of entities; that nothing was found is an empty list. -/
def single (entity : α → SearchEntity) :
    Except GatherError α → Except GatherError (List SearchEntity)
  | .ok a => .ok [entity a]
  | .error (.nothingFound _ _ _ _) => .ok []
  | .error e => .error e

/-- Authors and books for a search term. -/
def searchEntities (service : Service W) (term : String) :
    Action W (Except GatherError (List SearchEntity)) := do
  match SearchTerm.parse term with
  | .isbn isbn => return (← service.searchIsbn isbn).map (·.map .book)
  | .asin asin => return (← service.searchAsin asin).map (·.map .book)
  | .authorId id => return single .author (← service.authorInfo id true)
  | .bookId id => return single (fun i => .book i.book) (← service.bookInfo id)
  | .text text => service.searchEverything text

end Service
end Biblio
