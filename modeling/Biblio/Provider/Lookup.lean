import Biblio.Provider.TimeLimit
import Biblio.Service.State
import Biblio.Text.Key

/-!
# Asking a provider

* `Provider.gate` refuses what the source does not support, without asking it.
* `Provider.limit` is the time limit for a call, and `Provider.bounded` runs a call of the source under
  it.
* `Provider.observe` does so and keeps track: the health of a stored provider, and the measurements.
  That a source has nothing is an answer; that it does not support something is neither a success
  nor a failure.
* `Provider.remembered` and `Provider.keep` are the look-ups in a cache, and `Provider.through` asks only
  for what the cache does not have.
* The operations follow: `fetchAuthor`, `fetchBook` and so on.
-/

set_option autoImplicit false

namespace Biblio
namespace Provider

variable {W α V : Type}

/-- Refuses an operation that the source does not support. -/
def gate (p : Provider W) (o : Operation) : Except SourceError Unit :=
  if p.supports o then .ok () else .error (.notSupported p.name o)

/-! ## Calls of the source -/

/-- The time limit for a call that begins now. -/
def limit (p : Provider W) (s : State W) : Except ClockOverflow TimeLimit :=
  TimeLimit.start s.now p.rules.callTimeout (s.runtime.callFirst s.now)

/-- Runs a call of the source under the time limit. -/
def bounded (p : Provider W) (call : Call W α) : Action W (Except SourceError α) := do
  let s ← get
  match p.limit s with
  | .error e => throw e
  | .ok limit =>
    let (ending, now, world) := limit.run s.now s.world call
    set (s.later now world)
    match ending with
    | .answered r => return r
    | .expired => return .error (.timeout p.rules.callTimeout.wholeSeconds)
    | .overflow => throw .beyondEnd

/-- Records a success of a stored provider. -/
def recordSuccess (p : Provider W) : Action W Unit :=
  modify fun s =>
    if p.definition.stored then { s with store := (s.store.noteSuccess s.wall p.id).2 } else s

/-- Records a failure of a stored provider. -/
def recordFailure (p : Provider W) (least : Span) : Action W Unit :=
  modify fun s =>
    if p.definition.stored then
      { s with store := (s.store.noteFailure p.rules.backoff s.wall p.id least).2 }
    else s

/-- What a call of the source has come to: the answer, none if the source has nothing. -/
def outcome : Except SourceError α → Except SourceError (Option α)
  | .ok a => .ok (some a)
  | .error e => if e.isNotFound then .ok none else .error e

/-- The name of an outcome in measurements. -/
def outcomeLabel : Except SourceError (Option α) → String
  | .ok (some _) => "success"
  | .ok none => "not_found"
  | .error (.timeout _) => "timeout"
  | .error _ => "error"

/-- Records what a call of the source has come to. -/
def record (p : Provider W) : Except SourceError (Option α) → Action W Unit
  | .ok _ => p.recordSuccess
  | .error e => if e.isNotSupported then pure () else p.recordFailure e.leastSuspension

/-- Runs a call of the source under the time limit and keeps track of it. -/
def observe (p : Provider W) (o : Operation) (call : Call W α) :
    Action W (Except SourceError (Option α)) := do
  let r ← p.bounded call
  let r := outcome r
  Action.count (Metrics.providerDuration p.name o)
  p.record r
  Action.count (Metrics.providerRequest p.name o (outcomeLabel r))
  return r

/-! ## Caches -/

/-- Looks a key up in a cache. -/
def remembered (p : Provider W) (shelf : Shelf V) (key : String) : Action W (Option V) := do
  let s ← get
  let caches := s.cachesOf p
  match (shelf.get caches).get s.now key with
  | .error e => throw e
  | .ok (hit, cache) =>
    set (s.setCaches p (shelf.set cache caches))
    Action.count (Metrics.cacheLookup shelf.name hit.isSome)
    return hit

/-- Stores a value in a cache. -/
def keep (p : Provider W) (shelf : Shelf V) (key : String) (value : V) : Action W Unit := do
  let s ← get
  let caches := s.cachesOf p
  match (shelf.get caches).insert s.now key value with
  | .error e => throw e
  | .ok cache => set (s.setCaches p (shelf.set cache caches))

/-- Answers from a cache, or else asks and keeps what is worth keeping. -/
def through (p : Provider W) (shelf : Shelf V) (key : String) (shown : V → α)
    (worth : α → Option V) (ask : Action W (Except SourceError α)) :
    Action W (Except SourceError α) := do
  match ← p.remembered shelf key with
  | some v => return .ok (shown v)
  | none =>
    match ← ask with
    | .error e => return .error e
    | .ok a =>
      match worth a with
      | none => return .ok a
      | some v =>
        p.keep shelf key v
        return .ok a

/-- An entity is worth keeping if there is one. -/
def throughEntity (p : Provider W) (shelf : Shelf V) (key : String)
    (ask : Action W (Except SourceError (Option V))) : Action W (Except SourceError (Option V)) :=
  p.through shelf key some (fun found => found) ask

/-- Results are worth keeping if there are any. -/
def worthKeeping (results : List V) : Option (List V) :=
  if results.isEmpty then none else some results

/-- Answers with results that were found before, or else asks and keeps them if there are any. -/
def throughResults (p : Provider W) (shelf : Shelf (List V)) (key : String)
    (ask : Action W (Except SourceError (List V))) : Action W (Except SourceError (List V)) :=
  p.through shelf key (fun results => results) worthKeeping ask

/-- Asks for results; a source that has nothing has none. -/
def results (p : Provider W) (o : Operation) (call : Call W (List α)) :
    Action W (Except SourceError (List α)) := do
  match ← p.observe o call with
  | .error e => return .error e
  | .ok r => return .ok (r.getD [])

/-- Asks for an entity; a source may also say of it that there is none. -/
def entity (p : Provider W) (o : Operation) (call : Call W (Option α)) :
    Action W (Except SourceError (Option α)) := do
  match ← p.observe o call with
  | .error e => return .error e
  | .ok r => return .ok r.join

/-! ## Operations -/

/-- Goes on only with an operation that the source supports. -/
def ifSupported (p : Provider W) (o : Operation) (go : Action W (Except SourceError α)) :
    Action W (Except SourceError α) :=
  match p.gate o with
  | .error e => return .error e
  | .ok () => go

/-- Fetches an author; without the cache it is neither read nor written. -/
def fetchAuthor (p : Provider W) (id : String) (useCache : Bool) :
    Action W (Except SourceError (Option Author)) :=
  p.ifSupported .getAuthor
    (let ask := p.entity .getAuthor (p.source.fetchAuthor id)
    if useCache then p.throughEntity Shelf.authors id ask else ask)

/-- Fetches a book. -/
def fetchBook (p : Provider W) (id : String) : Action W (Except SourceError (Option BookInfo)) :=
  p.ifSupported .getBook
    (p.throughEntity Shelf.books id (p.entity .getBook (p.source.fetchBook id)))

/-- Searches for authors by name. -/
def searchAuthors (p : Provider W) (query : String) :
    Action W (Except SourceError (List Author)) :=
  p.ifSupported .searchAuthors
    (p.throughResults Shelf.authorSearches (Text.textKey query)
      (p.results .searchAuthors (p.source.searchAuthors query)))

/-- The key of a search by title: the three things that it depends on. -/
def bookSearchKey (title : String) (author : Option String) (allEditions : Bool) : String :=
  Text.textKey title ++ "|" ++ (author.map Text.textKey).getD "" ++ "|" ++
    (if allEditions then "true" else "false")

/-- Searches for books by title, and by author if one is given. -/
def searchBooks (p : Provider W) (title : String) (author : Option String)
    (allEditions : Bool) : Action W (Except SourceError (List Book)) :=
  p.ifSupported .searchBooks
    (p.throughResults Shelf.bookSearches (bookSearchKey title author allEditions)
      (p.results .searchBooks (p.source.searchBooks title author allEditions)))

/-- Searches for books by the number of an edition; the source is asked for its key. -/
def searchIsbn (p : Provider W) (isbn : String) : Action W (Except SourceError (List Book)) :=
  p.ifSupported .searchIsbn
    (let key := Text.isbnKey isbn
    p.throughResults Shelf.isbn key (p.results .searchIsbn (p.source.searchIsbn key)))

/-- Searches for books by the number of a shop's article; the source is asked for its key. -/
def searchAsin (p : Provider W) (asin : String) : Action W (Except SourceError (List Book)) :=
  p.ifSupported .searchAsin
    (let key := Text.asinKey asin
    p.throughResults Shelf.asin key (p.results .searchAsin (p.source.searchAsin key)))

/-- The authors that have changed since a moment; this is never kept. -/
def changedAuthors (p : Provider W) (since : Moment) :
    Action W (Except SourceError (List String)) :=
  p.ifSupported .changedAuthors (p.results .changedAuthors (p.source.changedAuthors since))

/-- Checks that the source can be reached, without keeping track. -/
def checkReachable (p : Provider W) : Action W (Except SourceError Unit) := p.bounded p.source.test

/-- The check as a validation. -/
def test (p : Provider W) : Action W Validation := do
  match ← p.checkReachable with
  | .ok () => return {}
  | .error e => return .problem "" e.message

/-- Drops what has expired from all caches and says how much it was. -/
def purge (p : Provider W) : Action W Nat :=
  modifyGet fun s =>
    let (n, caches) := (s.cachesOf p).purge s.now
    (n, s.setCaches p caches)

end Provider
end Biblio
