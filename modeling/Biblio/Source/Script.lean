import Biblio.Source.Basic
import Biblio.Throttle.Limiter

/-!
# Scripted sources

A scripted source gives prepared answers and keeps a record of what it was asked, so that the
service can be tried without a network.

* `Script` is the state of one such source: its answers, its failures, its delay and its rate limit.
* `Script.enter` is the way of every call: it waits for the rate limit, is recorded, waits for the
  delay, and fails if the script says so.
* `Script.source` is the source that plays a script, and `Scripts.build` picks the script that has the
  name of a definition.
-/

set_option autoImplicit false

namespace Biblio

/-- What a source was asked. -/
inductive Question where
  | author (id : String)
  | book (id : String)
  | authors (query : String)
  | books (title : String) (author : Option String) (allEditions : Bool)
  | isbn (isbn : String)
  | asin (asin : String)
  | changes (since : Moment)
  | test
  deriving DecidableEq, Repr, Inhabited

/-- The operation that a question belongs to. -/
def Question.operation : Question → Operation
  | .author _ => .getAuthor
  | .book _ => .getBook
  | .authors _ => .searchAuthors
  | .books _ _ _ => .searchBooks
  | .isbn _ => .searchIsbn
  | .asin _ => .searchAsin
  | .changes _ => .changedAuthors
  | .test => .test

/-- The state of a scripted source. -/
structure Script where
  name : String
  capabilities : Capabilities := Capabilities.full
  suggestedPriority : Nat := 0
  /-- The rate limit, if there is one. -/
  limiter : Option Limiter := none
  /-- The authors that can be fetched, at most one per identifier. -/
  authors : List Author := []
  /-- The books that can be fetched, at most one per identifier. -/
  books : List BookInfo := []
  authorResults : List Author := []
  bookResults : List Book := []
  isbnResults : List Book := []
  asinResults : List Book := []
  changed : List String := []
  /-- Whether every call fails. -/
  failing : Bool := false
  /-- How long every call takes. -/
  delay : Option Span := none
  /-- The failure of the next call. -/
  nextError : Option SourceError := none
  /-- What the source was asked, oldest first. -/
  asked : List Question := []
  deriving Inhabited

/-- Scripted sources, at most one per name. -/
abbrev Scripts := List Script

namespace Scripts

/-- The script under a name. -/
def named? (scripts : Scripts) (name : String) : Option Script :=
  scripts.find? (fun s => s.name == name)

/-- Changes the script under a name. -/
def modify (name : String) (f : Script → Script) (scripts : Scripts) : Scripts :=
  scripts.map (fun s => if s.name = name then f s else s)

/-- Adds a script, in place of the one with the same name. -/
def put (scripts : Scripts) (s : Script) : Scripts :=
  scripts.filter (fun t => t.name != s.name) ++ [s]

end Scripts

namespace Script

/-- A rate limit for the source, which is also shown among its capabilities. -/
def limited (s : Script) (perMinute : Nat) : Script :=
  { s with
    capabilities := { s.capabilities with requestsPerMinute := perMinute }
    limiter := some { perMinute := perMinute } }

/-- Adds an author that can be fetched, in place of the one with the same identifier. -/
def addAuthor (s : Script) (a : Author) : Script :=
  { s with authors := a :: s.authors.filter (fun b => b.foreignId != a.foreignId) }

/-- Adds a book that can be fetched, in place of the one with the same identifier. -/
def addBook (s : Script) (i : BookInfo) : Script :=
  { s with books := i :: s.books.filter (fun j => j.book.foreignId != i.book.foreignId) }

/-- The failure that a script has for a call at this time. -/
def failure? (s : Script) : Option SourceError :=
  match s.nextError with
  | some e => some e
  | none => if s.failing then some (.api 503 (s.name ++ " is unavailable")) else none

/-- Waits for the rate limit of the script under a name. -/
def waitForSlot (name : String) (next : Activity Scripts (Except SourceError Unit)) :
    Call Scripts Unit :=
  .look fun now scripts =>
    match (scripts.named? name).bind Script.limiter with
    | none => next
    | some limiter =>
      match limiter.serve ⟨now, none⟩ with
      | (none, _) => next
      | (some slot, granted) =>
        let go := Activity.change (Scripts.modify name (fun s => { s with limiter := some granted }))
          next
        if slot = now then go else .hold (.wait (slot - now) (.release go))

/-- The end of a call: a failure that the script has for it, or none. -/
def leave (name : String) : Call Scripts Unit :=
  .look fun _ scripts =>
    match (scripts.named? name).bind Script.failure? with
    | none => .done (.ok ())
    | some e =>
      .change (Scripts.modify name (fun s => { s with nextError := none })) (.done (.error e))

/-- The way of every call. -/
def enter (name : String) (q : Question) : Call Scripts Unit :=
  waitForSlot name
    (.change (Scripts.modify name (fun s => { s with asked := s.asked ++ [q] }))
      (.look fun _ scripts =>
        match (scripts.named? name).bind Script.delay with
        | none => leave name
        | some span => .wait span (leave name)))

/-- A call with the answer that the script has when the call ends. -/
def answering {α : Type} (name : String) (q : Question) (answer : Script → α) : Call Scripts α :=
  (enter name q).bind fun
    | .error e => .done (.error e)
    | .ok () =>
      .look fun _ scripts =>
        match scripts.named? name with
        | none => .done (.error (.notConfigured name))
        | some s => .done (.ok (answer s))

/-- The source that plays the script under a name. -/
def source (s : Script) : Source Scripts where
  name := s.name
  capabilities := s.capabilities
  suggestedPriority := s.suggestedPriority
  fetchAuthor id :=
    answering s.name (.author id) (fun s => s.authors.find? (fun a => a.foreignId == id))
  fetchBook id :=
    answering s.name (.book id) (fun s => s.books.find? (fun i => i.book.foreignId == id))
  searchAuthors query := answering s.name (.authors query) Script.authorResults
  searchBooks title author allEditions :=
    answering s.name (.books title author allEditions) Script.bookResults
  searchIsbn isbn := answering s.name (.isbn isbn) Script.isbnResults
  searchAsin asin := answering s.name (.asin asin) Script.asinResults
  changedAuthors since := answering s.name (.changes since) Script.changed
  test := enter s.name .test

end Script

/-- The source for a definition: the script of the same name. -/
def Scripts.build (scripts : Scripts) (name : String) : Except SourceError (Source Scripts) :=
  match scripts.named? name with
  | some s => .ok s.source
  | none => .error (.notConfigured ("no mock source named '" ++ name ++ "'"))

end Biblio
