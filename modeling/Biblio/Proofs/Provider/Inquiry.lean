import Biblio.Proofs.Provider.Consultation

/-!
# Inquiries

What a provider can be asked by identifier or as a search.

* `Inquiry` lists these questions.  `Inquiry.slot?` is the slot that is looked into first, and
  `Inquiry.question` what the source is asked if nothing is found there.
* `Inquiry.exists_consultation` — every inquiry with a slot is a consultation.
* `ignoresCaches_of_slot?_eq_none` and `asked_of_slot?_eq_none` — one without a slot goes to the source,
  and the caches have no part in it.
-/

set_option autoImplicit false

namespace Biblio

variable {W V : Type}

/-! ## Inquiries -/

/-- What a provider can be asked by identifier or as a search. -/
inductive Inquiry where
  | author (id : String) (useCache : Bool)
  | book (id : String)
  | authors (query : String)
  | books (title : String) (author : Option String) (allEditions : Bool)
  | isbn (isbn : String)
  | asin (asin : String)
  deriving DecidableEq

namespace Inquiry

/-- What the source is asked. -/
def question : Inquiry → Question
  | .author id _ => .author id
  | .book id => .book id
  | .authors query => .authors query
  | .books title author? allEditions => .books title author? allEditions
  | .isbn number => .isbn (Text.isbnKey number)
  | .asin number => .asin (Text.asinKey number)

/-- The operation that the source has to support. -/
def operation (q : Inquiry) : Operation := q.question.operation

/-- The slot that is looked into first. -/
def slot? : Inquiry → Option Slot
  | .author id useCache => if useCache then some ⟨.authors, id⟩ else none
  | .book id => some ⟨.books, id⟩
  | .authors query => some ⟨.authorSearches, Text.textKey query⟩
  | .books title author? allEditions =>
    some ⟨.bookSearches, Provider.bookSearchKey title author? allEditions⟩
  | .isbn number => some ⟨.isbn, Text.isbnKey number⟩
  | .asin number => some ⟨.asin, Text.asinKey number⟩

/-- Asks a provider. -/
def ask (p : Provider W) : Inquiry → Action W Answer
  | .author id useCache => .author <$> p.fetchAuthor id useCache
  | .book id => .book <$> p.fetchBook id
  | .authors query => .authors <$> p.searchAuthors query
  | .books title author? allEditions => .books <$> p.searchBooks title author? allEditions
  | .isbn number => .books <$> p.searchIsbn number
  | .asin number => .books <$> p.searchAsin number

end Inquiry

/-! ## Inquiries as consultations -/

theorem eq_of_worthKeeping {found kept : List V} (h : Provider.worthKeeping found = some kept) :
    found = kept ∧ kept ≠ [] := by
  cases found with
  | nil => exact nomatch h
  | cons a rest =>
    obtain rfl := Option.some.inj h
    exact ⟨rfl, List.cons_ne_nil a rest⟩

theorem eq_nil_of_worthKeeping {found : List V} (h : Provider.worthKeeping found = none) :
    found = [] := by
  cases found with
  | nil => rfl
  | cons a rest => exact nomatch h

namespace Consultation

/-- A question for an entity. -/
def entity (k : ShelfName) (operation : Operation) (key : String) (call : Call W (Option k.Value))
    (tell : Except SourceError (Option k.Value) → Answer)
    (htell : ∀ found, tell (.ok (some found)) = k.shown found)
    (hfinds : ∀ found, (k.shown found).Finds) (hnone : ¬ (tell (.ok none)).Finds)
    (herror : ∀ e, ¬ (tell (.error e)).Finds) : Consultation W k (Option k.Value) where
  operation := operation
  key := key
  call := call
  settle := Option.join
  shown := some
  worth := fun found => found
  tell := tell
  tell_shown := htell
  tell_of_worth := by
    rintro _ v rfl
    exact ⟨htell v, hfinds v⟩
  not_finds := by
    rintro _ rfl
    exact hnone
  not_finds_error := herror

/-- A question for results. -/
def results (k : ShelfName) (operation : Operation) (key : String) (call : Call W k.Value)
    (none : k.Value) (worth : k.Value → Option k.Value) (tell : Except SourceError k.Value → Answer)
    (htell : ∀ found, tell (.ok found) = k.shown found)
    (hkept : ∀ {found kept}, worth found = some kept → found = kept ∧ (k.shown kept).Finds)
    (hnone : ∀ {found}, worth found = .none → ¬ (k.shown found).Finds)
    (herror : ∀ e, ¬ (tell (.error e)).Finds) : Consultation W k k.Value where
  operation := operation
  key := key
  call := call
  settle := fun found => found.getD none
  shown := fun found => found
  worth := worth
  tell := tell
  tell_shown := htell
  tell_of_worth := by
    intro found kept h
    obtain ⟨rfl, hfinds⟩ := hkept h
    exact ⟨htell found, hfinds⟩
  not_finds := by
    intro found h
    rw [htell]
    exact hnone h
  not_finds_error := herror

variable (p : Provider W)

/-- An author by identifier. -/
def author (id : String) : Consultation W .authors (Option Author) :=
  entity .authors .getAuthor id (p.source.fetchAuthor id) .author (fun _ => rfl) (fun _ => trivial)
    (fun h => h) (fun _ h => h)

/-- A book by identifier. -/
def book (id : String) : Consultation W .books (Option BookInfo) :=
  entity .books .getBook id (p.source.fetchBook id) .book (fun _ => rfl) (fun _ => trivial)
    (fun h => h) (fun _ h => h)

/-- Authors by name. -/
def authors (query : String) : Consultation W .authorSearches (List Author) :=
  results .authorSearches .searchAuthors (Text.textKey query) (p.source.searchAuthors query) []
    Provider.worthKeeping .authors (fun _ => rfl) eq_of_worthKeeping
    (fun h hne => hne (eq_nil_of_worthKeeping h)) (fun _ h => h)

/-- Books by title, and by author if one is given. -/
def books (title : String) (author? : Option String) (allEditions : Bool) :
    Consultation W .bookSearches (List Book) :=
  results .bookSearches .searchBooks (Provider.bookSearchKey title author? allEditions)
    (p.source.searchBooks title author? allEditions) [] Provider.worthKeeping .books (fun _ => rfl)
    eq_of_worthKeeping (fun h hne => hne (eq_nil_of_worthKeeping h)) (fun _ h => h)

/-- Books by the number of an edition. -/
def isbn (number : String) : Consultation W .isbn (List Book) :=
  results .isbn .searchIsbn (Text.isbnKey number) (p.source.searchIsbn (Text.isbnKey number)) []
    Provider.worthKeeping .books (fun _ => rfl) eq_of_worthKeeping
    (fun h hne => hne (eq_nil_of_worthKeeping h)) (fun _ h => h)

/-- Books by the number of a shop's article. -/
def asin (number : String) : Consultation W .asin (List Book) :=
  results .asin .searchAsin (Text.asinKey number) (p.source.searchAsin (Text.asinKey number)) []
    Provider.worthKeeping .books (fun _ => rfl) eq_of_worthKeeping
    (fun h hne => hne (eq_nil_of_worthKeeping h)) (fun _ h => h)

end Consultation

namespace Inquiry

theorem ask_author (p : Provider W) (id : String) :
    (author id true).ask p = (Consultation.author p id).ask p := by
  rw [ask, Provider.fetchAuthor, Provider.entity_eq]
  rfl

theorem ask_book (p : Provider W) (id : String) : (book id).ask p = (Consultation.book p id).ask p := by
  rw [ask, Provider.fetchBook, Provider.entity_eq]
  rfl

theorem ask_authors (p : Provider W) (query : String) :
    (authors query).ask p = (Consultation.authors p query).ask p := by
  rw [ask, Provider.searchAuthors, Provider.results_eq]
  rfl

theorem ask_books (p : Provider W) (title : String) (author? : Option String) (allEditions : Bool) :
    (books title author? allEditions).ask p =
      (Consultation.books p title author? allEditions).ask p := by
  rw [ask, Provider.searchBooks, Provider.results_eq]
  rfl

theorem ask_isbn (p : Provider W) (number : String) :
    (isbn number).ask p = (Consultation.isbn p number).ask p := by
  rw [ask, Provider.searchIsbn]
  simp only [Provider.results_eq]
  rfl

theorem ask_asin (p : Provider W) (number : String) :
    (asin number).ask p = (Consultation.asin p number).ask p := by
  rw [ask, Provider.searchAsin]
  simp only [Provider.results_eq]
  rfl

/-- Every inquiry with a slot is a consultation, and its call is written down in the journal. -/
theorem exists_consultation (p : Provider W) {q : Inquiry} {slot : Slot} (h : q.slot? = some slot) :
    ∃ (A : Type) (f : Consultation (W × List Question) slot.name A) (call : Call W A),
      f.slot = slot ∧ f.operation = q.operation ∧ f.call = call.noted q.question ∧
        q.ask p.journaled = f.ask p.journaled := by
  cases q with
  | author id useCache =>
    cases useCache with
    | false => exact nomatch h
    | true =>
      obtain rfl := Option.some.inj h
      exact ⟨_, .author p.journaled id, _, rfl, rfl, rfl, ask_author _ _⟩
  | book id =>
    obtain rfl := Option.some.inj h
    exact ⟨_, .book p.journaled id, _, rfl, rfl, rfl, ask_book _ _⟩
  | authors query =>
    obtain rfl := Option.some.inj h
    exact ⟨_, .authors p.journaled query, _, rfl, rfl, rfl, ask_authors _ _⟩
  | books title author? allEditions =>
    obtain rfl := Option.some.inj h
    exact ⟨_, .books p.journaled title author? allEditions, _, rfl, rfl, rfl, ask_books _ _ _ _⟩
  | isbn number =>
    obtain rfl := Option.some.inj h
    exact ⟨_, .isbn p.journaled number, _, rfl, rfl, rfl, ask_isbn _ _⟩
  | asin number =>
    obtain rfl := Option.some.inj h
    exact ⟨_, .asin p.journaled number, _, rfl, rfl, rfl, ask_asin _ _⟩

/-- What the source does not support is refused, and nothing else happens. -/
theorem eval_ask_of_unsupported {p : Provider W} {q : Inquiry}
    (h : p.supports q.operation = false) (s : State W) :
    ∃ a, (q.ask p).eval s = (.ok a, s) ∧ ¬ a.Finds := by
  have hrefused {α : Type} (go : Action W (Except SourceError α))
      (tell : Except SourceError α → Answer) :
      (tell <$> p.ifSupported q.operation go).eval s =
        (.ok (tell (.error (.notSupported p.name q.operation))), s) := by
    rw [Provider.ifSupported, Provider.gate, h]
    rfl
  cases q with
  | author id useCache => exact ⟨_, hrefused _ _, fun h => h⟩
  | book id => exact ⟨_, hrefused _ _, fun h => h⟩
  | authors query => exact ⟨_, hrefused _ _, fun h => h⟩
  | books title author? allEditions => exact ⟨_, hrefused _ _, fun h => h⟩
  | isbn number => exact ⟨_, hrefused _ _, fun h => h⟩
  | asin number => exact ⟨_, hrefused _ _, fun h => h⟩

/-- Only for an author one may ask without the caches. -/
theorem eq_author_of_slot?_eq_none {q : Inquiry} (h : q.slot? = none) : ∃ id, q = .author id false := by
  cases q with
  | author id useCache =>
    cases useCache with
    | true => exact nomatch h
    | false => exact ⟨id, rfl⟩
  | book id => exact nomatch h
  | authors query => exact nomatch h
  | books title author? allEditions => exact nomatch h
  | isbn number => exact nomatch h
  | asin number => exact nomatch h

theorem ask_author_false (p : Provider W) (id : String) :
    (author id false).ask p = Answer.author <$> p.ifSupported .getAuthor
      (Except.map Option.join <$> p.observe .getAuthor (p.source.fetchAuthor id)) := by
  rw [ask, Provider.fetchAuthor, Provider.entity_eq]
  rfl

/-- **The caches have no part in it then.** -/
theorem ignoresCaches_of_slot?_eq_none (p : Provider W) {q : Inquiry} (h : q.slot? = none) :
    (q.ask p).IgnoresCaches := by
  obtain ⟨id, rfl⟩ := eq_author_of_slot?_eq_none h
  rw [ask_author_false]
  refine Action.IgnoresCaches.map ?_ _
  rw [Provider.ifSupported]
  cases p.gate .getAuthor with
  | error e => exact Action.ignoresCaches_pure _
  | ok _ => exact (p.ignoresCaches_observe _ _).map _

/-- **The source is called then.** -/
theorem asked_of_slot?_eq_none {p : Provider W} {q : Inquiry} (h : q.slot? = none)
    (hsupports : p.supports q.operation = true) {s : State (W × List Question)} {limit : TimeLimit}
    (hstart : p.journaled.limit s = .ok limit) :
    ((q.ask p.journaled).eval s).2.asked = s.asked ++ [q.question] ∧
      s.now ≤ ((q.ask p.journaled).eval s).2.now := by
  obtain ⟨id, rfl⟩ := eq_author_of_slot?_eq_none h
  have hgate : p.journaled.gate .getAuthor = .ok () := if_pos hsupports
  rw [ask_author_false, Provider.ifSupported, hgate]
  simp only [Action.eval_map]
  exact Provider.asked_observe .getAuthor p.journaled (.author id) (p.source.fetchAuthor id) hstart

/-- A source that was called to an end ran under a limit. -/
theorem start_of_slot?_eq_none {p : Provider W} {q : Inquiry} (h : q.slot? = none)
    (hsupports : p.supports q.operation = true) {s s' : State W} {a : Answer}
    (hask : (q.ask p).eval s = (.ok a, s')) :
    ∃ limit, p.limit s = .ok limit := by
  obtain ⟨id, rfl⟩ := eq_author_of_slot?_eq_none h
  have hgate : p.gate .getAuthor = .ok () := if_pos hsupports
  rw [ask_author_false, Provider.ifSupported, hgate] at hask
  obtain ⟨r, hrun, rfl⟩ := Action.eval_map_eq_ok.mp hask
  obtain ⟨x, hobserve, rfl⟩ := Action.eval_map_eq_ok.mp hrun
  exact p.start_of_observe .getAuthor hobserve

end Inquiry
end Biblio
