import Biblio.Proofs.Provider.Reply

/-!
# What a provider finds

A provider that is asked for results refuses, has them in its cache, or calls its source.

* `Search` is such a question, and `Search.ask` puts it to a provider.
* `Provider.found` is what becomes of it, read off the state in which the provider is asked.
* `Search.answer_of_ask` — what is passed on is the answer of what was found.
-/

set_option autoImplicit false

namespace Biblio

variable {W T U : Type}

/-- A question for results. -/
structure Search (W T : Type) where
  operation : Operation
  /-- The cache that is looked into first. -/
  shelf : Shelf (List T)
  key : String
  /-- The call of the source. -/
  call : Provider W → Call W (List T)

namespace Search

/-- Searches for authors by name. -/
def authors (query : String) : Search W Author where
  operation := .searchAuthors
  shelf := Shelf.authorSearches
  key := Text.textKey query
  call := fun p => p.source.searchAuthors query

/-- Searches for books by title, and by author if one is given. -/
def books (title : String) (author : Option String) (allEditions : Bool) : Search W Book where
  operation := .searchBooks
  shelf := Shelf.bookSearches
  key := Provider.bookSearchKey title author allEditions
  call := fun p => p.source.searchBooks title author allEditions

/-- Searches for books by the number of an edition. -/
def isbn (isbn : String) : Search W Book where
  operation := .searchIsbn
  shelf := Shelf.isbn
  key := Text.isbnKey isbn
  call := fun p => p.source.searchIsbn (Text.isbnKey isbn)

/-- Searches for books by the number of a shop's article. -/
def asin (asin : String) : Search W Book where
  operation := .searchAsin
  shelf := Shelf.asin
  key := Text.asinKey asin
  call := fun p => p.source.searchAsin (Text.asinKey asin)

/-- Asks a provider. -/
def ask (f : Search W T) (p : Provider W) : Action W (Except SourceError (List T)) :=
  p.ifSupported f.operation
    (p.throughResults f.shelf f.key (p.results f.operation (f.call p)))

end Search

/-- What becomes of a question for results. -/
inductive Found (T : Type) where
  /-- The source does not support the operation; it is not called. -/
  | refused (source : String) (operation : Operation)
  /-- The results are in the cache; the source is not called. -/
  | cached (results : List T)
  /-- The source is called. -/
  | called (ending : Except SourceError (List T))

namespace Found

/-- What is passed on. -/
def answer : Found T → Except SourceError (List T)
  | .refused source operation => .error (.notSupported source operation)
  | .cached results => .ok results
  | .called (.ok results) => .ok results
  | .called (.error e) => if e.isNotFound then .ok [] else .error e

/-- The results that it brings: those of a successful answer, in its order. -/
def results : Found T → List T
  | .cached results => results
  | .called (.ok results) => results
  | _ => []

/-- The same with other results. -/
def map (g : T → U) : Found T → Found U
  | .refused source operation => .refused source operation
  | .cached results => .cached (results.map g)
  | .called ending => .called (ending.map (List.map g))

theorem results_of_answer (r : Found T) : r.answer.toOption.getD [] = r.results := by
  cases r with
  | refused source operation => rfl
  | cached results => rfl
  | called ending =>
    cases ending with
    | ok results => rfl
    | error e =>
      rw [answer]
      split <;> rfl

theorem answer_map (g : T → U) (r : Found T) : (r.map g).answer = r.answer.map (List.map g) := by
  cases r with
  | refused source operation => rfl
  | cached results => rfl
  | called ending =>
    cases ending with
    | ok results => rfl
    | error e =>
      simp only [map, answer, Except.map]
      split <;> rfl

end Found

namespace Provider

/-- What becomes of a question for results to a provider in a state. -/
def found (p : Provider W) (f : Search W T) (s : State W) : Except ClockOverflow (Found T) :=
  if p.supports f.operation then
    match (f.shelf.get (s.cachesOf p)).get s.now f.key with
    | .error e => .error e
    | .ok (some results, _) => .ok (.cached results)
    | .ok (none, _) => (p.ending s (f.call p)).map .called
  else .ok (.refused p.name f.operation)

theorem answer_called_results (r : Except SourceError (List T)) :
    (Found.called r).answer = (outcome r).map (·.getD []) := by
  cases r with
  | ok results => rfl
  | error e =>
    rw [Found.answer, outcome]
    split <;> rfl

theorem results_eq (p : Provider W) (o : Operation) (call : Call W (List T)) :
    p.results o call = Except.map (fun found => found.getD []) <$> p.observe o call := by
  rw [results, map_eq_pure_bind]
  refine bind_congr fun r => ?_
  cases r <;> rfl

/-- Results are asked for by one call of the source. -/
theorem answer_of_results {p : Provider W} {o : Operation} {call : Call W (List T)}
    {s s' : State W} {a : Except SourceError (List T)}
    (h : (p.results o call).eval s = (.ok a, s')) :
    ∃ r, p.ending s call = .ok r ∧ (Found.called r).answer = a := by
  rw [results_eq] at h
  obtain ⟨tracked, hobserve, rfl⟩ := Action.eval_map_eq_ok.mp h
  obtain ⟨r, hending, rfl⟩ := outcome_of_observe hobserve
  exact ⟨r, hending, answer_called_results r⟩

end Provider

/-- **What is passed on is the answer of what was found.** -/
theorem Search.answer_of_ask {f : Search W T} {p : Provider W} {s s' : State W}
    {a : Except SourceError (List T)} (h : (f.ask p).eval s = (.ok a, s')) :
    ∃ r, p.found f s = .ok r ∧ r.answer = a := by
  rw [ask, Provider.ifSupported, Provider.gate] at h
  rw [Provider.found]
  by_cases hsupports : p.supports f.operation = true
  · rw [if_pos hsupports] at h ⊢
    obtain ⟨hit, s₁, hremembered, h⟩ := Provider.answer_of_through h
    obtain ⟨hfind, hsame⟩ := Provider.find_of_remembered hremembered
    cases hget : (f.shelf.get (s.cachesOf p)).get s.now f.key with
    | error e =>
      rw [hget] at hfind
      cases hfind
    | ok found =>
      obtain ⟨hit', cache⟩ := found
      rw [hget] at hfind
      obtain rfl := Except.ok.inj hfind
      cases hit' with
      | some results => exact ⟨.cached results, rfl, h.symm⟩
      | none =>
        obtain ⟨s₂, h⟩ := h
        obtain ⟨r, hending, hanswer⟩ := Provider.answer_of_results h
        rw [p.ending_congr hsame] at hending
        exact ⟨.called r, by simp only [hending, Except.map], hanswer⟩
  · rw [if_neg hsupports] at h ⊢
    exact ⟨_, rfl, Except.ok.inj (congrArg Prod.fst h)⟩

end Biblio
