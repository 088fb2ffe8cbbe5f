import Biblio.Proofs.Gathering.AllAnswers
import Biblio.Proofs.Gathering.FailsOver
import Biblio.Sample

/-!
# Merged searches

The service puts searches to all providers that are selected for them, and merges the results.

* `MergedSearch` is such a search: whom it is put to, and what becomes of the results.
* `Merges` is what is promised of it, in terms of what the providers find.
* `merges_ask` proves it for any such search, and `merges_of_reached` for the five that the service
  answers.
* `unmerged_stateOfTwo` — with a time limit beyond the end of the clock nothing is merged.
-/

set_option autoImplicit false

namespace Biblio

variable {W T : Type}

/-! ## Searches that merge -/

/-- A search that merges. -/
structure MergedSearch (W T : Type) where
  /-- Whom it is put to. -/
  category : Category
  /-- The providers among them that are asked. -/
  eligible : Provider W → Bool
  /-- What each of these is asked, one question after the other. -/
  parts : Provider W → List (Part W T)
  /-- The answer when there is none of these. -/
  nobody : Except GatherError (List T)
  /-- What becomes of the merged results. -/
  after : List T → List T
  /-- The name in measurements. -/
  label : String

namespace MergedSearch

/-- The questions to the providers, in the order of asking. -/
def questions (f : MergedSearch W T) (ps : List (Provider W)) : List (Part W T) :=
  (ps.filter f.eligible).flatMap f.parts

/-- The answer to what all providers found: the first result of each identity, out of the results of
all in the order of asking. -/
def answer [Keyed T] (f : MergedSearch W T) (rs : List (Found T)) : List T :=
  f.after (firsts (rs.flatMap Found.results))

/-- Asks providers and merges what they find. -/
def gather [Keyed T] (f : MergedSearch W T) (ps : List (Provider W)) : Action W (List T) := do
  let found ← distinct <$> askParts (ps.flatMap f.parts)
  Service.counted f.label (f.after found)

/-- Asks the providers of a service. -/
def ask [Keyed T] (f : MergedSearch W T) (service : Service W) :
    Action W (Except GatherError (List T)) :=
  service.withUsable f.category fun ps => do
    let ps := ps.filter f.eligible
    if ps.isEmpty then return f.nobody
    return .ok (← f.gather ps)

/-- **All answers are merged.** -/
theorem eval_gather [Keyed T] (f : MergedSearch W T) {ps : List (Provider W)} {s s' : State W}
    {rs : List (Found T)} (h : AskedAll (ps.flatMap f.parts) s rs s') :
    (f.gather ps).eval s =
      (.ok (f.answer rs), s'.count (Metrics.results f.label (f.answer rs).length)) := by
  have hfound : (distinct <$> askParts (ps.flatMap f.parts)).eval s =
      (.ok (firsts (rs.flatMap Found.results)), s') := by
    rw [Action.eval_map, h.eval_askParts, ← distinct_eq_firsts]
    rfl
  rw [gather, Action.eval_bind_of_ok hfound]
  rfl

theorem eval_gather_of_error [Keyed T] (f : MergedSearch W T) {ps : List (Provider W)}
    {s s' : State W} {e : ClockOverflow}
    (h : (askParts (ps.flatMap f.parts)).eval s = (.error e, s')) :
    (f.gather ps).eval s = (.error e, s') := by
  have hfound : (distinct <$> askParts (ps.flatMap f.parts)).eval s = (.error e, s') := by
    rw [Action.eval_map, h]
    rfl
  exact Action.eval_bind_of_error hfound

end MergedSearch

/-! ## What is promised -/

/-- What is promised of a search that merges, from a state on. -/
structure Merges [Keyed T] (service : Service W) (f : MergedSearch W T) (s : State W)
    (question : Action W (Except GatherError (List T))) : Prop where
  /-- The providers that are asked are in order. -/
  ordered : ∀ ps s₀, service.selectFor f.category true s = (.ok ps, s₀) →
    (ps.filter f.eligible).Pairwise fun p q => p.definition.Before q.definition
  /-- Without a selection, there is no answer either. -/
  unselected : ∀ e s₀, service.selectFor f.category true s = (.error e, s₀) →
    question.eval s = (.ok (.error (.registry e)), s₀)
  /-- Without a provider, there is none to ask. -/
  nobody : ∀ ps s₀, service.selectFor f.category true s = (.ok ps, s₀) →
    ps.filter f.eligible = [] → question.eval s = (.ok f.nobody, s₀)
  /-- Every question is put to every provider, whatever the others found, unless the clock has no room
  for a span of a provider while this one is asked.  Then all before it were asked. -/
  exhaustive : ∀ ps s₀, service.selectFor f.category true s = (.ok ps, s₀) →
    (∃ rs s₁, AskedAll (f.questions ps) s₀ rs s₁) ∨
    ∃ pre part post rs s₁ e s₂, f.questions ps = pre ++ part :: post ∧ AskedAll pre s₀ rs s₁ ∧
      part.ask.eval s₁ = (.error e, s₂) ∧
      (∃ p ∈ ps.filter f.eligible, part ∈ f.parts p ∧ p.Cramped s₂) ∧ question.eval s = (.error e, s₂)
  /-- The answer is made of what all of them found. -/
  merged : ∀ ps s₀, service.selectFor f.category true s = (.ok ps, s₀) →
    ps.filter f.eligible ≠ [] → ∀ rs s₁, AskedAll (f.questions ps) s₀ rs s₁ →
      question.eval s =
        (.ok (.ok (f.answer rs)), s₁.count (Metrics.results f.label (f.answer rs).length))
  /-- As many results are kept as there are identities with an identifier. -/
  length : ∀ rs : List (Found T), (firsts (rs.flatMap Found.results)).length =
    (((rs.flatMap Found.results).filter (fun a => Named a)).map identity).toFinset.card

namespace MergedSearch

/-- How the question goes on with the providers that are selected. -/
theorem eval_ask [Keyed T] (f : MergedSearch W T) {service : Service W} {s s₀ : State W}
    {ps : List (Provider W)} (h : service.selectFor f.category true s = (.ok ps, s₀)) :
    (f.ask service).eval s =
      if ps.filter f.eligible = [] then (.ok f.nobody, s₀)
      else (Except.ok <$> f.gather (ps.filter f.eligible)).eval s₀ := by
  rw [ask, Service.eval_withUsable_of_ok h]
  by_cases hempty : ps.filter f.eligible = []
  · rw [if_pos hempty, hempty]
    rfl
  · have hsome : (ps.filter f.eligible).isEmpty = false := by
      rwa [← Bool.not_eq_true, List.isEmpty_iff]
    simp only [hsome, if_neg hempty, map_eq_pure_bind]
    rfl

/-- A question to a provider breaks off only where the clock has no room for a span of this provider. -/
def StopsInCramped (f : MergedSearch W T) : Prop := ∀ p, ∀ part ∈ f.parts p, part.ask.StopsIn p.Cramped

/-- **Any search that merges.** -/
theorem merges_ask [Keyed T] (f : MergedSearch W T) (service : Service W) {s : State W}
    (hs : s.store.Ascending) (hstops : f.StopsInCramped) : Merges service f s (f.ask service) where
  ordered _ _ hsel := (Service.selectFor_before hs hsel).filter _
  unselected _ _ hsel := Service.eval_withUsable_of_error hsel _
  nobody ps s₀ hsel hempty := by rw [f.eval_ask hsel, if_pos hempty]
  exhaustive ps s₀ hsel := by
    refine (asked_or_overflow (f.questions ps) s₀).imp_right ?_
    rintro ⟨pre, part, post, rs, s₁, e, s₂, hquestions, hasked, hpart, hbreaks⟩
    have hmem : part ∈ f.questions ps := by
      rw [hquestions]
      exact List.mem_append_right _ List.mem_cons_self
    obtain ⟨p, hp, hparts⟩ := List.mem_flatMap.mp hmem
    have hcramped := hstops p part hparts s₁ e (by rw [hpart])
    rw [hpart] at hcramped
    refine ⟨pre, part, post, rs, s₁, e, s₂, hquestions, hasked, hpart, ⟨p, hp, hparts, hcramped⟩, ?_⟩
    -- a question was asked, so somebody is there to be asked
    have hsome : ps.filter f.eligible ≠ [] := by
      intro hempty
      rw [questions, hempty] at hquestions
      exact absurd hquestions.symm (List.append_ne_nil_of_right_ne_nil _ (List.cons_ne_nil _ _))
    rw [f.eval_ask hsel, if_neg hsome, Action.eval_map, f.eval_gather_of_error hbreaks]
    rfl
  merged ps s₀ hsel hsome rs s₁ hasked := by
    rw [f.eval_ask hsel, if_neg hsome, Action.eval_map, f.eval_gather hasked]
    rfl
  length rs := length_firsts _

/-! ## The searches of the service -/

/-- A search that needs a provider, with one question to each. -/
def required (category : Category) (search : Search W T) (after : List T → List T) :
    MergedSearch W T where
  category := category
  eligible := fun _ => true
  parts := fun p => [Part.search search p]
  nobody := .error (.noProviders category)
  after := after
  label := search.operation.label

/-- A search that is put to those who support it, with one question to each. -/
def capable (category : Category) (search : Search W T) : MergedSearch W T where
  category := category
  eligible := fun p => p.supports search.operation
  parts := fun p => [Part.search search p]
  nobody := .ok []
  after := fun found => found
  label := search.operation.label

/-- A search for authors and books together: each provider is asked for what it is used for and
supports. -/
def text (text : String) : MergedSearch W SearchEntity where
  category := .interactiveSearch
  eligible := fun _ => true
  parts := fun p =>
    (if p.definition.forAuthors && p.supports .searchAuthors then
      [(Part.search (Search.authors text) p).map SearchEntity.author] else []) ++
    if p.definition.forBooks && p.supports .searchBooks then
      [(Part.search (Search.books text none false) p).map SearchEntity.book] else []
  nobody := .error (.noProviders .interactiveSearch)
  after := Relevance.rankEntities text
  label := "search_entity"

variable {service : Service W}

theorem stopsIn_required (category : Category) (search : Search W T) (after : List T → List T)
    (h : ∀ p, (search.ask p).StopsIn p.Cramped) : (required category search after).StopsInCramped := by
  intro p part hpart
  rw [List.mem_singleton.mp hpart]
  exact h p

theorem stopsIn_capable (category : Category) (search : Search W T)
    (h : ∀ p, (search.ask p).StopsIn p.Cramped) : (capable category search).StopsInCramped := by
  intro p part hpart
  rw [List.mem_singleton.mp hpart]
  exact h p

theorem stopsIn_text (text : String) : (MergedSearch.text (W := W) text).StopsInCramped := by
  intro p part hpart
  have hauthors : ((Part.search (Search.authors text) p).map SearchEntity.author).ask.StopsIn
      p.Cramped := (Provider.stopsIn_searchAuthors text).map _
  have hbooks : ((Part.search (Search.books text none false) p).map SearchEntity.book).ask.StopsIn
      p.Cramped := (Provider.stopsIn_searchBooks text none false).map _
  rcases List.mem_append.mp hpart with hpart | hpart
  · split at hpart
    · rwa [List.mem_singleton.mp hpart]
    · cases hpart
  · split at hpart
    · rwa [List.mem_singleton.mp hpart]
    · cases hpart

theorem askParts_search (search : Search W T) (ps : List (Provider W)) :
    askAll search.ask ps = askParts (ps.flatMap fun p => [Part.search search p]) := by
  rw [← List.map_eq_flatMap]
  exact askAll_map search.ask (Part.search search) (fun _ => rfl) ps

theorem ask_required [Keyed T] (category : Category) (search : Search W T)
    (after : List T → List T) : (required category search after).ask service =
      service.withRequired category (fun ps => do
        let found ← merged search.ask ps
        Service.counted search.operation.label (after found)) := by
  rw [ask, Service.withRequired]
  refine congrArg _ (funext fun ps => ?_)
  simp only [required, List.filter_true, gather, merged, askParts_search, map_eq_pure_bind]

theorem ask_capable [Keyed T] (category : Category) (search : Search W T) :
    (capable category search).ask service =
      service.withCapable category search.operation (fun ps => do
        let found ← merged search.ask ps
        Service.counted search.operation.label found) := by
  rw [ask, Service.withCapable]
  refine congrArg _ (funext fun ps => ?_)
  simp only [capable, gather, merged, askParts_search, map_eq_pure_bind]

theorem entitiesIf_true (entity : T → SearchEntity) (ask : Action W (Except SourceError (List T))) :
    Service.entitiesIf true entity ask = Except.map (List.map entity) <$> ask := by
  rw [Service.entitiesIf, if_pos rfl, map_eq_pure_bind]
  refine bind_congr fun found => ?_
  cases found <;> rfl

/-- Results that are not wanted are not asked for. -/
theorem askAll_entitiesIf (wanted : Bool) (entity : T → SearchEntity) (part : Part W T)
    {rest : List (Action W (Except SourceError (List SearchEntity)))}
    {parts : List (Part W SearchEntity)} (h : askAll (fun ask => ask) rest = askParts parts) :
    askAll (fun ask => ask) (Service.entitiesIf wanted entity part.ask :: rest) =
      askParts ((if wanted then [part.map entity] else []) ++ parts) := by
  cases wanted with
  | true =>
    rw [askAll, h, entitiesIf_true]
    rfl
  | false =>
    have hnone : Service.entitiesIf false entity part.ask = pure (.ok []) := rfl
    rw [askAll, h, hnone, pure_bind]
    exact bind_pure (askParts parts)

/-- One provider is asked for authors, then for books. -/
theorem searchText_eq (text : String) (p : Provider W) :
    Service.searchText text p = askParts ((MergedSearch.text text).parts p) := by
  have hnone :
      askAll (fun ask => ask) ([] : List (Action W (Except SourceError (List SearchEntity)))) =
      askParts [] := rfl
  have hbooks := askAll_entitiesIf (p.definition.forBooks && p.supports .searchBooks)
    SearchEntity.book (Part.search (Search.books text none false) p) hnone
  rw [List.append_nil] at hbooks
  exact askAll_entitiesIf (p.definition.forAuthors && p.supports .searchAuthors)
    SearchEntity.author (Part.search (Search.authors text) p) hbooks

theorem ask_text (text : String) :
    (MergedSearch.text text).ask service = service.searchEverything text := by
  rw [ask, Service.searchEverything, Service.withRequired]
  refine congrArg _ (funext fun ps => ?_)
  have hall := askAll_flatMap (Service.searchText text) _ (searchText_eq text) ps
  simp only [MergedSearch.text, List.filter_true, gather, merged, map_eq_pure_bind] at hall ⊢
  rw [hall]

end MergedSearch

namespace Service

/-- **Merged searches.**  Searches for authors, for books, by either product number, and for a free
text ask all providers, by descending priority and ascending identifier, and merge what they find. -/
theorem merges_of_reached (service : Service W) {s : State W} (hs : s.store.Reached) :
    (∀ query, Merges service
      (.required .authorSearch (Search.authors query) (Relevance.rankAuthors query)) s
      (service.searchAuthors query)) ∧
    (∀ title author allEditions, Merges service
      (.required .bookSearch (Search.books title author allEditions) (fun books => books)) s
      (service.searchBooks title author allEditions)) ∧
    (∀ isbn, Merges service (.capable .bookSearch (Search.isbn isbn)) s (service.searchIsbn isbn)) ∧
    (∀ asin, Merges service (.capable .bookSearch (Search.asin asin)) s (service.searchAsin asin)) ∧
    ∀ text, Merges service (.text text) s (service.searchEverything text) := by
  have hmerges {T : Type} [Keyed T] {f : MergedSearch W T} (hstops : f.StopsInCramped) :
      Merges service f s (f.ask service) := f.merges_ask service hs.ascending hstops
  refine ⟨fun query => ?_, fun title author allEditions => ?_, fun isbn => ?_, fun asin => ?_,
    fun text => ?_⟩
  · have h := hmerges (MergedSearch.stopsIn_required .authorSearch (Search.authors query)
      (Relevance.rankAuthors query) fun _ => Provider.stopsIn_searchAuthors query)
    rwa [MergedSearch.ask_required] at h
  · have h := hmerges (MergedSearch.stopsIn_required .bookSearch (Search.books title author allEditions)
      (fun books => books) fun _ => Provider.stopsIn_searchBooks title author allEditions)
    rwa [MergedSearch.ask_required] at h
  · have h := hmerges (MergedSearch.stopsIn_capable .bookSearch (Search.isbn isbn)
      fun _ => Provider.stopsIn_searchIsbn isbn)
    rwa [MergedSearch.ask_capable] at h
  · have h := hmerges (MergedSearch.stopsIn_capable .bookSearch (Search.asin asin)
      fun _ => Provider.stopsIn_searchAsin asin)
    rwa [MergedSearch.ask_capable] at h
  · have h := hmerges (MergedSearch.stopsIn_text text)
    rwa [MergedSearch.ask_text] at h

/-- A source that finds the books "1" and "2", the second of them after one without an identifier, and
cannot be reached for product numbers. -/
def pairSource : Source Unit :=
  { Sample.source "pair" with
    searchBooks := fun title _ _ =>
      .done (.ok [Sample.book "1" title "1", Sample.book "" title "1", Sample.book "2" title "1"])
    searchIsbn := fun _ => .done (.error (.transport "reset")) }

/-- A source that finds the books "2" and "3" by another author. -/
def otherSource : Source Unit :=
  { Sample.source "other" with
    searchBooks := fun title _ _ =>
      .done (.ok [Sample.book "2" title "9", Sample.book "3" title "9"])
    searchIsbn := fun isbn => .done (.ok [Sample.book "4" isbn "9"]) }

/-- A service with both of them. -/
def searchService : Service Unit where
  factory := ⟨[("Mock", fun d => .ok (if d.id = 1 then pairSource else otherSource))]⟩
  rules := { callTimeout := Span.seconds 30 }

/-- The same service with a time limit that the clock has no room for. -/
def endlessSearchService : Service Unit :=
  { searchService with rules := { callTimeout := Span.seconds Span.greatestSeconds } }

/-- The books of both providers are merged, each identifier as the first of them found it.  By product
number the second provider is asked although the first has failed. -/
theorem merges_stateOfTwo :
    (storeOfTwo.Reached ∧
      (∀ query, Merges searchService
        (.required .authorSearch (Search.authors query) (Relevance.rankAuthors query)) stateOfTwo
        (searchService.searchAuthors query)) ∧
      (∀ title author allEditions, Merges searchService
        (.required .bookSearch (Search.books title author allEditions) (fun books => books)) stateOfTwo
        (searchService.searchBooks title author allEditions)) ∧
      (∀ isbn, Merges searchService (.capable .bookSearch (Search.isbn isbn)) stateOfTwo
        (searchService.searchIsbn isbn)) ∧
      (∀ asin, Merges searchService (.capable .bookSearch (Search.asin asin)) stateOfTwo
        (searchService.searchAsin asin)) ∧
      ∀ text, Merges searchService (.text text) stateOfTwo (searchService.searchEverything text)) ∧
    ((searchService.searchBooks "Dune" none false).eval stateOfTwo).1 =
      .ok (.ok [Sample.book "1" "Dune" "1", Sample.book "2" "Dune" "1", Sample.book "3" "Dune" "9"]) ∧
    ((searchService.searchIsbn "9780441013593").eval stateOfTwo).1 =
      .ok (.ok [Sample.book "4" "9780441013593" "9"]) := by
  have hmerges := merges_of_reached searchService (s := stateOfTwo) reached_storeOfTwo
  have hselect := selectFor_stateOfTwo searchService .bookSearch (.inr rfl)
  have hbooks : ∃ p q s₀, searchService.providers definitionsOfTwo stateOfTwo = ([p, q], s₀) ∧
      ∃ s₁, AskedAll [Part.search (Search.books "Dune" none false) p,
        Part.search (Search.books "Dune" none false) q] s₀
        [.called (.ok [Sample.book "1" "Dune" "1", Sample.book "" "Dune" "1",
          Sample.book "2" "Dune" "1"]),
        .called (.ok [Sample.book "2" "Dune" "9", Sample.book "3" "Dune" "9"])] s₁ :=
    ⟨_, _, _, rfl, _, .cons rfl rfl (.cons rfl rfl (.nil _))⟩
  have hisbn : ∃ p q s₀, searchService.providers definitionsOfTwo stateOfTwo = ([p, q], s₀) ∧
      p.supports .searchIsbn = true ∧ q.supports .searchIsbn = true ∧
      ∃ s₁, AskedAll [Part.search (Search.isbn "9780441013593") p,
        Part.search (Search.isbn "9780441013593") q] s₀
        [.called (.error (.transport "reset")),
        .called (.ok [Sample.book "4" "9780441013593" "9"])] s₁ :=
    ⟨_, _, _, rfl, rfl, rfl, _, .cons rfl rfl (.cons rfl rfl (.nil _))⟩
  refine ⟨⟨reached_storeOfTwo, hmerges⟩, ?_, ?_⟩
  · obtain ⟨p, q, s₀, hproviders, s₁, hasked⟩ := hbooks
    rw [hproviders] at hselect
    rw [(hmerges.2.1 "Dune" none false).merged [p, q] s₀ hselect (List.cons_ne_nil _ _) _ s₁ hasked]
    rfl
  · obtain ⟨p, q, s₀, hproviders, hp, hq, s₁, hasked⟩ := hisbn
    rw [hproviders] at hselect
    have hboth : [p, q].filter (MergedSearch.capable Category.bookSearch
        (Search.isbn "9780441013593")).eligible = [p, q] := by
      simp only [MergedSearch.capable, Search.isbn, List.filter_cons, hp, hq, if_true, List.filter_nil]
    have hquestions :
        (MergedSearch.capable .bookSearch (Search.isbn "9780441013593")).questions [p, q] =
          [Part.search (Search.isbn "9780441013593") p,
            Part.search (Search.isbn "9780441013593") q] := by
      rw [MergedSearch.questions, hboth]
      rfl
    rw [← hquestions] at hasked
    have hsome := hboth.trans_ne (List.cons_ne_nil p [q])
    rw [(hmerges.2.2.1 "9780441013593").merged [p, q] s₀ hselect hsome _ s₁ hasked]
    rfl

/-- **With a time limit beyond the end of the clock nothing is merged**, although both providers find
books. -/
theorem unmerged_stateOfTwo :
    ((endlessSearchService.searchBooks "Dune" none false).eval stateOfTwo).1 = .error .beyondEnd ∧
      ¬ ∀ (service : Service Unit) (s : State Unit), s.store.Reached → ∀ title author allEditions,
        ∃ answer, ((service.searchBooks title author allEditions).eval s).1 = .ok answer := by
  have hbreaks : ((endlessSearchService.searchBooks "Dune" none false).eval stateOfTwo).1 =
      .error .beyondEnd := by
    rw [searchBooks, withRequired, eval_withUsable_of_ok (selectFor_stateOfTwo _ _ (.inr rfl))]
    rfl
  refine ⟨hbreaks, fun hall => ?_⟩
  obtain ⟨answer, hanswer⟩ := hall endlessSearchService stateOfTwo reached_storeOfTwo "Dune" none false
  exact nomatch hbreaks.symm.trans hanswer

end Service
end Biblio
