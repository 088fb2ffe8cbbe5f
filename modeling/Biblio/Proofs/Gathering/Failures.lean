import Biblio.Proofs.Gathering.FailsOver
import Biblio.Proofs.Provider.Room
import Biblio.Sample

/-!
# Why there is no answer

Whatever the sources do, a question to the service fails only in the ways that its kind has, as long as
the definitions can be read.

* `Service.selectedFor` are the providers that a question is put to.
* `Single` is what is promised of a question for one entity, `Requires` of a search that needs a provider,
  `Offer` of one that finds nothing without one, and `Mixed` of a search term.
* `stopsIn_tryEach` and `stopsIn_askAll` are the two loops over the providers: they break off only where
  the clock has no room for one that is asked.
* `surfaces_of_readable` — all questions of the service at once.
* `breaksOff_stateOfOne` — with a time limit beyond the end of the clock even a search that never fails
  breaks off.
-/

set_option autoImplicit false

namespace Biblio

variable {W P T : Type}

/-! ## Loops over providers -/

section Loops

variable {kind : State W → Prop} {ps : List P}

theorem stopsIn_tryEach [Keyed T] {ask : P → Action W (Except SourceError (Option T))}
    (o : Operation) (h : ∀ p ∈ ps, (ask p).StopsIn kind) (f : Failure) :
    (tryEach o ask ps f).StopsIn kind := by
  induction ps generalizing f with
  | nil => exact Action.stopsIn_pure _
  | cons p rest ih =>
    have hrest := ih fun q hq => h q (List.mem_cons_of_mem p hq)
    rw [tryEach]
    refine (Action.stopsIn_count _).optional ((h p List.mem_cons_self).bind fun r => ?_)
    cases r with
    | error e => exact hrest _
    | ok found =>
      simp only
      split
      · exact Action.stopsIn_pure _
      · exact hrest _

theorem stopsIn_askAll {ask : P → Action W (Except SourceError (List T))}
    (h : ∀ p ∈ ps, (ask p).StopsIn kind) : (askAll ask ps).StopsIn kind := by
  induction ps with
  | nil => exact Action.stopsIn_pure _
  | cons p rest ih =>
    refine (h p List.mem_cons_self).bind fun found => ?_
    refine (ih fun q hq => h q (List.mem_cons_of_mem p hq)).bind fun others => ?_
    exact Action.stopsIn_pure _

theorem stopsIn_merged [Keyed T] {ask : P → Action W (Except SourceError (List T))}
    (h : ∀ p ∈ ps, (ask p).StopsIn kind) : (merged ask ps).StopsIn kind :=
  (stopsIn_askAll h).bind fun _ => Action.stopsIn_pure _

theorem stopsIn_firstAnswer [Keyed T] {ask : P → Action W (Except SourceError (Option T))}
    (category : Category) (o : Operation) (id : String) (h : ∀ p ∈ ps, (ask p).StopsIn kind) :
    (firstAnswer category o id ask ps).StopsIn kind := by
  unfold firstAnswer
  split
  · exact Action.stopsIn_pure _
  · refine (stopsIn_tryEach o h _).bind fun r => ?_
    cases r <;> exact Action.stopsIn_pure _

/-- The first answer is missing because there is nobody to ask, or all were asked in vain. -/
theorem error_of_firstAnswer [Keyed T] {ask : P → Action W (Except SourceError (Option T))}
    {category : Category} {o : Operation} {id : String} {s : State W} {e : GatherError}
    (hps : ps ≠ []) (h : ((firstAnswer category o id ask ps).eval s).1 = .ok (.error e)) :
    ∃ tried cause, e = .nothingFound category id tried cause := by
  have hempty : ps.isEmpty = false := by simpa using hps
  unfold firstAnswer at h
  simp only [hempty, Bool.false_eq_true, if_false] at h
  obtain ⟨r, s', -, hend⟩ := Action.eval_bind_eq_ok.mp (Prod.ext h rfl)
  cases r with
  | ok t => exact nomatch congrArg Prod.fst hend
  | error f =>
    have he := Except.error.inj (Except.ok.inj (congrArg Prod.fst hend))
    exact ⟨f.tried, f.cause, he.symm⟩

end Loops

namespace Service

variable {service : Service W} {category : Category} {s s₀ : State W}

/-! ## Who is asked -/

/-- The providers that are selected for a category. -/
def selectedFor (service : Service W) (category : Category) (s : State W) : List (Provider W) :=
  match (service.selectFor category true s).1 with
  | .ok ps => ps
  | .error _ => []

/-- As long as the definitions can be read there is a selection. -/
theorem selectFor_of_readable (service : Service W) (category : Category)
    (readable : s.store.definitionFault = none) :
    ∃ s₀, service.selectFor category true s = (.ok (service.selectedFor category s), s₀) := by
  have hall : s.store.all = .ok (s.store.definitions.map DefinitionRow.read) := by
    rw [Store.all, readable, Store.checked_none]
  have hselected : ∃ ds, s.selected (fun d => d.enabledFor category) true = .ok ds := by
    unfold State.selected
    rw [hall]
    exact ⟨_, rfl⟩
  obtain ⟨ds, hds⟩ := hselected
  refine ⟨(service.providers ds s).2, ?_⟩
  simp only [selectedFor, selectFor, select, hds]

/-! ## What is promised -/

/-- A question fails. -/
def Fails (question : Action W (Except GatherError T)) (s : State W) (e : GatherError) : Prop :=
  (question.eval s).1 = .ok (.error e)

/-- A question breaks off only where the clock has no room for a provider that it is put to. -/
def Ends (question : Action W (Except GatherError T)) (s : State W) (asked : List (Provider W)) :
    Prop :=
  ∀ e, (question.eval s).1 = .error e → ∃ p ∈ asked, p.Cramped (question.eval s).2

/-- What is promised of a question for one entity. -/
structure Single (service : Service W) (category : Category) (id : String) (s : State W)
    (question : Action W (Except GatherError T)) : Prop where
  /-- It has nobody to ask exactly if no provider is selected. -/
  nobody_iff : Fails question s (.noProviders category) ↔ service.selectedFor category s = []
  /-- Else it only fails because nothing was found. -/
  only : ∀ e, Fails question s e → e = .noProviders category ∨
    ∃ tried cause, e = .nothingFound category id tried cause
  ends : Ends question s (service.selectedFor category s)

/-- What is promised of a search that needs a provider. -/
structure Requires (service : Service W) (category : Category) (s : State W)
    (question : Action W (Except GatherError T)) : Prop where
  /-- It fails exactly if no provider is selected, and then for this reason. -/
  fails_iff : ∀ e, Fails question s e ↔
    e = .noProviders category ∧ service.selectedFor category s = []
  ends : Ends question s (service.selectedFor category s)

/-- What is promised of a search that is put to those who support it. -/
structure Offer (service : Service W) (category : Category) (o : Operation) (s : State W)
    (question : Action W (Except GatherError (List T))) : Prop where
  /-- It never fails. -/
  never : ∀ e, ¬ Fails question s e
  /-- Without a provider that supports it there are no results. -/
  nobody : (∀ p ∈ service.selectedFor category s, p.supports o = false) →
    (question.eval s).1 = .ok (.ok [])
  ends : Ends question s ((service.selectedFor category s).filter fun p => p.supports o)

end Service

/-- The category of the providers that a search term is put to. -/
def SearchTerm.category : SearchTerm → Category
  | .isbn _ | .asin _ | .bookId _ => .bookSearch
  | .authorId _ => .authorSearch
  | .text _ => .interactiveSearch

/-- A search for a product number gets by without a provider, any other needs one. -/
def SearchTerm.needsProvider : SearchTerm → Prop
  | .isbn _ | .asin _ => False
  | .authorId _ | .bookId _ | .text _ => True

namespace Service

variable {service : Service W} {category : Category} {s s₀ : State W}

/-- What is promised of a search term. -/
structure Mixed (service : Service W) (term : SearchTerm) (s : State W)
    (question : Action W (Except GatherError T)) : Prop where
  /-- It fails exactly if it asks for an author, a book or a free text and no provider is selected
  for that; that nothing was found is no failure. -/
  fails_iff : ∀ e, Fails question s e ↔
    e = .noProviders term.category ∧ term.needsProvider ∧ service.selectedFor term.category s = []
  ends : Ends question s (service.selectedFor term.category s)

/-- What is promised of all questions to the service. -/
structure Surfaces (service : Service W) (s : State W) : Prop where
  author : ∀ id useCache, service.Single .authorSearch id s (service.authorInfo id useCache)
  book : ∀ id, service.Single .bookSearch id s (service.bookInfo id)
  authors : ∀ query, service.Requires .authorSearch s (service.searchAuthors query)
  books : ∀ title author allEditions,
    service.Requires .bookSearch s (service.searchBooks title author allEditions)
  everything : ∀ text, service.Requires .interactiveSearch s (service.searchEverything text)
  isbn : ∀ isbn, service.Offer .bookSearch .searchIsbn s (service.searchIsbn isbn)
  asin : ∀ asin, service.Offer .bookSearch .searchAsin s (service.searchAsin asin)
  changes : ∀ since,
    service.Offer .automaticRefresh .changedAuthors s (service.changedAuthors since)
  entities : ∀ term, service.Mixed (SearchTerm.parse term) s (service.searchEntities term)

/-! ## The three kinds of questions -/

theorem ends_of_stopsIn {question : Action W (Except GatherError T)} {asked : List (Provider W)}
    {a : Action W (Except GatherError T)} (heval : question.eval s = a.eval s₀)
    (h : a.StopsIn fun s => ∃ p ∈ asked, p.Cramped s) : Ends question s asked := by
  intro e he
  rw [heval] at he ⊢
  exact h s₀ e he

/-- What is true of one that is asked is true of some that is asked. -/
theorem stopsIn_some {α : Type} {asked : List (Provider W)} {p : Provider W} (hp : p ∈ asked)
    {a : Action W α} (h : a.StopsIn p.Cramped) :
    a.StopsIn fun s => ∃ p ∈ asked, p.Cramped s :=
  h.mono fun _ hs => ⟨p, hp, hs⟩

/-- **The first answer.** -/
theorem single_withUsable [Keyed T] (readable : s.store.definitionFault = none) (o : Operation)
    (id : String) {ask : Provider W → Action W (Except SourceError (Option T))}
    (hask : ∀ p, (ask p).StopsIn p.Cramped) :
    service.Single category id s (service.withUsable category (firstAnswer category o id ask)) := by
  obtain ⟨s₀, hselect⟩ := service.selectFor_of_readable category readable
  have heval := eval_withUsable_of_ok hselect (firstAnswer category o id ask)
  have hnobody : service.selectedFor category s = [] →
      Fails (service.withUsable category (firstAnswer category o id ask)) s
        (.noProviders category) := by
    intro hnone
    rw [Fails, heval, hnone]
    rfl
  refine ⟨⟨fun h => ?_, hnobody⟩, fun e h => ?_, ?_⟩
  · by_contra hsome
    rw [Fails, heval] at h
    obtain ⟨tried, cause, he⟩ := error_of_firstAnswer hsome h
    simp at he
  · by_cases hnone : service.selectedFor category s = []
    · have hsame := h.symm.trans (hnobody hnone)
      exact .inl (Except.error.inj (Except.ok.inj hsame))
    · rw [Fails, heval] at h
      exact .inr (error_of_firstAnswer hnone h)
  · exact ends_of_stopsIn heval
      (stopsIn_firstAnswer _ _ _ fun p hp => stopsIn_some hp (hask p))

/-- **Searches that need a provider.** -/
theorem requires_withRequired (readable : s.store.definitionFault = none)
    {go : List (Provider W) → Action W T}
    (hgo : ∀ ps, (go ps).StopsIn fun s => ∃ p ∈ ps, p.Cramped s) :
    service.Requires category s (service.withRequired category go) := by
  obtain ⟨s₀, hselect⟩ := service.selectFor_of_readable category readable
  have heval : (service.withRequired category go).eval s = _ :=
    eval_withUsable_of_ok hselect _
  by_cases hnone : service.selectedFor category s = []
  · have hend : (service.withRequired category go).eval s =
        (.ok (.error (.noProviders category)), s₀) := by
      rw [heval, hnone]
      rfl
    refine ⟨fun e => ?_, fun e he => ?_⟩
    · rw [Fails, hend, and_iff_left hnone, Except.ok.injEq, Except.error.injEq, eq_comm]
    · rw [hend] at he
      exact nomatch he
  · have hsome : (service.selectedFor category s).isEmpty = false := by simpa using hnone
    have hend : (service.withRequired category go).eval s =
        (Except.ok <$> go (service.selectedFor category s)).eval s₀ := by
      rw [heval, map_eq_pure_bind]
      simp only [hsome]
      rfl
    refine ⟨fun e => ?_, ends_of_stopsIn hend ((hgo _).map _)⟩
    rw [Fails, hend, Action.eval_map]
    refine iff_of_false (fun h => ?_) fun h => hnone h.2
    cases hrun : ((go (service.selectedFor category s)).eval s₀).1 <;>
      simp [hrun, Except.map] at h

/-- **Searches that are put to those who support them.** -/
theorem offer_withCapable (readable : s.store.definitionFault = none) (o : Operation)
    {go : List (Provider W) → Action W (List T)}
    (hgo : ∀ ps, (go ps).StopsIn fun s => ∃ p ∈ ps, p.Cramped s) :
    service.Offer category o s (service.withCapable category o go) := by
  obtain ⟨s₀, hselect⟩ := service.selectFor_of_readable category readable
  have heval : (service.withCapable category o go).eval s = _ :=
    eval_withUsable_of_ok hselect _
  by_cases hnone : (service.selectedFor category s).filter (fun p => p.supports o) = []
  · have hend : (service.withCapable category o go).eval s = (.ok (.ok []), s₀) := by
      rw [heval]
      simp only [hnone]
      rfl
    refine ⟨fun e he => ?_, fun _ => by rw [hend], fun e he => ?_⟩
    · rw [Fails, hend] at he
      simp at he
    · rw [hend] at he
      exact nomatch he
  · have hsome : ((service.selectedFor category s).filter fun p => p.supports o).isEmpty = false := by
      simpa using hnone
    have hend : (service.withCapable category o go).eval s =
        (Except.ok <$> go ((service.selectedFor category s).filter fun p => p.supports o)).eval s₀ := by
      rw [heval, map_eq_pure_bind]
      simp only [hsome]
      rfl
    refine ⟨fun e he => ?_, fun hall => ?_, ends_of_stopsIn hend ((hgo _).map _)⟩
    · rw [Fails, hend, Action.eval_map] at he
      cases hrun : ((go ((service.selectedFor category s).filter fun p => p.supports o)).eval s₀).1 <;>
        simp [hrun, Except.map] at he
    · refine absurd (List.filter_eq_nil_iff.mpr fun p hp => ?_) hnone
      simp [hall p hp]

/-! ## The questions of the service -/

theorem stopsIn_counted {kind : State W → Prop} (operation : String) (results : List T) :
    (counted (W := W) operation results).StopsIn kind :=
  (Action.stopsIn_of_ok fun _ => ⟨_, rfl⟩).bind fun _ => Action.stopsIn_pure _

/-- Searches whose results are merged and counted. -/
theorem stopsIn_mergedAndCounted [Keyed T] {ask : Provider W → Action W (Except SourceError (List T))}
    (hask : ∀ p, (ask p).StopsIn p.Cramped) (operation : String) (after : List T → List T)
    (ps : List (Provider W)) :
    (merged ask ps >>= fun found => counted operation (after found)).StopsIn
      fun s => ∃ p ∈ ps, p.Cramped s :=
  (stopsIn_merged fun p hp => stopsIn_some hp (hask p)).bind fun _ => stopsIn_counted _ _

theorem stopsIn_entitiesIf {kind : State W → Prop} {ask : Action W (Except SourceError (List T))}
    (wanted : Bool) (entity : T → SearchEntity) (hask : ask.StopsIn kind) :
    (entitiesIf wanted entity ask).StopsIn kind := by
  cases wanted with
  | false => exact Action.stopsIn_pure _
  | true =>
    refine hask.bind fun r => ?_
    cases r <;> exact Action.stopsIn_pure _

theorem stopsIn_searchText (text : String) (p : Provider W) :
    (searchText text p).StopsIn p.Cramped := by
  refine stopsIn_askAll fun ask hask => ?_
  simp only [List.mem_cons, List.not_mem_nil, or_false] at hask
  rcases hask with rfl | rfl
  · exact stopsIn_entitiesIf _ _ (Provider.stopsIn_searchAuthors text)
  · exact stopsIn_entitiesIf _ _ (Provider.stopsIn_searchBooks text none false)

theorem single_authorInfo (readable : s.store.definitionFault = none) (id : String)
    (useCache : Bool) :
    service.Single .authorSearch id s (service.authorInfo id useCache) :=
  single_withUsable readable _ id fun _ => Provider.stopsIn_fetchAuthor id useCache

theorem single_bookInfo (readable : s.store.definitionFault = none) (id : String) :
    service.Single .bookSearch id s (service.bookInfo id) :=
  single_withUsable readable _ id fun _ => Provider.stopsIn_fetchBook id

theorem requires_searchEverything (readable : s.store.definitionFault = none) (text : String) :
    service.Requires .interactiveSearch s (service.searchEverything text) :=
  requires_withRequired readable
    (stopsIn_mergedAndCounted (fun p => (stopsIn_searchText text p).map _) _ _)

theorem offer_searchIsbn (readable : s.store.definitionFault = none) (isbn : String) :
    service.Offer .bookSearch .searchIsbn s (service.searchIsbn isbn) :=
  offer_withCapable readable _
    (stopsIn_mergedAndCounted (fun _ => Provider.stopsIn_searchIsbn isbn) _ fun books => books)

theorem offer_searchAsin (readable : s.store.definitionFault = none) (asin : String) :
    service.Offer .bookSearch .searchAsin s (service.searchAsin asin) :=
  offer_withCapable readable _
    (stopsIn_mergedAndCounted (fun _ => Provider.stopsIn_searchAsin asin) _ fun books => books)

theorem offer_changedAuthors (readable : s.store.definitionFault = none) (since : Moment) :
    service.Offer .automaticRefresh .changedAuthors s (service.changedAuthors since) := by
  refine offer_withCapable readable _ fun ps => ?_
  refine (stopsIn_askAll fun p hp => stopsIn_some hp (Provider.stopsIn_changedAuthors since)).bind ?_
  exact fun _ => stopsIn_counted _ _

/-! ## Search terms -/

/-- A term for a product number never fails. -/
theorem mixed_of_offer {U : Type} {term : SearchTerm} {o : Operation}
    {question : Action W (Except GatherError (List T))} (g : List T → List U)
    (h : service.Offer term.category o s question) (hterm : ¬ term.needsProvider) :
    service.Mixed term s (Except.map g <$> question) := by
  refine ⟨fun e => iff_of_false (fun he => ?_) fun he => hterm he.2.1, fun e he => ?_⟩
  · rw [Fails, Action.eval_map] at he
    cases hrun : (question.eval s).1 with
    | error e' => simp [hrun, Except.map] at he
    | ok r =>
      cases r with
      | ok found => simp [hrun, Except.map] at he
      | error e' => exact h.never e' hrun
  · rw [Action.eval_map] at he ⊢
    cases hrun : (question.eval s).1 with
    | ok r => simp [hrun, Except.map] at he
    | error e' =>
      obtain ⟨p, hp, hcramped⟩ := h.ends e' hrun
      exact ⟨p, (List.mem_filter.mp hp).1, hcramped⟩

/-- A term for one entity fails if there is nobody to ask; else that nothing was found is an empty
list. -/
theorem mixed_of_single {term : SearchTerm} {id : String}
    {question : Action W (Except GatherError T)} (entity : T → SearchEntity)
    (h : service.Single term.category id s question) (hterm : term.needsProvider) :
    service.Mixed term s (single entity <$> question) := by
  refine ⟨fun e => ?_, fun e he => ?_⟩
  · rw [Fails, Action.eval_map, and_iff_right hterm, ← h.nobody_iff]
    constructor
    · intro he
      cases hrun : (question.eval s).1 with
      | error e' => simp [hrun, Except.map] at he
      | ok r =>
        cases r with
        | ok found => simp [hrun, Except.map, single] at he
        | error e' =>
          rcases h.only e' hrun with rfl | ⟨tried, cause, rfl⟩
          · simp only [hrun, Except.map, single, Except.ok.injEq, Except.error.injEq] at he
            exact ⟨he.symm, hrun⟩
          · simp [hrun, Except.map, single] at he
    · rintro ⟨rfl, hfails⟩
      rw [show (question.eval s).1 = _ from hfails]
      rfl
  · rw [Action.eval_map] at he ⊢
    cases hrun : (question.eval s).1 with
    | ok r => simp [hrun, Except.map] at he
    | error e' => exact h.ends e' hrun

/-- A free text fails if there is nobody to ask. -/
theorem mixed_of_requires {term : SearchTerm} {question : Action W (Except GatherError (List T))}
    (h : service.Requires term.category s question) (hterm : term.needsProvider) :
    service.Mixed term s question := by
  refine ⟨fun e => ?_, h.ends⟩
  rw [h.fails_iff, and_iff_right hterm]

theorem mixed_searchEntities (readable : s.store.definitionFault = none) (term : String) :
    service.Mixed (SearchTerm.parse term) s (service.searchEntities term) := by
  unfold searchEntities
  cases SearchTerm.parse term with
  | isbn isbn => exact mixed_of_offer _ (offer_searchIsbn readable isbn) id
  | asin asin => exact mixed_of_offer _ (offer_searchAsin readable asin) id
  | authorId id => exact mixed_of_single _ (single_authorInfo readable id true) trivial
  | bookId id => exact mixed_of_single _ (single_bookInfo readable id) trivial
  | text text => exact mixed_of_requires (requires_searchEverything readable text) trivial

/-- **Why there is no answer.**  As long as the definitions can be read, questions to the service fail
only in the ways of their kinds, whatever the sources do. -/
theorem surfaces_of_readable (service : Service W) {s : State W}
    (readable : s.store.definitionFault = none) : service.Surfaces s where
  author := single_authorInfo readable
  book := single_bookInfo readable
  authors query := requires_withRequired readable
    (stopsIn_mergedAndCounted (fun _ => Provider.stopsIn_searchAuthors query) _ _)
  books title author allEditions := requires_withRequired readable
    (stopsIn_mergedAndCounted
      (fun _ => Provider.stopsIn_searchBooks title author allEditions) _ fun books => books)
  everything := requires_searchEverything readable
  isbn := offer_searchIsbn readable
  asin := offer_searchAsin readable
  changes := offer_changedAuthors readable
  entities := mixed_searchEntities readable

/-- A service whose sources may take longer than the clock goes. -/
def patientService : Service Unit where
  factory := ⟨[("Mock", fun d => .ok (Sample.source d.name))]⟩
  rules := { callTimeout := Span.seconds Span.greatestSeconds }

/-- The row of the one definition. -/
def onlyRow : DefinitionRow := DefinitionRow.write 1 (Definition.new "m" "Mock")

/-- A state with one definition. -/
def stateOfOne : State Unit := { world := (), store := { definitions := [onlyRow], lastId := 1 } }

theorem surfaces_stateOfOne :
    stateOfOne.store.definitionFault = none ∧ patientService.Surfaces stateOfOne :=
  ⟨rfl, surfaces_of_readable patientService rfl⟩

theorem selectFor_stateOfOne : patientService.selectFor .bookSearch true stateOfOne =
    (.ok (patientService.providers [onlyRow.read] stateOfOne).1,
      (patientService.providers [onlyRow.read] stateOfOne).2) := by
  have hsort : stateOfOne.selected (fun d => d.enabledFor .bookSearch) true =
      .ok ([onlyRow.read].mergeSort fun a b => b.priority ≤ a.priority) := by rfl
  rw [List.mergeSort_singleton] at hsort
  simp only [selectFor, select, hsort]

/-- **A search that never fails breaks off** when the clock has no room for the time limit. -/
theorem breaksOff_stateOfOne :
    ((patientService.searchIsbn "9780441013593").eval stateOfOne).1 = .error .beyondEnd ∧
      ¬ ∀ (service : Service Unit) (s : State Unit), s.store.definitionFault = none →
        ∀ isbn, ∃ found, ((service.searchIsbn isbn).eval s).1 = .ok (.ok found) := by
  have hbreaks : ((patientService.searchIsbn "9780441013593").eval stateOfOne).1 =
      .error .beyondEnd := by
    rw [searchIsbn, withCapable, eval_withUsable_of_ok selectFor_stateOfOne]
    rfl
  refine ⟨hbreaks, fun hall => ?_⟩
  obtain ⟨found, hfound⟩ := hall patientService stateOfOne rfl "9780441013593"
  exact nomatch hbreaks.symm.trans hfound

end Service
end Biblio
