import Biblio.Gathering.Search
import Biblio.Proofs.Gathering.FirstAnswer
import Biblio.Proofs.Provider.Room
import Biblio.Proofs.Registry.Order
import Biblio.Sample

/-!
# Authors and books by identifier

`Service.authorInfo` and `Service.bookInfo` select providers and take the first answer.

* `FailsOver` is what is promised of such a question, in terms of the replies of the providers.
* `failsOver_withUsable` proves it for any question, and `failsOver_of_reached` for the two that the
  service answers.
* `unanswered_stateOfTwo` — with a time limit beyond the end of the clock there is no answer, not even
  that nothing was found.
-/

set_option autoImplicit false

namespace Biblio

variable {W T : Type}

/-- What is promised of a question for an entity, from a state on. -/
structure FailsOver [Keyed T] (service : Service W) (category : Category) (f : Fetch W T)
    (id : String) (s : State W) (question : Action W (Except GatherError T)) : Prop where
  /-- The providers that are asked are in order. -/
  ordered : ∀ ps s₀, service.selectFor category true s = (.ok ps, s₀) →
    ps.Pairwise fun p q => p.definition.Before q.definition
  /-- Without a selection, there is no answer either. -/
  unselected : ∀ e s₀, service.selectFor category true s = (.error e, s₀) →
    question.eval s = (.ok (.error (.registry e)), s₀)
  /-- Without a provider, there is none to ask. -/
  nobody : ∀ s₀, service.selectFor category true s = (.ok [], s₀) →
    question.eval s = (.ok (.error (.noProviders category)), s₀)
  /-- The entity of the first provider that brings one is the answer.  The state is the one after
  this provider was asked: those that come later are not. -/
  found : ∀ pre p post s₀, service.selectFor category true s = (.ok (pre ++ p :: post), s₀) →
    ∀ rs r t s₁ s₂, Asked f 0 pre s₀ rs s₁ → InVain rs → Replies f pre.length p s₁ r s₂ →
      r.entity? = some t → question.eval s = (.ok (.ok t), s₂)
  /-- If none brings one, all were tried, and the last failure among the replies is the cause. -/
  nothing : ∀ ps s₀, service.selectFor category true s = (.ok ps, s₀) → ps ≠ [] →
    ∀ rs s₁, Asked f 0 ps s₀ rs s₁ → InVain rs →
      question.eval s =
        (.ok (.error (.nothingFound category id ps.length (lastFailure rs))), s₁)
  /-- There is no other way for it to end, but that the clock has no room for a span of a provider while
  this one is asked. -/
  exhaustive : ∀ ps s₀, service.selectFor category true s = (.ok ps, s₀) → ps = [] ∨
    (∃ pre p post rs r t s₁ s₂, ps = pre ++ p :: post ∧ Asked f 0 pre s₀ rs s₁ ∧ InVain rs ∧
      Replies f pre.length p s₁ r s₂ ∧ r.entity? = some t) ∨
    (∃ rs s₁, Asked f 0 ps s₀ rs s₁ ∧ InVain rs) ∨
    ∃ pre p post rs s₁ e s₂, ps = pre ++ p :: post ∧ Asked f 0 pre s₀ rs s₁ ∧ InVain rs ∧
      (f.ask p).eval (s₁.failover f.operation pre.length) = (.error e, s₂) ∧ p.Cramped s₂ ∧
      question.eval s = (.error e, s₂)

namespace Service

theorem eval_withUsable_of_ok {service : Service W} {category : Category} {s s₀ : State W}
    {ps : List (Provider W)} (h : service.selectFor category true s = (.ok ps, s₀))
    (go : List (Provider W) → Action W (Except GatherError T)) :
    (service.withUsable category go).eval s = (go ps).eval s₀ := by
  have husable : (service.usable category).eval s = (.ok (.ok ps), s₀) := by
    rw [usable, Action.eval_modifyGet]
    simp only [h]
  exact Action.eval_bind_of_ok husable

theorem eval_withUsable_of_error {service : Service W} {category : Category} {s s₀ : State W}
    {e : RegistryError} (h : service.selectFor category true s = (.error e, s₀))
    (go : List (Provider W) → Action W (Except GatherError T)) :
    (service.withUsable category go).eval s = (.ok (.error (.registry e)), s₀) := by
  have husable : (service.usable category).eval s = (.ok (.error (.registry e)), s₀) := by
    rw [usable, Action.eval_modifyGet]
    simp only [h]
  exact Action.eval_bind_of_ok husable

/-- **Any question that takes the first answer.** -/
theorem failsOver_withUsable [Keyed T] (service : Service W) (category : Category) (f : Fetch W T)
    (id : String) {s : State W} (hs : s.store.Ascending) (hstops : ∀ p, (f.ask p).StopsIn p.Cramped) :
    FailsOver service category f id s
      (service.withUsable category (firstAnswer category f.operation id f.ask)) where
  ordered _ _ hsel := selectFor_before hs hsel
  unselected _ _ hsel := eval_withUsable_of_error hsel _
  nobody s₀ hsel := by
    rw [eval_withUsable_of_ok hsel, eval_firstAnswer_nil]
  found pre p post s₀ hsel rs r t s₁ s₂ hasked hvain hp ht := by
    rw [eval_withUsable_of_ok hsel]
    exact eval_firstAnswer_of_found category id hasked hvain hp ht
  nothing ps s₀ hsel hps rs s₁ hasked hvain := by
    rw [eval_withUsable_of_ok hsel]
    exact eval_firstAnswer_of_inVain category id hps hasked hvain
  exhaustive ps s₀ hsel := by
    simp only [eval_withUsable_of_ok hsel]
    rcases asked_cases f 0 ps s₀ with hfound | hnothing |
      ⟨pre, p, post, rs, s₁, e, s₂, rfl, hasked, hvain, hp⟩
    · simp only [Nat.zero_add] at hfound
      exact .inr (.inl hfound)
    · exact .inr (.inr (.inl hnothing))
    · rw [Nat.zero_add] at hp
      have hcramped := hstops p (s₁.failover f.operation pre.length) e (by rw [hp])
      rw [hp] at hcramped
      exact .inr (.inr (.inr ⟨pre, p, post, rs, s₁, e, s₂, rfl, hasked, hvain, hp, hcramped,
        eval_firstAnswer_of_error category id hasked hvain hp⟩))

/-- **Failover.**  Authors and books by identifier come from the first provider, by descending
priority and ascending identifier, that brings an entity. -/
theorem failsOver_of_reached (service : Service W) {s : State W} (hs : s.store.Reached)
    (id : String) :
    (∀ useCache, FailsOver service .authorSearch (Fetch.author id useCache) id s
      (service.authorInfo id useCache)) ∧
    FailsOver service .bookSearch (Fetch.book id) id s (service.bookInfo id) := by
  refine ⟨fun useCache => ?_, ?_⟩
  · have hask : (Fetch.author id useCache).ask = fun p : Provider W => p.fetchAuthor id useCache :=
      funext (Fetch.ask_author id useCache)
    have h := failsOver_withUsable service .authorSearch (Fetch.author id useCache) id hs.ascending
      fun p => by
        rw [hask]
        exact Provider.stopsIn_fetchAuthor id useCache
    rw [hask] at h
    exact h
  · exact failsOver_withUsable service .bookSearch (Fetch.book id) id hs.ascending fun _ =>
      Provider.stopsIn_fetchBook id

/-- A source that cannot be reached. -/
def brokenSource : Source Unit :=
  { Sample.source "broken" with
    fetchAuthor := fun _ => .done (.error (.transport "reset"))
    fetchBook := fun _ => .done (.error (.transport "reset")) }

/-- A source that has every author and no book. -/
def authorSource : Source Unit :=
  { Sample.source "authors" with
    fetchAuthor := fun id => .done (.ok (some (Sample.author id "Ann")))
    fetchBook := fun id => .done (.error (.notFound id)) }

/-- A service whose first source is broken. -/
def promptService : Service Unit where
  factory := ⟨[("Mock", fun d => .ok (if d.id = 1 then brokenSource else authorSource))]⟩
  rules := { callTimeout := Span.seconds 30 }

/-- The same service with a time limit that the clock has no room for. -/
def endlessService : Service Unit :=
  { promptService with rules := { callTimeout := Span.seconds Span.greatestSeconds } }

/-- A store with two definitions of the same priority. -/
def storeOfTwo : Store where
  definitions :=
    [DefinitionRow.write 1 (Definition.new "first" "Mock"),
      DefinitionRow.write 2 (Definition.new "second" "Mock")]
  lastId := 2

/-- A state with this store. -/
def stateOfTwo : State Unit := { world := (), store := storeOfTwo }

theorem reached_storeOfTwo : storeOfTwo.Reached := by
  have hnone : Store.Reached {} := .empty rfl
  have hfirst : Store.Reached
      { definitions := [DefinitionRow.write 1 (Definition.new "first" "Mock")], lastId := 1 } :=
    hnone.insert rfl
  exact hfirst.insert rfl

/-- The definitions in this store. -/
def definitionsOfTwo : List Definition := storeOfTwo.definitions.map DefinitionRow.read

/-- Both definitions are selected, in the order of the store. -/
theorem selectFor_stateOfTwo (service : Service Unit) (category : Category)
    (h : category = .authorSearch ∨ category = .bookSearch) :
    service.selectFor category true stateOfTwo =
      (.ok (service.providers definitionsOfTwo stateOfTwo).1,
        (service.providers definitionsOfTwo stateOfTwo).2) := by
  have hselected : stateOfTwo.selected (fun d => d.enabledFor category) true =
      .ok (definitionsOfTwo.mergeSort byPriority) := by
    rcases h with rfl | rfl <;> rfl
  have hsorted : definitionsOfTwo.Pairwise fun a b => byPriority a b = true := by decide
  rw [List.mergeSort_of_pairwise hsorted] at hselected
  simp only [selectFor, select, hselected]

/-- The author is found by the second provider after the first has failed.  The book is not found, and the
failure of the first is the cause. -/
theorem failsOver_stateOfTwo :
    storeOfTwo.Reached ∧
      (∀ useCache, FailsOver promptService .authorSearch (Fetch.author "OL1A" useCache) "OL1A"
        stateOfTwo (promptService.authorInfo "OL1A" useCache)) ∧
      FailsOver promptService .bookSearch (Fetch.book "OL1A") "OL1A" stateOfTwo
        (promptService.bookInfo "OL1A") ∧
      ((promptService.authorInfo "OL1A" true).eval stateOfTwo).1 =
        .ok (.ok (Sample.author "OL1A" "Ann")) ∧
      ((promptService.bookInfo "OL1A").eval stateOfTwo).1 =
        .ok (.error (.nothingFound .bookSearch "OL1A" 2 (some (.transport "reset")))) := by
  have hfails := failsOver_of_reached promptService (s := stateOfTwo) reached_storeOfTwo "OL1A"
  have hauthors : ∃ p q s₀ s₁, promptService.providers definitionsOfTwo stateOfTwo = ([p, q], s₀) ∧
      Replies (Fetch.author "OL1A" true) 0 p s₀ (.called (.error (.transport "reset"))) s₁ ∧
      ∃ s₂, Replies (Fetch.author "OL1A" true) 1 q s₁
        (.called (.ok (some (Sample.author "OL1A" "Ann")))) s₂ := by
    refine ⟨_, _, _, _, rfl, ⟨rfl, rfl⟩, ?_⟩
    exact ⟨_, rfl, rfl⟩
  have hbooks : ∃ p q s₀ s₁, promptService.providers definitionsOfTwo stateOfTwo = ([p, q], s₀) ∧
      Replies (Fetch.book "OL1A") 0 p s₀ (.called (.error (.transport "reset"))) s₁ ∧
      ∃ s₂, Replies (Fetch.book "OL1A") 1 q s₁ (.called (.error (.notFound "OL1A"))) s₂ := by
    refine ⟨_, _, _, _, rfl, ⟨rfl, rfl⟩, ?_⟩
    exact ⟨_, rfl, rfl⟩
  refine ⟨reached_storeOfTwo, hfails.1, hfails.2, ?_, ?_⟩
  · obtain ⟨p, q, s₀, s₁, hproviders, hp, s₂, hq⟩ := hauthors
    have hselect := selectFor_stateOfTwo promptService .authorSearch (.inl rfl)
    rw [hproviders] at hselect
    have hvain : InVain [Reply.called (T := Author) (.error (.transport "reset"))] := by
      simp [InVain, Reply.entity?]
    rw [(hfails.1 true).found [p] q [] s₀ hselect _ _ _ s₁ s₂ (.cons hp (.nil 1 s₁)) hvain hq rfl]
  · obtain ⟨p, q, s₀, s₁, hproviders, hp, s₂, hq⟩ := hbooks
    have hselect := selectFor_stateOfTwo promptService .bookSearch (.inr rfl)
    rw [hproviders] at hselect
    have hvain : InVain [Reply.called (T := BookInfo) (.error (.transport "reset")),
        .called (.error (.notFound "OL1A"))] := by
      simp [InVain, Reply.entity?]
    rw [hfails.2.nothing [p, q] s₀ hselect (List.cons_ne_nil _ _) _ s₂
      (.cons hp (.cons hq (.nil 2 s₂))) hvain]
    rfl

/-- **With a time limit beyond the end of the clock there is no answer**, although the second provider
has the author. -/
theorem unanswered_stateOfTwo :
    ((endlessService.authorInfo "OL1A" true).eval stateOfTwo).1 = .error .beyondEnd ∧
      ¬ ∀ (service : Service Unit) (s : State Unit), s.store.Reached → ∀ id useCache,
        ∃ answer, ((service.authorInfo id useCache).eval s).1 = .ok answer := by
  have hbreaks : ((endlessService.authorInfo "OL1A" true).eval stateOfTwo).1 = .error .beyondEnd := by
    rw [authorInfo, eval_withUsable_of_ok (selectFor_stateOfTwo _ _ (.inl rfl))]
    rfl
  refine ⟨hbreaks, fun hall => ?_⟩
  obtain ⟨answer, hanswer⟩ := hall endlessService stateOfTwo reached_storeOfTwo "OL1A" true
  exact nomatch hbreaks.symm.trans hanswer

end Service
end Biblio
