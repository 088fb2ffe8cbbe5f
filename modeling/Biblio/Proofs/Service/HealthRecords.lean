import Biblio.Gathering.Search
import Biblio.Proofs.Provider.Requests
import Biblio.Proofs.Registry.Changes

/-!
# Whose health is kept track of

A health record is made when something is first noted of a provider.  What is put to all providers is
put to those that were selected, and these are stored, so that no other record is made.

* `Store.HasRecord` says that there is a record.  `Store.AddsHealth` says that nothing has changed but
  health records, that none is gone, and for which identifiers there may be new ones.
* `Action.AddsHealth` says so of an action, and passes from the parts to the whole.
* `ServiceQuestion` lists what can be put to all providers, and `Service.addsHealth_answerTo` is the
  result.
-/

set_option autoImplicit false

namespace Biblio

variable {W A B : Type}

/-! ## Records -/

namespace Store

/-- There is a health record under an identifier. -/
def HasRecord (s : Store) (id : Int) : Prop := ∃ r ∈ s.healths, r.providerId = id

variable {s s' s'' : Store} {id : Int}

theorem hasRecord_iff : s.HasRecord id ↔ (s.healths.find? fun r => r.providerId == id).isSome = true := by
  simp only [HasRecord, List.find?_isSome, beq_iff_eq]

theorem hasRecord_keepHealth (hs : s.healthFault = none) (h : Health) :
    (s.keepHealth h).HasRecord id ↔ s.HasRecord id ∨ id = h.providerId := by
  rw [hasRecord_iff, hasRecord_iff, keepHealth_eq hs]
  by_cases hid : id = h.providerId
  · subst hid
    have hself := find?_putRow_self (HealthRow.write h) s.healths
    refine iff_of_true ?_ (.inr rfl)
    exact Option.isSome_iff_exists.mpr ⟨_, hself⟩
  · have hother := find?_putRow_ne (HealthRow.write h) s.healths hid
    rw [or_iff_left hid]
    exact iff_of_eq (congrArg (fun r => r.isSome = true) hother)

/-- Without a record there is no history. -/
theorem health_of_not_hasRecord (h : ¬ s.HasRecord id) : s.health id = Health.fresh id := by
  rw [hasRecord_iff, Option.not_isSome_iff_eq_none] at h
  rw [health, findHealth?]
  cases s.healthFault with
  | some fault => rw [checked_some]
  | none => rw [checked_none, h, Option.map_none]

/-- Only health records have changed: none is gone, and new ones are made for some identifiers at
most. -/
structure AddsHealth (ids : Int → Prop) (s s' : Store) : Prop where
  rest : s' = { s with healths := s'.healths }
  keeps : ∀ id, s.HasRecord id → s'.HasRecord id
  adds : ∀ id, s'.HasRecord id → s.HasRecord id ∨ ids id

variable {ids ids' : Int → Prop}

theorem AddsHealth.refl (ids : Int → Prop) (s : Store) : AddsHealth ids s s :=
  ⟨rfl, fun _ h => h, fun _ h => .inl h⟩

theorem AddsHealth.trans (h : AddsHealth ids s s') (h' : AddsHealth ids s' s'') :
    AddsHealth ids s s'' where
  rest := by rw [h'.rest, h.rest]
  keeps id hid := h'.keeps id (h.keeps id hid)
  adds id hid := (h'.adds id hid).elim (h.adds id) .inr

theorem AddsHealth.mono (h : AddsHealth ids s s') (hids : ∀ id, ids id → ids' id) :
    AddsHealth ids' s s' :=
  ⟨h.rest, h.keeps, fun id hid => (h.adds id hid).imp_right (hids id)⟩

theorem AddsHealth.definitions_eq (h : AddsHealth ids s s') : s'.definitions = s.definitions := by
  rw [h.rest]

theorem AddsHealth.lastId_eq (h : AddsHealth ids s s') : s'.lastId = s.lastId := by
  rw [h.rest]

theorem addsHealth_keepHealth (s : Store) (h : Health) :
    AddsHealth (fun id => id = h.providerId) s (s.keepHealth h) := by
  have hrest := (sameBut_keepHealth s h).rest
  cases hs : s.healthFault with
  | some fault =>
    have hsame : s.keepHealth h = s := by rw [keepHealth, putHealth, hs, checked_some]
    rw [hsame]
    exact .refl _ s
  | none =>
    exact ⟨hrest, fun id hid => (hasRecord_keepHealth hs h).mpr (.inl hid),
      fun id hid => (hasRecord_keepHealth hs h).mp hid⟩

end Store

/-! ## Actions -/

namespace Action

/-- Nothing changes in the store but health records, and new ones are made for some identifiers at
most. -/
def AddsHealth (ids : Int → Prop) (a : Action W A) : Prop :=
  ∀ s, Store.AddsHealth ids s.store (a.eval s).2.store

variable {ids ids' : Int → Prop} {a : Action W A} {f : A → Action W B}

theorem AddsHealth.of_keepsStore (h : a.KeepsStore) : AddsHealth ids a := by
  intro s
  rw [h s]
  exact .refl ids s.store

theorem addsHealth_pure (x : A) : AddsHealth ids (pure x : Action W A) :=
  .of_keepsStore (keepsStore_pure x)

theorem addsHealth_count (c : Series) : AddsHealth ids (count c : Action W Unit) :=
  .of_keepsStore fun _ => rfl

theorem addsHealth_countResults (operation : String) (n : Nat) :
    AddsHealth ids (countResults operation n : Action W Unit) :=
  .of_keepsStore fun _ => rfl

theorem AddsHealth.bind (ha : a.AddsHealth ids) (hf : ∀ x, (f x).AddsHealth ids) :
    (a >>= f).AddsHealth ids := by
  intro s
  have hfirst := ha s
  rw [eval_bind]
  cases heval : a.eval s with
  | mk r s' =>
    rw [heval] at hfirst
    cases r with
    | error e => exact hfirst
    | ok x => exact hfirst.trans (hf x s')

/-- A first part that only some runs have. -/
theorem AddsHealth.optional {c : Prop} [Decidable c] {first : Action W B} (hfirst : first.AddsHealth ids)
    (ha : a.AddsHealth ids) : (if c then first >>= fun _ => a else a).AddsHealth ids := by
  split
  · exact hfirst.bind fun _ => ha
  · exact ha

/-- What is made of a result does not matter. -/
theorem addsHealth_map (g : A → B) : (g <$> a).AddsHealth ids ↔ a.AddsHealth ids := by
  simp only [AddsHealth, eval_map]

theorem AddsHealth.mono (h : a.AddsHealth ids) (hids : ∀ id, ids id → ids' id) : a.AddsHealth ids' :=
  fun s => (h s).mono hids

end Action

/-! ## Providers -/

namespace Provider

variable (p : Provider W)

/-- A note makes a record of the provider. -/
theorem addsHealth_noting (store : Store) (now : Moment) (outcome : Option Outcome) :
    Store.AddsHealth (fun id => id = p.id) store (p.noting store now outcome) := by
  cases outcome with
  | none => exact .refl _ store
  | some outcome =>
    rw [noting]
    split
    · have hid := store.providerId_noted p.rules.backoff p.id now outcome
      have hkept := store.addsHealth_keepHealth (store.noted p.rules.backoff p.id now outcome)
      rw [hid] at hkept
      exact hkept
    · exact .refl _ store

/-- **Whatever a provider does, it makes no record but its own.** -/
theorem addsHealth_perform (r : ProviderRequest) : (r.perform p).AddsHealth fun id => id = p.id := by
  intro s
  rw [(performed p s r).store]
  exact p.addsHealth_noting s.store _ _

theorem addsHealth_fetchAuthor (id : String) (useCache : Bool) :
    (p.fetchAuthor id useCache).AddsHealth fun id => id = p.id :=
  (Action.addsHealth_map _).mp ((Action.addsHealth_map _).mp
    (p.addsHealth_perform (.inquire (.author id useCache))))

theorem addsHealth_fetchBook (id : String) : (p.fetchBook id).AddsHealth fun id => id = p.id :=
  (Action.addsHealth_map _).mp ((Action.addsHealth_map _).mp (p.addsHealth_perform (.inquire (.book id))))

theorem addsHealth_searchAuthors (query : String) :
    (p.searchAuthors query).AddsHealth fun id => id = p.id :=
  (Action.addsHealth_map _).mp ((Action.addsHealth_map _).mp
    (p.addsHealth_perform (.inquire (.authors query))))

theorem addsHealth_searchBooks (title : String) (author? : Option String) (allEditions : Bool) :
    (p.searchBooks title author? allEditions).AddsHealth fun id => id = p.id :=
  (Action.addsHealth_map _).mp
    ((Action.addsHealth_map _).mp (p.addsHealth_perform (.inquire (.books title author? allEditions))))

theorem addsHealth_searchIsbn (number : String) : (p.searchIsbn number).AddsHealth fun id => id = p.id :=
  (Action.addsHealth_map _).mp ((Action.addsHealth_map _).mp
    (p.addsHealth_perform (.inquire (.isbn number))))

theorem addsHealth_searchAsin (number : String) : (p.searchAsin number).AddsHealth fun id => id = p.id :=
  (Action.addsHealth_map _).mp ((Action.addsHealth_map _).mp
    (p.addsHealth_perform (.inquire (.asin number))))

theorem addsHealth_changedAuthors (since : Moment) :
    (p.changedAuthors since).AddsHealth fun id => id = p.id :=
  (Action.addsHealth_map _).mp (p.addsHealth_perform (.changes since))

end Provider

/-! ## Many providers -/

section Many

variable {P : Type} {ids : Int → Prop}

theorem addsHealth_tryEach {T : Type} [Keyed T] (o : Operation)
    {ask : P → Action W (Except SourceError (Option T))} {ps : List P}
    (hask : ∀ p ∈ ps, (ask p).AddsHealth ids) (f : Failure) : (tryEach o ask ps f).AddsHealth ids := by
  induction ps generalizing f with
  | nil => exact Action.addsHealth_pure _
  | cons p rest ih =>
    have hrest := ih fun q hq => hask q (List.mem_cons_of_mem p hq)
    rw [tryEach]
    refine (Action.addsHealth_count _).optional ((hask p List.mem_cons_self).bind fun r => ?_)
    cases r with
    | error e => exact hrest _
    | ok found =>
      simp only
      split
      · exact Action.addsHealth_pure _
      · exact hrest _

theorem addsHealth_firstAnswer {T : Type} [Keyed T] (category : Category) (o : Operation) (id : String)
    {ask : P → Action W (Except SourceError (Option T))} {ps : List P}
    (hask : ∀ p ∈ ps, (ask p).AddsHealth ids) : (firstAnswer category o id ask ps).AddsHealth ids := by
  rw [firstAnswer]
  split
  · exact Action.addsHealth_pure _
  · refine (addsHealth_tryEach o hask _).bind fun r => ?_
    split <;> exact Action.addsHealth_pure _

theorem addsHealth_askAll {T : Type} {ask : P → Action W (Except SourceError (List T))} {ps : List P}
    (hask : ∀ p ∈ ps, (ask p).AddsHealth ids) : (askAll ask ps).AddsHealth ids := by
  induction ps with
  | nil => exact Action.addsHealth_pure _
  | cons p rest ih =>
    have hrest := ih fun q hq => hask q (List.mem_cons_of_mem p hq)
    rw [askAll]
    exact (hask p List.mem_cons_self).bind fun _ => hrest.bind fun _ => Action.addsHealth_pure _

theorem addsHealth_merged {T : Type} [Keyed T] {ask : P → Action W (Except SourceError (List T))}
    {ps : List P} (hask : ∀ p ∈ ps, (ask p).AddsHealth ids) : (merged ask ps).AddsHealth ids :=
  (addsHealth_askAll hask).bind fun _ => Action.addsHealth_pure _

end Many

namespace Service

theorem addsHealth_counted {ids : Int → Prop} (operation : String) (results : List A) :
    (counted operation results : Action W (List A)).AddsHealth ids :=
  (Action.addsHealth_countResults operation results.length).bind fun _ => Action.addsHealth_pure _

theorem addsHealth_searchText (text : String) (p : Provider W) :
    (searchText text p).AddsHealth fun id => id = p.id := by
  have hif {T : Type} (wanted : Bool) (entity : T → SearchEntity)
      {ask : Action W (Except SourceError (List T))} (hask : ask.AddsHealth fun id => id = p.id) :
      (entitiesIf wanted entity ask).AddsHealth fun id => id = p.id := by
    rw [entitiesIf]
    split
    · refine hask.bind fun r => ?_
      split <;> exact Action.addsHealth_pure _
    · exact Action.addsHealth_pure _
  refine addsHealth_askAll fun ask hask => ?_
  rcases List.mem_pair.mp hask with rfl | rfl
  · exact hif _ _ (p.addsHealth_searchAuthors text)
  · exact hif _ _ (p.addsHealth_searchBooks text none false)

/-! ### Selected providers -/

/-- **A selected provider is stored.** -/
theorem holds_of_select {service : Service W} {purpose : Definition → Bool} {skipSuspended : Bool}
    {s s' : State W} {ps : List (Provider W)}
    (h : service.select purpose skipSuspended s = (.ok ps, s')) {p : Provider W} (hp : p ∈ ps) :
    s.store.Holds p.id := by
  rw [select] at h
  cases hselected : s.selected purpose skipSuspended with
  | error e =>
    rw [hselected] at h
    cases congrArg Prod.fst h
  | ok ds =>
    rw [hselected] at h
    obtain rfl := Except.ok.inj (congrArg Prod.fst h)
    have hrank := (ranks_providers service ds s).subset (List.mem_map_of_mem hp)
    obtain ⟨d, hd, heq⟩ := List.mem_map.mp hrank
    exact ⟨d, State.mem_stored_of_selected hselected hd, congrArg Prod.snd heq⟩

/-- What is put to the providers for a category makes no records but of stored definitions. -/
theorem addsHealth_withUsable (service : Service W) (category : Category)
    {go : List (Provider W) → Action W (Except GatherError A)}
    (hgo : ∀ (ids : Int → Prop) ps, (∀ p ∈ ps, ids p.id) → (go ps).AddsHealth ids) (s : State W) :
    Store.AddsHealth s.store.Holds s.store ((service.withUsable category go).eval s).2.store := by
  have husable : (service.usable category).eval s =
      (.ok (match (service.selectFor category true s).1 with
        | .error e => .error (.registry e)
        | .ok ps => .ok ps), (service.selectFor category true s).2) := by
    rw [usable, Action.eval_modifyGet]
    rcases service.selectFor category true s with ⟨e | ps, s'⟩ <;> rfl
  have hstore : (service.selectFor category true s).2.store = s.store := service.store_select _ _ s
  rw [withUsable, Action.eval_bind_of_ok husable]
  cases hselect : service.selectFor category true s with
  | mk r s' =>
    rw [hselect] at hstore
    cases r with
    | error e =>
      show Store.AddsHealth _ s.store s'.store
      rw [hstore]
      exact .refl _ s.store
    | ok ps =>
      have hgone := hgo s.store.Holds ps (fun p hp => holds_of_select hselect hp) s'
      rw [hstore] at hgone
      exact hgone

end Service

/-! ## Questions to all providers -/

/-- What can be put to all providers. -/
inductive ServiceQuestion where
  | author (id : String) (useCache : Bool)
  | book (id : String)
  | authors (query : String)
  | books (title : String) (author? : Option String) (allEditions : Bool)
  | isbn (number : String)
  | asin (number : String)
  | changes (since : Moment)
  | entities (term : String)
  deriving DecidableEq

namespace Service

variable (service : Service W)

theorem addsHealth_withRequired (category : Category) {go : List (Provider W) → Action W A}
    (hgo : ∀ (ids : Int → Prop) ps, (∀ p ∈ ps, ids p.id) → (go ps).AddsHealth ids) (s : State W) :
    Store.AddsHealth s.store.Holds s.store ((service.withRequired category go).eval s).2.store := by
  refine service.addsHealth_withUsable category (fun ids ps hps => ?_) s
  split
  · exact Action.addsHealth_pure _
  · exact (hgo ids ps hps).bind fun _ => Action.addsHealth_pure _

theorem addsHealth_withCapable (category : Category) (o : Operation)
    {go : List (Provider W) → Action W (List A)}
    (hgo : ∀ (ids : Int → Prop) ps, (∀ p ∈ ps, ids p.id) → (go ps).AddsHealth ids) (s : State W) :
    Store.AddsHealth s.store.Holds s.store ((service.withCapable category o go).eval s).2.store := by
  refine service.addsHealth_withUsable category (fun ids ps hps => ?_) s
  have hcapable : ∀ p ∈ ps.filter (fun p => p.supports o), ids p.id := fun p hp =>
    hps p (List.mem_filter.mp hp).1
  simp only
  split
  · exact Action.addsHealth_pure _
  · exact (hgo ids _ hcapable).bind fun _ => Action.addsHealth_pure _

/-- An action of a provider makes records of no others. -/
theorem addsHealth_of_own {T : Type} {ids : Int → Prop} {ask : Provider W → Action W T}
    {ps : List (Provider W)} (hask : ∀ p, (ask p).AddsHealth fun id => id = p.id)
    (hps : ∀ p ∈ ps, ids p.id) : ∀ p ∈ ps, (ask p).AddsHealth ids := by
  intro p hp
  exact (hask p).mono fun id hid => hid ▸ hps p hp

/-- Puts something to all providers, whatever comes of it. -/
def answerTo : ServiceQuestion → Action W Unit
  | .author id useCache => (fun _ => ()) <$> service.authorInfo id useCache
  | .book id => (fun _ => ()) <$> service.bookInfo id
  | .authors query => (fun _ => ()) <$> service.searchAuthors query
  | .books title author? allEditions => (fun _ => ()) <$> service.searchBooks title author? allEditions
  | .isbn number => (fun _ => ()) <$> service.searchIsbn number
  | .asin number => (fun _ => ()) <$> service.searchAsin number
  | .changes since => (fun _ => ()) <$> service.changedAuthors since
  | .entities term => (fun _ => ()) <$> service.searchEntities term

theorem addsHealth_authorInfo (id : String) (useCache : Bool) (s : State W) :
    Store.AddsHealth s.store.Holds s.store ((service.authorInfo id useCache).eval s).2.store :=
  service.addsHealth_withUsable _ (fun _ _ hps =>
    addsHealth_firstAnswer _ _ _
      (addsHealth_of_own (fun p => p.addsHealth_fetchAuthor id useCache) hps)) s

theorem addsHealth_bookInfo (id : String) (s : State W) :
    Store.AddsHealth s.store.Holds s.store ((service.bookInfo id).eval s).2.store :=
  service.addsHealth_withUsable _ (fun _ _ hps =>
    addsHealth_firstAnswer _ _ _ (addsHealth_of_own (fun p => p.addsHealth_fetchBook id) hps)) s

theorem addsHealth_searchAuthors (query : String) (s : State W) :
    Store.AddsHealth s.store.Holds s.store ((service.searchAuthors query).eval s).2.store :=
  service.addsHealth_withRequired _ (fun _ _ hps =>
    (addsHealth_merged (addsHealth_of_own (fun p => p.addsHealth_searchAuthors query) hps)).bind fun _ =>
      addsHealth_counted _ _) s

theorem addsHealth_searchBooks (title : String) (author? : Option String) (allEditions : Bool)
    (s : State W) : Store.AddsHealth s.store.Holds s.store
      ((service.searchBooks title author? allEditions).eval s).2.store :=
  service.addsHealth_withRequired _ (fun _ _ hps =>
    (addsHealth_merged
      (addsHealth_of_own (fun p => p.addsHealth_searchBooks title author? allEditions) hps)).bind
      fun _ => addsHealth_counted _ _) s

theorem addsHealth_searchIsbn (number : String) (s : State W) :
    Store.AddsHealth s.store.Holds s.store ((service.searchIsbn number).eval s).2.store :=
  service.addsHealth_withCapable _ _ (fun _ _ hps =>
    (addsHealth_merged (addsHealth_of_own (fun p => p.addsHealth_searchIsbn number) hps)).bind fun _ =>
      addsHealth_counted _ _) s

theorem addsHealth_searchAsin (number : String) (s : State W) :
    Store.AddsHealth s.store.Holds s.store ((service.searchAsin number).eval s).2.store :=
  service.addsHealth_withCapable _ _ (fun _ _ hps =>
    (addsHealth_merged (addsHealth_of_own (fun p => p.addsHealth_searchAsin number) hps)).bind fun _ =>
      addsHealth_counted _ _) s

theorem addsHealth_changedAuthors (since : Moment) (s : State W) :
    Store.AddsHealth s.store.Holds s.store ((service.changedAuthors since).eval s).2.store :=
  service.addsHealth_withCapable _ _ (fun _ _ hps =>
    (addsHealth_askAll (addsHealth_of_own (fun p => p.addsHealth_changedAuthors since) hps)).bind fun _ =>
      addsHealth_counted _ _) s

theorem addsHealth_searchEverything (text : String) (s : State W) :
    Store.AddsHealth s.store.Holds s.store ((service.searchEverything text).eval s).2.store :=
  service.addsHealth_withRequired _ (fun _ _ hps =>
    (addsHealth_merged (addsHealth_of_own
      (fun p => (Action.addsHealth_map _).mpr (addsHealth_searchText text p)) hps)).bind fun _ =>
        addsHealth_counted _ _) s

/-- What is made of an answer does not matter. -/
theorem addsHealth_bind_pure {ids : Int → Prop} {a : Action W A} (g : A → B) {s : State W}
    (h : Store.AddsHealth ids s.store (a.eval s).2.store) :
    Store.AddsHealth ids s.store ((do let x ← a; return g x : Action W B).eval s).2.store := by
  rw [Action.eval_bind]
  cases heval : a.eval s with
  | mk r s' =>
    rw [heval] at h
    cases r <;> exact h

theorem addsHealth_searchEntities (term : String) (s : State W) :
    Store.AddsHealth s.store.Holds s.store ((service.searchEntities term).eval s).2.store := by
  rw [searchEntities]
  split
  · exact addsHealth_bind_pure _ (service.addsHealth_searchIsbn _ s)
  · exact addsHealth_bind_pure _ (service.addsHealth_searchAsin _ s)
  · exact addsHealth_bind_pure _ (service.addsHealth_authorInfo _ true s)
  · exact addsHealth_bind_pure _ (service.addsHealth_bookInfo _ s)
  · exact service.addsHealth_searchEverything _ s

/-- **What is put to all providers makes no records but of stored definitions.** -/
theorem addsHealth_answerTo (r : ServiceQuestion) (s : State W) :
    Store.AddsHealth s.store.Holds s.store ((service.answerTo r).eval s).2.store := by
  cases r <;> rw [answerTo, Action.eval_map]
  case author id useCache => exact service.addsHealth_authorInfo id useCache s
  case book id => exact service.addsHealth_bookInfo id s
  case authors query => exact service.addsHealth_searchAuthors query s
  case books title author? allEditions => exact service.addsHealth_searchBooks title author? allEditions s
  case isbn number => exact service.addsHealth_searchIsbn number s
  case asin number => exact service.addsHealth_searchAsin number s
  case changes since => exact service.addsHealth_changedAuthors since s
  case entities term => exact service.addsHealth_searchEntities term s

end Service
end Biblio
