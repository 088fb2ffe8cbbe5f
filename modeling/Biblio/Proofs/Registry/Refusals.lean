import Biblio.Proofs.Registry.Seeding
import Biblio.Proofs.Registry.Instances

/-!
# Refused changes leave no trace

A creation, an update or a removal passes several checks, of which some build a source, before it touches
the definitions, the health records and the providers in use.  It is made as a whole, and to one
definition, or not at all.

* `Service.refuses` says whether a change is refused, and `refuses_iff` when exactly.
* `Service.withoutRefused` strikes the refused changes out of a run.  `perform_of_refuses` is the step
  and `stateAfterCalls_withoutRefused` the run: nothing that comes after can tell whether they were ever
  asked for.
* `State.Touches` are the changes of one definition: what is stored under every other identifier, and who
  is in use for it, stays as it is.  `touches_create`, `touches_update` and `touches_delete` say so of
  changes that are made.
* `traceless_of_registryRun` puts this together for every state of every run.
-/

set_option autoImplicit false

namespace Biblio

variable {W : Type}

/-! ## Changes of one definition -/

namespace Store

/-- Two stores that differ in what stands under one identifier at most: all other definitions and all
other health records are the same rows in the same order. -/
structure KeepsBut (id : Int) (s s' : Store) : Prop where
  definitions : s'.definitions.filter (fun r => r.id != id) =
    s.definitions.filter (fun r => r.id != id)
  healths : s'.healths.filter (fun r => r.providerId != id) =
    s.healths.filter (fun r => r.providerId != id)
  definitionFault : s'.definitionFault = s.definitionFault
  healthFault : s'.healthFault = s.healthFault
  removalFault : s'.removalFault = s.removalFault

variable {s s' : Store} {d d' : Definition} {id other : Int}

theorem keepsBut_insert (ok : s.insert d = .ok (d', s')) : KeepsBut d'.id s s' := by
  obtain ⟨-, rfl, rfl⟩ := insert_eq_ok.mp ok
  refine ⟨?_, rfl, rfl, rfl, rfl⟩
  have hnew : [DefinitionRow.write (s.lastId + 1) d].filter (fun r => r.id != s.lastId + 1) = [] :=
    List.filter_cons_of_neg (by simp [DefinitionRow.write])
  rw [List.filter_append, hnew, List.append_nil]

theorem keepsBut_update (ok : s.update d = .ok (d', s')) : KeepsBut d.id s s' := by
  obtain ⟨-, -, -, rfl⟩ := update_eq_ok.mp ok
  refine ⟨?_, rfl, rfl, rfl, rfl⟩
  show (s.definitions.map _).filter _ = _
  induction s.definitions with
  | nil => rfl
  | cons r rows ih =>
    rw [List.map_cons]
    by_cases hr : r.id = d.id
    · rw [if_pos hr, List.filter_cons_of_neg (by simp [DefinitionRow.write]),
        List.filter_cons_of_neg (by simp [hr]), ih]
    · rw [if_neg hr, List.filter_cons, List.filter_cons, ih]

theorem keepsBut_delete (ok : s.delete id = .ok s') : KeepsBut id s s' := by
  obtain ⟨-, -, -, rfl⟩ := delete_eq_ok.mp ok
  exact ⟨by simp, by simp, rfl, rfl, rfl⟩

theorem KeepsBut.find?_eq (h : KeepsBut id s s') (hne : other ≠ id) :
    s'.find? other = s.find? other := by
  have hrows := congrArg (List.find? fun r => r.id == other) h.definitions
  simp only [find?_filter_ne DefinitionRow.id, if_neg hne] at hrows
  rw [find?, find?, h.definitionFault, hrows]

theorem KeepsBut.health_eq (h : KeepsBut id s s') (hne : other ≠ id) :
    s'.health other = s.health other := by
  have hrows := congrArg (List.find? fun r => r.providerId == other) h.healths
  simp only [find?_filter_ne HealthRow.providerId, if_neg hne] at hrows
  rw [health, health, findHealth?, findHealth?, h.healthFault, hrows]

end Store

namespace State

/-- Two states that differ in one definition at most, in its health record, and in who is in use for
it. -/
structure Touches (id : Int) (s s' : State W) : Prop where
  store : Store.KeepsBut id s.store s'.store
  /-- Every other definition is found as before, with its health record. -/
  found : ∀ other ≠ id, s'.find other = s.find other
  /-- Everybody else who is in use stays so. -/
  instances : ∀ other ≠ id, s'.instance? other = s.instance? other
  /-- The clocks, the sources, the caches and the metrics stay as they are. -/
  rest : s' = { s with store := s'.store, instances := s'.instances }

variable {s s' : State W} {id other : Int}

theorem find_eq_of_keepsBut (h : Store.KeepsBut id s.store s'.store) (hne : other ≠ id) :
    s'.find other = s.find other := by
  rw [find, find, h.find?_eq hne]
  split
  · rfl
  · rfl
  · next d hfound =>
    have hid : d.id = other := by
      obtain ⟨-, hmap⟩ := Store.checked_eq_ok.mp hfound
      obtain ⟨r, hr, rfl⟩ := Option.map_eq_some_iff.mp (Except.ok.inj hmap)
      have hkey := List.find?_some hr
      exact eq_of_beq hkey
    rw [withHealth, withHealth, h.health_eq (hid.symm ▸ hne)]

theorem touches_store {store : Store} (h : Store.KeepsBut id s.store store) :
    s.Touches id { s with store := store } where
  store := h
  found _ hne := find_eq_of_keepsBut h hne
  instances _ _ := rfl
  rest := rfl

theorem touches_dismiss {store : Store} (h : Store.KeepsBut id s.store store) :
    s.Touches id (({ s with store := store } : State W).dismiss id) where
  store := h
  found _ hne := find_eq_of_keepsBut h hne
  instances _ hne := instance?_dismiss_ne _ hne
  rest := rfl

end State

namespace Service

variable {service : Service W} {s s' : State W} {d d' : Definition} {id : Int}

/-- **A creation** adds a definition under an identifier that nobody had. -/
theorem touches_create (hs : s.store.Ascending) (h : service.create d s = (.ok d', s')) :
    ¬ s.store.Holds d'.id ∧ s.Touches d'.id s' ∧ s'.store.healths = s.store.healths ∧
      s'.store.lastId = d'.id := by
  rcases create_cases service d s with ⟨e, hrefused⟩ | ⟨source, stored, store, -, ok, hmade⟩
  · cases congrArg Prod.fst (hrefused.symm.trans h)
  · obtain ⟨hd', rfl⟩ := Prod.mk.inj (hmade.symm.trans h)
    obtain rfl := Except.ok.inj hd'
    have hkeeps := Store.keepsBut_insert ok
    obtain ⟨-, rfl, rfl⟩ := Store.insert_eq_ok.mp ok
    refine ⟨?_, State.touches_store hkeeps, rfl, rfl⟩
    rw [Store.holds_iff]
    rintro ⟨r, hr, hid⟩
    exact absurd (hs.le_lastId r hr) (Int.not_le.mpr (hid ▸ Int.lt_succ s.store.lastId))

/-- **An update** changes the definition under its identifier, and no health record. -/
theorem touches_update (h : service.update d s = (.ok d', s')) :
    d'.id = d.id ∧ s.store.Holds d.id ∧ s.Touches d.id s' ∧ s'.store.healths = s.store.healths ∧
      s'.store.lastId = s.store.lastId := by
  rcases update_cases service d s with ⟨e, hrefused⟩ | ⟨source, store, -, ok, hmade⟩
  · cases congrArg Prod.fst (hrefused.symm.trans h)
  · obtain ⟨hd', rfl⟩ := Prod.mk.inj (hmade.symm.trans h)
    obtain rfl := Except.ok.inj hd'
    have hkeeps : Store.KeepsBut d.id s.store store := Store.keepsBut_update ok
    obtain ⟨-, hfound, -, rfl⟩ := Store.update_eq_ok.mp ok
    exact ⟨rfl, Store.holds_iff.mpr hfound, State.touches_dismiss hkeeps, rfl, rfl⟩

/-- **A removal** takes away the definition under its identifier, with its health record. -/
theorem touches_delete (h : Service.delete id s = (.ok (), s')) :
    s.store.Holds id ∧ s.Touches id s' ∧ s'.store.lastId = s.store.lastId := by
  rcases delete_cases id s with ⟨e, hrefused⟩ | ⟨store, ok, hmade⟩
  · cases congrArg Prod.fst (hrefused.symm.trans h)
  · obtain ⟨-, rfl⟩ := Prod.mk.inj (hmade.symm.trans h)
    have hkeeps := Store.keepsBut_delete ok
    obtain ⟨-, hfound, -, rfl⟩ := Store.delete_eq_ok.mp ok
    exact ⟨Store.holds_iff.mpr hfound, State.touches_dismiss hkeeps, rfl⟩

/-! ## Refused changes -/

/-- Whether a creation, an update or a removal is refused. -/
def refuses (service : Service W) : RegistryCall → State W → Bool
  | .create d, s => !(service.create d s).1.isOk
  | .update d, s => !(service.update d s).1.isOk
  | .delete id, s => !(Service.delete id s).1.isOk
  | .seed _, _ => false
  | .select _ _, _ => false

/-- An update that passes every check: its definition is stored, and no other one has the name. -/
structure Updatable (service : Service W) (d : Definition) (s : State W) : Prop where
  holds : s.store.Holds d.id
  free : s.store.Free d
  built : ∃ source, service.factory.build d.bare = .ok source
  priority : Definition.validPriority d.priority = true

/-- What a change has to be like: the tables that it needs are in order, and it passes the checks. -/
def Allows (service : Service W) : RegistryCall → State W → Prop
  | .create d, s => s.store.definitionFault = none ∧ service.Acceptable d s
  | .update d, s => s.store.definitionFault = none ∧ service.Updatable d s
  | .delete id, s => s.store.definitionFault = none ∧ s.store.Holds id ∧ s.store.removalFault = none
  | .seed _, _ => True
  | .select _ _, _ => True

variable {m : RegistryCall}

/-- **The step.**  A refused change leaves everything as it is. -/
theorem perform_of_refuses (h : service.refuses m s = true) : service.perform m s = s := by
  cases m with
  | create d =>
    rcases create_cases service d s with ⟨e, hrefused⟩ | ⟨source, stored, store, -, -, hmade⟩
    · exact congrArg Prod.snd hrefused
    · rw [refuses, hmade] at h
      cases h
  | update d =>
    rcases update_cases service d s with ⟨e, hrefused⟩ | ⟨source, store, -, -, hmade⟩
    · exact congrArg Prod.snd hrefused
    · rw [refuses, hmade] at h
      cases h
  | delete id =>
    rcases delete_cases id s with ⟨e, hrefused⟩ | ⟨store, -, hmade⟩
    · exact congrArg Prod.snd hrefused
    · rw [refuses, hmade] at h
      cases h
  | seed ds => cases h
  | select purpose skipSuspended => cases h

/-! ### When a change is refused -/

theorem isOk_fst_iff {α ε σ : Type} {r : Except ε α × σ} :
    r.1.isOk = true ↔ ∃ a s, r = (.ok a, s) := by
  obtain ⟨_ | a, s⟩ := r
  · exact iff_of_false (fun h => nomatch h) (by rintro ⟨a, s', h⟩; cases h)
  · exact iff_of_true rfl ⟨a, s, rfl⟩

theorem create_eq_ok_iff : (∃ d' s', service.create d s = (.ok d', s')) ↔
    s.store.definitionFault = none ∧ service.Acceptable d s := by
  constructor
  · rintro ⟨d', s', h⟩
    rcases create_seeds service d s with ⟨e, hrefused⟩ | ⟨readable, hacceptable, -⟩
    · cases congrArg Prod.fst (hrefused.symm.trans h)
    · exact ⟨readable, hacceptable⟩
  · rintro ⟨readable, hacceptable⟩
    obtain ⟨stored, hmade⟩ := create_of_acceptable readable hacceptable
    exact ⟨stored, _, hmade⟩

/-- A definition that can be updated is known, and what is checked of it passes. -/
theorem update_of_updatable (readable : s.store.definitionFault = none)
    (h : service.Updatable d s) : ∃ d' s', service.update d s = (.ok d', s') := by
  obtain ⟨source, hbuild⟩ := h.built
  have hknows := State.knows_of_holds readable h.holds
  have hchecked : service.checkedSource d.bare s = .ok source :=
    checkedSource_of_free readable ⟨h.free.named, h.free.other⟩ hbuild h.priority
  obtain ⟨store, hupdate⟩ : ∃ store, s.store.update d.bare = .ok (d.bare, store) :=
    ⟨_, Store.update_eq_ok.mpr ⟨readable, Store.holds_iff.mp h.holds, rfl, rfl⟩⟩
  have hmade : service.update d s =
      (.ok ((({ s with store := store } : State W).dismiss d.id).withHealth d.bare),
        ({ s with store := store } : State W).dismiss d.id) := by
    simp only [update, hknows, hchecked, hupdate]
    rfl
  exact ⟨_, _, hmade⟩

theorem update_eq_ok_iff : (∃ d' s', service.update d s = (.ok d', s')) ↔
    s.store.definitionFault = none ∧ service.Updatable d s := by
  constructor
  · rintro ⟨d', s', h⟩
    rcases update_cases service d s with ⟨e, hrefused⟩ | ⟨source, store, hchecked, ok, -⟩
    · cases congrArg Prod.fst (hrefused.symm.trans h)
    · obtain ⟨-, hbuild, hpriority⟩ := checkedSource_eq_ok hchecked
      have hfree := free_of_checkedSource hchecked
      exact ⟨(Store.update_eq_ok.mp ok).1, (touches_update h).2.1, ⟨hfree.named, hfree.other⟩,
        ⟨source, hbuild⟩, hpriority⟩
  · rintro ⟨readable, hupdatable⟩
    exact update_of_updatable readable hupdatable

theorem delete_eq_ok_iff : (∃ u s', Service.delete id s = (.ok u, s')) ↔
    s.store.definitionFault = none ∧ s.store.Holds id ∧ s.store.removalFault = none := by
  have hiff : (∃ store, s.store.delete id = .ok store) ↔
      s.store.definitionFault = none ∧ s.store.Holds id ∧ s.store.removalFault = none := by
    rw [Store.holds_iff]
    simp only [Store.delete_eq_ok, exists_and_left, exists_eq, and_true]
  rw [← hiff]
  rcases delete_cases id s with ⟨e, hrefused⟩ | ⟨store, ok, hmade⟩
  · refine iff_of_false ?_ ?_
    · rintro ⟨u, s', h⟩
      cases congrArg Prod.fst (hrefused.symm.trans h)
    · rintro ⟨store, ok⟩
      rw [delete, ok] at hrefused
      cases congrArg Prod.fst hrefused
  · exact iff_of_true ⟨_, _, hmade⟩ ⟨store, ok⟩

/-- **A change is refused exactly if it does not pass the checks.** -/
theorem refuses_iff : service.refuses m s = true ↔ ¬ service.Allows m s := by
  rw [← Bool.not_eq_false, not_iff_not]
  cases m with
  | create d => rw [refuses, Bool.not_eq_false', isOk_fst_iff, create_eq_ok_iff, Allows]
  | update d => rw [refuses, Bool.not_eq_false', isOk_fst_iff, update_eq_ok_iff, Allows]
  | delete id => rw [refuses, Bool.not_eq_false', isOk_fst_iff, delete_eq_ok_iff, Allows]
  | seed ds => exact iff_of_true rfl trivial
  | select purpose skipSuspended => exact iff_of_true rfl trivial

/-! ## Runs -/

/-- The state after some calls. -/
def stateAfterCalls (service : Service W) (ms : List RegistryCall) (s : State W) : State W :=
  ms.foldl (fun s m => service.perform m s) s

/-- A run without the changes that are refused in it. -/
def withoutRefused (service : Service W) : List RegistryCall → State W → List RegistryCall
  | [], _ => []
  | m :: rest, s =>
    if service.refuses m s then service.withoutRefused rest s
    else m :: service.withoutRefused rest (service.perform m s)

/-- **The run.**  Refused changes may as well not have been asked for. -/
theorem stateAfterCalls_withoutRefused (service : Service W) (ms : List RegistryCall) (s : State W) :
    service.stateAfterCalls (service.withoutRefused ms s) s = service.stateAfterCalls ms s := by
  induction ms generalizing s with
  | nil => rfl
  | cons m rest ih =>
    rw [withoutRefused]
    split
    · next hrefused =>
      have hsame : service.stateAfterCalls (m :: rest) s =
          service.stateAfterCalls rest (service.perform m s) := rfl
      rw [ih, hsame, perform_of_refuses hrefused]
    · exact ih (service.perform m s)

/-- What is promised of the changes in a state. -/
structure Traceless (service : Service W) (s : State W) : Prop where
  /-- A change is refused exactly if it does not pass the checks. -/
  refuses_iff : ∀ m, service.refuses m s = true ↔ ¬ service.Allows m s
  /-- Then everything stays as it is: the definitions, the health records, the identifiers that will be
  given and who is in use. -/
  refused : ∀ m, service.refuses m s = true → service.perform m s = s
  /-- So every run leads to the same state without the changes that are refused in it. -/
  erased : ∀ ms, service.stateAfterCalls (service.withoutRefused ms s) s = service.stateAfterCalls ms s
  /-- A definition that is created stands under an identifier that nobody had, and no other definition
  and no health record is changed. -/
  created : ∀ d d' s', service.create d s = (.ok d', s') →
    ¬ s.store.Holds d'.id ∧ s.Touches d'.id s' ∧ s'.store.healths = s.store.healths ∧
      s'.store.lastId = d'.id
  /-- An update changes no other definition and no health record. -/
  updated : ∀ d d' s', service.update d s = (.ok d', s') →
    d'.id = d.id ∧ s.store.Holds d.id ∧ s.Touches d.id s' ∧ s'.store.healths = s.store.healths ∧
      s'.store.lastId = s.store.lastId
  /-- A removal changes no other definition and no other health record. -/
  deleted : ∀ id s', Service.delete id s = (.ok (), s') →
    s.store.Holds id ∧ s.Touches id s' ∧ s'.store.lastId = s.store.lastId

/-- **Refused changes leave no trace, and changes that are made touch nothing else**, in every state of
every run. -/
theorem traceless_of_registryRun {past : List (Step W)} (h : service.RegistryRun past s) :
    service.Traceless s where
  refuses_iff _ := refuses_iff
  refused _ := perform_of_refuses
  erased ms := service.stateAfterCalls_withoutRefused ms s
  created _ _ _ := touches_create h.invariant.current.ascending
  updated _ _ _ := touches_update
  deleted _ _ := touches_delete

/-- A removal, a creation with settings that cannot be used, a removal of what is not there, an update
with a priority that is out of bounds, and a creation. -/
def mixedCalls : List RegistryCall :=
  [.delete 3, .create (Definition.new "broken" "Mock"), .delete 3, invalidUpdate,
    .create (Definition.new "fourth" "Mock")]

/-- Three of five changes are refused, for three reasons. -/
theorem traceless_stateOfThree :
    pickyService.RegistryRun [] stateOfThree ∧ pickyService.Traceless stateOfThree ∧
      pickyService.withoutRefused mixedCalls stateOfThree =
        [.delete 3, .create (Definition.new "fourth" "Mock")] ∧
      pickyService.stateAfterCalls [.delete 3, .create (Definition.new "fourth" "Mock")] stateOfThree =
        pickyService.stateAfterCalls mixedCalls stateOfThree := by
  have hstart : pickyService.RegistryRun [] stateOfThree := .start ⟨by decide, by decide⟩ rfl
  have htraceless := traceless_of_registryRun hstart
  have hkept : pickyService.withoutRefused mixedCalls stateOfThree =
      [.delete 3, .create (Definition.new "fourth" "Mock")] := by rfl
  exact ⟨hstart, htraceless, hkept, hkept ▸ htraceless.erased mixedCalls⟩

end Service
end Biblio
