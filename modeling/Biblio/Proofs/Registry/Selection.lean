import Biblio.Proofs.Moment.Order
import Biblio.Proofs.Registry.Current
import Biblio.Sample

/-!
# Who is selected

* `Service.Eligible` says which stored definitions have a provider in a selection, and
  `State.ranked` in which order they stand.
* `Service.Selects` is what is promised of a selection: the ranked definitions that are eligible, one
  provider for each.
* `selects_of_reached` proves it of the selections for a category and for anything at all, in every
  state that a service comes into.
-/

set_option autoImplicit false

namespace Biblio

variable {W : Type}

/-! ## Order -/

theorem Definition.Before.asymm {a b : Definition} (hab : a.Before b) : ¬ b.Before a := by
  intro hba
  rcases hab with hlt | ⟨heq, hid⟩
  · rcases hba with hlt' | ⟨heq', -⟩
    · exact Nat.lt_asymm hlt hlt'
    · exact absurd heq' (Nat.ne_of_lt hlt)
  · rcases hba with hlt' | ⟨-, hid'⟩
    · exact absurd heq (Nat.ne_of_lt hlt')
    · exact Int.lt_asymm hid hid'

/-- Definitions that are left out do not change the order of the others. -/
theorem mergeSort_filter {ds : List Definition} (h : ds.Pairwise fun a b => a.id < b.id)
    (keep : Definition → Bool) :
    (ds.filter keep).mergeSort byPriority = (ds.mergeSort byPriority).filter keep := by
  refine List.Perm.eq_of_pairwise (fun a b _ _ hab hba => absurd hba hab.asymm)
    (mergeSort_before (h.filter keep)) ((mergeSort_before h).filter keep) ?_
  exact (List.mergeSort_perm _ _).trans ((List.mergeSort_perm ds byPriority).filter keep).symm

/-- The stored definitions, highest priority first and within a priority by identifier. -/
def State.ranked (s : State W) : List Definition := s.store.stored.mergeSort byPriority

/-! ## Eligibility -/

/-- Whether a health record suspends a provider at a moment. -/
def Store.Suspends (s : Store) (now : Moment) (id : Int) : Prop :=
  ∃ h ∈ s.healthRecords, h.providerId = id ∧ ∃ till, h.suspendedTill = some till ∧ now < till

theorem Health.suspendedAt_iff {h : Health} {now : Moment} :
    h.suspendedAt now = true ↔ ∃ till, h.suspendedTill = some till ∧ now < till := by
  rw [Health.suspendedAt]
  cases h.suspendedTill with
  | none => simp
  | some till => simp [Moment.lt_iff_precedes]

theorem Store.mem_suspended_iff {s : Store} {now : Moment} {id : Int} :
    ((s.suspended now).map Health.providerId).contains id = true ↔ s.Suspends now id := by
  rw [List.contains_iff_mem, List.mem_map]
  simp only [Store.suspended, List.mem_filter, Health.suspendedAt_iff]
  exact ⟨fun ⟨h, ⟨hmem, hsuspended⟩, hid⟩ => ⟨h, hmem, hid, hsuspended⟩,
    fun ⟨h, hmem, hid, hsuspended⟩ => ⟨h, ⟨hmem, hsuspended⟩, hid⟩⟩

namespace Service

/-- A definition that has a provider in a selection. -/
structure Eligible (service : Service W) (s : State W) (wanted : Definition → Bool)
    (skipSuspended : Bool) (d : Definition) : Prop where
  /-- It is enabled for what is wanted. -/
  wanted : wanted d = true
  /-- Its source can be built. -/
  buildable : ∃ source, service.factory.build d = .ok source
  /-- No health record suspends it now, if that counts. -/
  active : skipSuspended = true → ¬ s.store.Suspends s.wall d.id


variable {service : Service W} {s : State W} {wanted : Definition → Bool} {skipSuspended : Bool}

theorem canBuild_iff {d : Definition} :
    service.canBuild d = true ↔ ∃ source, service.factory.build d = .ok source := by
  rw [canBuild]
  cases service.factory.build d with
  | error e => exact iff_of_false (by rintro ⟨⟩) (by rintro ⟨_, ⟨⟩⟩)
  | ok source => exact iff_of_true rfl ⟨source, rfl⟩

/-- Eligibility is decided definition by definition. -/
theorem eligible_iff {d : Definition} :
    (wanted d && !(skipSuspended && ((s.store.suspended s.wall).map Health.providerId).contains d.id)
      && service.canBuild d) = true ↔ service.Eligible s wanted skipSuspended d := by
  rw [Bool.and_eq_true, Bool.and_eq_true, Bool.not_eq_true', ← Bool.not_eq_true, Bool.and_eq_true,
    Store.mem_suspended_iff, canBuild_iff, not_and]
  exact ⟨fun ⟨⟨hwanted, hactive⟩, hbuild⟩ => ⟨hwanted, hbuild, hactive⟩,
    fun h => ⟨⟨h.wanted, h.active⟩, h.buildable⟩⟩

instance : DecidablePred (service.Eligible s wanted skipSuspended) :=
  fun _ => decidable_of_iff _ eligible_iff

/-! ## Selections -/

/-- What is promised of a selection in a state. -/
structure Selects (service : Service W) (s : State W) (wanted : Definition → Bool)
    (skipSuspended : Bool) (ps : List (Provider W)) : Prop where
  /-- Every stored definition that is eligible has exactly one provider. -/
  each : ∀ d ∈ s.store.stored, service.Eligible s wanted skipSuspended d →
    ∃! p, p ∈ ps ∧ p.definition = d
  /-- No other definition has one. -/
  only : ∀ p ∈ ps, p.definition ∈ s.store.stored ∧
    service.Eligible s wanted skipSuspended p.definition
  /-- Priorities descend, and identifiers ascend within a priority. -/
  ordered : ps.Pairwise fun p q => p.definition.Before q.definition
  /-- Definitions that are not eligible are taken out of the order of all, and nothing else happens
  to it. -/
  undisturbed : ps.map Provider.definition =
    s.ranked.filter (fun d => service.Eligible s wanted skipSuspended d)
  /-- A provider runs under what is stored for its identifier now, as it would be built for it. -/
  current : ∀ p ∈ ps, s.store.find? p.id = .ok (some p.definition) ∧ service.Builds p

/-- The definitions that are selected before any of them is built. -/
theorem selected_eq (hs : s.store.Ascending) (hread : s.store.definitionFault = none)
    (purpose : Definition → Bool) (skipSuspended : Bool) :
    s.selected purpose skipSuspended = .ok (s.ranked.filter fun d => d.enabled && purpose d &&
      !(skipSuspended && ((s.store.suspended s.wall).map Health.providerId).contains d.id)) := by
  have hall : s.store.all = .ok s.store.stored := by
    rw [Store.all, hread, Store.checked_none]
    rfl
  rw [State.selected, hall]
  refine congrArg Except.ok ?_
  rw [State.ranked, ← mergeSort_filter hs.stored_ids]
  cases skipSuspended with
  | false =>
    simp only [Bool.false_and, Bool.not_false, Bool.and_true, Bool.false_eq_true, if_false]
    rfl
  | true =>
    simp only [if_true, List.filter_filter, Bool.true_and, Bool.and_comm]
    rfl

/-- The ranked definitions that are eligible, one provider for each. -/
theorem Selects.of_filter (hs : s.store.Ascending) (hread : s.store.definitionFault = none)
    {ps : List (Provider W)} (hbuilds : ∀ p ∈ ps, service.Builds p)
    (hmap : ps.map Provider.definition =
      s.ranked.filter (fun d => service.Eligible s wanted skipSuspended d)) :
    service.Selects s wanted skipSuspended ps := by
  have hmem : ∀ d, d ∈ ps.map Provider.definition ↔
      d ∈ s.store.stored ∧ service.Eligible s wanted skipSuspended d := by
    intro d
    rw [hmap, List.mem_filter, State.ranked, List.mem_mergeSort, decide_eq_true_iff]
  have hordered : (ps.map Provider.definition).Pairwise Definition.Before := by
    rw [hmap]
    exact (mergeSort_before hs.stored_ids).filter _
  have hnodup : (ps.map Provider.definition).Nodup :=
    hordered.imp fun hab heq => (heq ▸ hab).asymm (heq ▸ hab)
  refine ⟨fun d hd heligible => ?_, fun p hp => ?_, List.pairwise_map.mp hordered, hmap,
    fun p hp => ?_⟩
  · obtain ⟨p, hp, rfl⟩ := List.mem_map.mp ((hmem d).mpr ⟨hd, heligible⟩)
    exact ⟨p, ⟨hp, rfl⟩, fun q hq => List.inj_on_of_nodup_map hnodup hq.1 hp hq.2⟩
  · exact (hmem p.definition).mp (List.mem_map_of_mem hp)
  · have hstored := ((hmem p.definition).mp (List.mem_map_of_mem hp)).1
    exact ⟨hs.find?_eq hread hstored, hbuilds p hp⟩

/-- **A selection**, whatever it is for. -/
theorem Current.selects (hs : service.Current s) (hread : s.store.definitionFault = none)
    {purpose : Definition → Bool} (hwanted : ∀ d, wanted d = (d.enabled && purpose d)) :
    ∃ ps s', service.select purpose skipSuspended s = (.ok ps, s') ∧
      service.Selects s wanted skipSuspended ps := by
  have hselected := selected_eq hs.ascending hread purpose skipSuspended
  obtain ⟨hmap, hbuilds, -⟩ := hs.providers fun d hd => State.mem_stored_of_selected hselected hd
  refine ⟨_, _, by rw [Service.select, hselected], .of_filter hs.ascending hread hbuilds ?_⟩
  rw [hmap, List.filter_filter]
  refine List.filter_congr fun d _ => ?_
  rw [Bool.eq_iff_iff, decide_eq_true_iff, ← eligible_iff, ← hwanted, Bool.and_comm]

theorem enabledFor_eq (d : Definition) (category : Category) :
    d.enabledFor category = (d.enabled && d.enabledFor category) := by
  cases category <;> cases hauthors : d.forAuthors <;> cases hbooks : d.forBooks <;>
    simp [Definition.enabledFor, Definition.enabled, hauthors, hbooks]

/-- **Selections.**  In every state that the service comes into, whatever was created, updated,
deleted and selected before, the providers for a category are those of the definitions that are
enabled for it, and the providers for anything at all those of the definitions with any use. -/
theorem selects_of_reached (hs : service.Reached s) (hread : s.store.definitionFault = none)
    (skipSuspended : Bool) :
    (∀ category, ∃ ps s', service.selectFor category skipSuspended s = (.ok ps, s') ∧
      service.Selects s (fun d => d.enabledFor category) skipSuspended ps) ∧
    ∃ ps s', service.selectAll skipSuspended s = (.ok ps, s') ∧
      service.Selects s Definition.enabled skipSuspended ps :=
  ⟨fun category => hs.current.selects hread fun d => enabledFor_eq d category,
    hs.current.selects hread fun d => (Bool.and_true d.enabled).symm⟩

/-- A service with one implementation, which refuses one name. -/
def pickyService : Service Unit where
  factory := ⟨[("Mock", fun d =>
    if d.name = "broken" then .error (.notConfigured d.name) else .ok (Sample.source d.name))]⟩
  rules := { callTimeout := Span.seconds 30 }

/-- A state with two definitions of the same priority, the first of them suspended, and one of a
higher priority that cannot be built. -/
def stateOfThree : State Unit where
  world := ()
  store :=
    { definitions :=
        [DefinitionRow.write 1 (Definition.new "first" "Mock"),
          DefinitionRow.write 2 (Definition.new "second" "Mock"),
          DefinitionRow.write 3 { Definition.new "broken" "Mock" with priority := 90 }]
      healths := [{ HealthRow.write (Health.fresh 1) with
        suspendedTill := some "2030-01-01T00:00:00Z" }]
      lastId := 3 }

/-- The second definition was given another priority, and then all providers were selected. -/
def stateAfterUpdate : State Unit :=
  (pickyService.selectAll false
    (pickyService.update { Definition.new "second" "Mock" with id := 2, priority := 60 }
      stateOfThree).2).2

theorem reached_stateAfterUpdate : pickyService.Reached stateAfterUpdate := by
  have hstart : pickyService.Reached stateOfThree := .start ⟨by decide, by decide⟩ rfl
  exact (hstart.update _).select _ _

/-- Selections after an update and a selection. -/
theorem selects_stateAfterUpdate :
    (pickyService.Reached stateAfterUpdate ∧ stateAfterUpdate.store.definitionFault = none) ∧
      (∀ category, ∃ ps s', pickyService.selectFor category true stateAfterUpdate = (.ok ps, s') ∧
        pickyService.Selects stateAfterUpdate (fun d => d.enabledFor category) true ps) ∧
      ∃ ps s', pickyService.selectAll true stateAfterUpdate = (.ok ps, s') ∧
        pickyService.Selects stateAfterUpdate Definition.enabled true ps := by
  have hread : stateAfterUpdate.store.definitionFault = none := by
    rw [stateAfterUpdate, selectAll, store_select]
    rfl
  exact ⟨⟨reached_stateAfterUpdate, hread⟩, selects_of_reached reached_stateAfterUpdate hread true⟩

end Service
end Biblio
