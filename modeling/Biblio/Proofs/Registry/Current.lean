import Biblio.Proofs.Registry.Order
import Biblio.Registry.Changes
import Mathlib

/-!
# Providers in use and stored definitions

A provider stays in use until its definition changes, so that its caches survive from one question to
the next.  What is in use must never differ from what is stored, whatever happened before.

* `Service.Reached` are the states that a service comes into.
* `Service.Current` is the invariant: every provider in use runs under the definition that is stored
  under its identifier.
* `Current.create`, `Current.update`, `Current.delete` and `Current.select` are the steps, and
  `Reached.current` is the run.
* `Current.providers` says which providers there are for stored definitions: one for each that can be
  built, in the same order.
-/

set_option autoImplicit false

namespace Biblio

variable {W : Type}

/-! ## Stored definitions -/

namespace Store

/-- The stored definitions, in ascending order of their identifiers. -/
def stored (s : Store) : List Definition := s.definitions.map DefinitionRow.read

theorem Ascending.stored_ids {s : Store} (hs : s.Ascending) :
    s.stored.Pairwise fun a b => a.id < b.id :=
  List.pairwise_map.mpr hs.sorted

/-- An identifier stands for one definition. -/
theorem Ascending.eq_of_id_eq {s : Store} (hs : s.Ascending) {a b : Definition} (ha : a ∈ s.stored)
    (hb : b ∈ s.stored) (h : a.id = b.id) : a = b := by
  have hids : (s.stored.map Definition.id).Nodup := by
    rw [List.nodup_iff_pairwise_ne, List.pairwise_map]
    exact hs.stored_ids.imp fun hlt => Int.ne_of_lt hlt
  exact List.inj_on_of_nodup_map hids ha hb h

/-- A stored definition is found under its identifier. -/
theorem Ascending.find?_eq {s : Store} (hs : s.Ascending) (hread : s.definitionFault = none)
    {d : Definition} (hd : d ∈ s.stored) : s.find? d.id = .ok (some d) := by
  obtain ⟨r, hr, rfl⟩ := List.mem_map.mp hd
  rw [Store.find?, hread, checked_none]
  cases hfind : s.definitions.find? (fun r' => r'.id == r.read.id) with
  | none =>
    have hne := List.find?_eq_none.mp hfind r hr
    exact absurd (beq_self_eq_true r.id) hne
  | some r' =>
    have hfound := List.find?_some hfind
    have hid : r'.read.id = r.read.id := eq_of_beq hfound
    have hmem : r'.read ∈ s.stored := List.mem_map_of_mem (List.mem_of_find?_eq_some hfind)
    exact congrArg (fun d => Except.ok (some d)) (hs.eq_of_id_eq hmem hd hid)

/-- A definition is stored without a health record. -/
theorem bare_of_mem_stored {s : Store} {d : Definition} (hd : d ∈ s.stored) : d.bare = d := by
  obtain ⟨r, -, rfl⟩ := List.mem_map.mp hd
  rfl

/-! ### What changes leave stored -/

theorem mem_stored_insert {s s' : Store} {d d' a : Definition} (ok : s.insert d = .ok (d', s'))
    (ha : a ∈ s.stored) : a ∈ s'.stored := by
  obtain ⟨-, -, rfl⟩ := insert_eq_ok.mp ok
  rw [stored, List.map_append]
  exact List.mem_append_left _ ha

theorem id_update {s s' : Store} {d d' : Definition} (ok : s.update d = .ok (d', s')) :
    d'.id = d.id := by
  obtain ⟨-, -, rfl, -⟩ := update_eq_ok.mp ok
  rfl

/-- Replacing a definition leaves all others. -/
theorem mem_stored_update {s s' : Store} {d d' a : Definition} (ok : s.update d = .ok (d', s'))
    (hne : a.id ≠ d.id) (ha : a ∈ s.stored) : a ∈ s'.stored := by
  obtain ⟨-, -, -, rfl⟩ := update_eq_ok.mp ok
  obtain ⟨r, hr, rfl⟩ := List.mem_map.mp ha
  exact List.mem_map_of_mem (List.mem_map.mpr ⟨r, hr, if_neg hne⟩)

/-- Removing a definition leaves all others. -/
theorem mem_stored_delete {s s' : Store} {id : Int} {a : Definition} (ok : s.delete id = .ok s')
    (hne : a.id ≠ id) (ha : a ∈ s.stored) : a ∈ s'.stored := by
  obtain ⟨-, -, -, rfl⟩ := delete_eq_ok.mp ok
  obtain ⟨r, hr, rfl⟩ := List.mem_map.mp ha
  exact List.mem_map_of_mem (List.mem_filter.mpr ⟨hr, bne_iff_ne.mpr hne⟩)

end Store

/-! ## Providers in use -/

namespace State

theorem instance?_enlist_self (s : State W) (p : Provider W) : (s.enlist p).instance? p.id = some p :=
  Table.lookup_replace_self p.id p s.instances

theorem instance?_enlist_ne (s : State W) (p : Provider W) {id : Int} (h : id ≠ p.id) :
    (s.enlist p).instance? id = s.instance? id :=
  Table.lookup_replace_ne h p s.instances

theorem instance?_dismiss_self (s : State W) (id : Int) : (s.dismiss id).instance? id = none :=
  Table.lookup_filter_self id s.instances

theorem instance?_dismiss_ne (s : State W) {id other : Int} (h : other ≠ id) :
    (s.dismiss id).instance? other = s.instance? other :=
  Table.lookup_filter_ne h s.instances

/-- What is selected is stored. -/
theorem mem_stored_of_selected {s : State W} {purpose : Definition → Bool} {skipSuspended : Bool}
    {ds : List Definition} (h : s.selected purpose skipSuspended = .ok ds) {d : Definition}
    (hd : d ∈ ds) : d ∈ s.store.stored := by
  rw [State.selected] at h
  split at h
  · cases h
  · next all hall =>
    obtain rfl := Except.ok.inj (Store.checked_eq_ok.mp hall).2
    rw [← Except.ok.inj h, List.mem_mergeSort] at hd
    split at hd
    · exact (List.mem_filter.mp (List.mem_filter.mp hd).1).1
    · exact (List.mem_filter.mp hd).1

/-- Providers were built and put into use, and nothing else has changed. -/
structure AddsInstances (s s' : State W) : Prop where
  rest : s' = { s with instances := s'.instances, built := s'.built }

variable {s s' s'' : State W}

theorem AddsInstances.trans (h : s.AddsInstances s') (h' : s'.AddsInstances s'') :
    s.AddsInstances s'' where
  rest := by rw [h'.rest, h.rest]

theorem AddsInstances.store_eq (h : s.AddsInstances s') : s'.store = s.store := by
  rw [h.rest]

theorem AddsInstances.caches_eq (h : s.AddsInstances s') : s'.caches = s.caches := by
  rw [h.rest]

end State

namespace Service

/-- The states that a service comes into. -/
inductive Reached (service : Service W) : State W → Prop
  /-- At first no provider is in use, whatever is stored. -/
  | start {s : State W} (sorted : s.store.Ascending) (unused : s.instances = []) : Reached service s
  | create {s : State W} (h : Reached service s) (d : Definition) :
      Reached service (service.create d s).2
  | update {s : State W} (h : Reached service s) (d : Definition) :
      Reached service (service.update d s).2
  | delete {s : State W} (h : Reached service s) (id : Int) : Reached service (Service.delete id s).2
  | select {s : State W} (h : Reached service s) (purpose : Definition → Bool)
      (skipSuspended : Bool) : Reached service (service.select purpose skipSuspended s).2
  /-- Whatever else happens leaves the stored definitions and the providers in use alone: time passes,
  sources are called, health is recorded, tables fall out of order or are put in order again. -/
  | aside {s s' : State W} (h : Reached service s)
      (definitions : s'.store.definitions = s.store.definitions)
      (lastId : s'.store.lastId = s.store.lastId) (instances : s'.instances = s.instances) :
      Reached service s'

/-- A provider as the service builds it for its definition. -/
structure Builds (service : Service W) (p : Provider W) : Prop where
  source : service.factory.build p.definition = .ok p.source
  rules : p.rules = service.rules

/-- A state in which every provider in use runs under a stored definition, as it would be built for
it now. -/
structure Current (service : Service W) (s : State W) : Prop where
  ascending : s.store.Ascending
  inUse : ∀ id p, s.instance? id = some p →
    p.id = id ∧ p.definition ∈ s.store.stored ∧ service.Builds p

variable {service : Service W} {s s' : State W}

/-- A change that keeps the definitions of the providers in use. -/
theorem Current.of_kept (hs : service.Current s) (ascending : s'.store.Ascending)
    (kept : ∀ id p, s'.instance? id = some p → s.instance? id = some p ∧
      (p.id = id → p.definition ∈ s.store.stored → p.definition ∈ s'.store.stored)) :
    service.Current s' := by
  refine ⟨ascending, fun id p hp => ?_⟩
  obtain ⟨hbefore, hstored⟩ := kept id p hp
  obtain ⟨hid, hmem, hbuilds⟩ := hs.inUse id p hbefore
  exact ⟨hid, hstored hid hmem, hbuilds⟩

/-! ### Changes of definitions -/

theorem Current.create (hs : service.Current s) (d : Definition) :
    service.Current (service.create d s).2 := by
  rw [Service.create]
  split
  · exact hs
  · simp only
    split
    · exact hs
    · next stored store ok =>
      exact hs.of_kept (hs.ascending.insert ok) fun id p hp =>
        ⟨hp, fun _ hmem => Store.mem_stored_insert ok hmem⟩

theorem Current.update (hs : service.Current s) (d : Definition) :
    service.Current (service.update d s).2 := by
  rw [Service.update]
  split
  · exact hs
  · exact hs
  · split
    · exact hs
    · split
      · exact hs
      · next stored store ok =>
        have hid : stored.id = d.id := Store.id_update ok
        refine hs.of_kept (hs.ascending.update ok) fun id p hp => ?_
        -- the provider under the changed identifier is out of use
        have hne : id ≠ stored.id := by
          rintro rfl
          exact nomatch (State.instance?_dismiss_self _ _).symm.trans hp
        refine ⟨(State.instance?_dismiss_ne _ hne).symm.trans hp, fun hpid hmem => ?_⟩
        refine Store.mem_stored_update ok ?_ hmem
        rw [← Provider.id, hpid]
        exact fun h => hne (h.trans hid.symm)

theorem Current.delete (hs : service.Current s) (id : Int) :
    service.Current (Service.delete id s).2 := by
  rw [Service.delete]
  split
  · exact hs
  · next store ok =>
    refine hs.of_kept (hs.ascending.delete ok) fun other p hp => ?_
    have hne : other ≠ id := by
      rintro rfl
      exact nomatch (State.instance?_dismiss_self _ _).symm.trans hp
    refine ⟨(State.instance?_dismiss_ne _ hne).symm.trans hp, fun hpid hmem => ?_⟩
    refine Store.mem_stored_delete ok ?_ hmem
    rw [← Provider.id, hpid]
    exact hne

/-! ### Selections -/

theorem addsInstances_replace (service : Service W) (d : Definition) (s : State W) :
    s.AddsInstances (service.replace d s).2 := by
  rw [Service.replace]
  split <;> exact ⟨rfl⟩

theorem addsInstances_provider (service : Service W) (d : Definition) (s : State W) :
    s.AddsInstances (service.provider d s).2 := by
  rw [Service.provider]
  split
  · split
    · exact ⟨rfl⟩
    · exact addsInstances_replace service d s
  · exact addsInstances_replace service d s

theorem addsInstances_providers (service : Service W) (ds : List Definition) (s : State W) :
    s.AddsInstances (service.providers ds s).2 := by
  induction ds generalizing s with
  | nil => exact ⟨rfl⟩
  | cons d rest ih =>
    have hprovider := addsInstances_provider service d s
    rw [Service.providers]
    split
    · next s' heval =>
      rw [heval] at hprovider
      exact hprovider.trans (ih s')
    · next s' heval =>
      rw [heval] at hprovider
      exact hprovider.trans (ih s')

/-- **A selection** builds providers and puts them into use. -/
theorem addsInstances_select (service : Service W) (purpose : Definition → Bool) (skipSuspended : Bool)
    (s : State W) : s.AddsInstances (service.select purpose skipSuspended s).2 := by
  rw [Service.select]
  split
  · exact ⟨rfl⟩
  · next ds _ => exact addsInstances_providers service ds s

/-- A selection leaves the store alone. -/
theorem store_select (service : Service W) (purpose : Definition → Bool) (skipSuspended : Bool)
    (s : State W) : (service.select purpose skipSuspended s).2.store = s.store :=
  (addsInstances_select service purpose skipSuspended s).store_eq

/-- Building a provider for a stored definition and putting it into use. -/
theorem Current.replace (hs : service.Current s) {d : Definition} (hd : d ∈ s.store.stored)
    {source : Source W} (hbuild : service.factory.build d = .ok source) :
    ∃ p s', service.replace d s = (.ok p, s') ∧ p.definition = d ∧ service.Builds p ∧
      service.Current s' := by
  have hbare := Store.bare_of_mem_stored hd
  let p : Provider W := ⟨d.bare, source, s.built, service.rules⟩
  have hbuilds : service.Builds p :=
    ⟨(congrArg service.factory.build hbare).trans hbuild, rfl⟩
  have heq : service.replace d s = (.ok p, ({ s with built := s.built + 1 } : State W).enlist p) := by
    rw [Service.replace, hbuild]
    rfl
  refine ⟨p, _, heq, hbare, hbuilds, hs.ascending, fun id q hq => ?_⟩
  by_cases hid : id = p.id
  · have hself := (State.instance?_enlist_self _ p).symm.trans (hid ▸ hq)
    obtain rfl := Option.some.inj hself
    refine ⟨hid.symm, ?_, hbuilds⟩
    show d.bare ∈ s.store.stored
    rw [hbare]
    exact hd
  · exact hs.inUse id q ((State.instance?_enlist_ne _ p hid).symm.trans hq)

/-- **The step of a selection.**  A stored definition that can be built has a provider, which runs under
that very definition, whether it was in use before or not. -/
theorem Current.provider (hs : service.Current s) {d : Definition} (hd : d ∈ s.store.stored)
    {source : Source W} (hbuild : service.factory.build d = .ok source) :
    ∃ p s', service.provider d s = (.ok p, s') ∧ p.definition = d ∧ service.Builds p ∧
      service.Current s' := by
  rw [Service.provider]
  split
  · next p hp =>
    obtain ⟨hid, hmem, hbuilds⟩ := hs.inUse d.id p hp
    split
    · exact ⟨p, s, rfl, hs.ascending.eq_of_id_eq hmem hd hid, hbuilds, hs⟩
    · exact hs.replace hd hbuild
  · exact hs.replace hd hbuild

/-- A stored definition that cannot be built has no provider, and changes nothing. -/
theorem Current.provider_error (hs : service.Current s) {d : Definition} (hd : d ∈ s.store.stored)
    {e : RegistryError} (hbuild : service.factory.build d = .error e) :
    service.provider d s = (.error e, s) := by
  have hreplace : service.replace d s = (.error e, s) := by rw [Service.replace, hbuild]
  rw [Service.provider]
  split
  · next p hp =>
    obtain ⟨hid, hmem, hbuilds⟩ := hs.inUse d.id p hp
    obtain rfl := hs.ascending.eq_of_id_eq hmem hd hid
    cases hbuild.symm.trans hbuilds.source
  · exact hreplace

/-- Whether the source of a definition can be built. -/
def canBuild (service : Service W) (d : Definition) : Bool :=
  (service.factory.build d).toOption.isSome

/-- **The providers for stored definitions**, one for each that can be built, in their order. -/
theorem Current.providers (hs : service.Current s) {ds : List Definition}
    (hds : ∀ d ∈ ds, d ∈ s.store.stored) :
    (service.providers ds s).1.map Provider.definition = ds.filter service.canBuild ∧
      (∀ p ∈ (service.providers ds s).1, service.Builds p) ∧
      service.Current (service.providers ds s).2 := by
  induction ds generalizing s with
  | nil =>
    refine ⟨rfl, fun p hp => ?_, hs⟩
    exact absurd hp List.not_mem_nil
  | cons d rest ih =>
    have hd := hds d List.mem_cons_self
    have hrest : ∀ d' ∈ rest, d' ∈ s.store.stored := fun d' hd' =>
      hds d' (List.mem_cons_of_mem d hd')
    rw [Service.providers, List.filter_cons]
    cases hbuild : service.factory.build d with
    | error e =>
      have hcan : service.canBuild d = false := by
        rw [canBuild, hbuild]
        rfl
      rw [hs.provider_error hd hbuild, hcan]
      exact ih hs hrest
    | ok source =>
      obtain ⟨p, s₁, hprovider, rfl, hbuilds, hs₁⟩ := hs.provider hd hbuild
      have hstore := (addsInstances_provider service p.definition s).store_eq
      rw [hprovider] at hstore
      have hcan : service.canBuild p.definition = true := by
        rw [canBuild, hbuild]
        rfl
      obtain ⟨hmap, hall, hafter⟩ := ih hs₁ fun d' hd' => hstore ▸ hrest d' hd'
      rw [hprovider, hcan]
      exact ⟨congrArg (p.definition :: ·) hmap, List.forall_mem_cons.mpr ⟨hbuilds, hall⟩, hafter⟩

theorem Current.select (hs : service.Current s) (purpose : Definition → Bool)
    (skipSuspended : Bool) : service.Current (service.select purpose skipSuspended s).2 := by
  rw [Service.select]
  split
  · exact hs
  · next ds hds => exact (hs.providers fun d hd => State.mem_stored_of_selected hds hd).2.2

/-! ### Runs -/

/-- **In every state, what is in use is what is stored.** -/
theorem Reached.current (h : service.Reached s) : service.Current s := by
  induction h with
  | start sorted unused =>
    refine ⟨sorted, fun id p hp => ?_⟩
    rw [State.instance?, unused] at hp
    exact nomatch hp
  | create _ d ih => exact ih.create d
  | update _ d ih => exact ih.update d
  | delete _ id ih => exact ih.delete id
  | select _ purpose skipSuspended ih => exact ih.select purpose skipSuspended
  | aside _ definitions lastId instances ih =>
    refine ih.of_kept ⟨?_, ?_⟩ fun id p hp => ⟨?_, fun _ hmem => ?_⟩
    · rw [definitions]
      exact ih.ascending.sorted
    · rw [definitions, lastId]
      exact ih.ascending.le_lastId
    · rw [State.instance?, instances] at hp
      exact hp
    · rw [Store.stored, definitions]
      exact hmem

end Service
end Biblio
