import Biblio.Proofs.Json.SelfEqual
import Biblio.Proofs.Registry.Changes
import Biblio.Proofs.Registry.Selection

/-!
# How long a provider stays in use

The caches of a provider and its place in the rate limit are lost with it.  So it must stay in use for as
long as its definition does, and no longer.

* `sameConfig_of_mem_stored` — a stored definition is the same as itself, so that its provider is not
  replaced for no reason.
* `State.OnlyNewInstances` says what happens to the providers in use from one state to another: whoever
  is new was built in the meantime and has a number that nobody had before.
* `RegistryCall` lists what is asked of the registry, and `Service.RegistryRun` are the runs; they list
  the calls, and the state before each.
* `RunInvariant.perform` is the step and `RegistryRun.invariant` the run: a provider that a selection
  returned is in use until its definition is changed, and whoever is in use after that was built after
  that.
* `keepsInstances_of_registryRun` says so of any two selections.
-/

set_option autoImplicit false

namespace Biblio

variable {W : Type}

/-! ## A definition is the same as itself -/

theorem Definition.sameConfig_self {d : Definition} (h : d.settings.beq d.settings = true) :
    d.sameConfig d = true := by
  have htags : (d.tags == d.tags) = true := beq_self_eq_true d.tags
  have hhealth : ((none : Option Health) == none) = true := rfl
  simp only [BEq.beq] at htags hhealth
  simp [sameConfig, bare, BEq.beq, instBEqDefinition.beq, h, htags, hhealth]

/-- Settings are read from a text, and what is read from a text equals itself. -/
theorem DefinitionRow.sameConfig_read (r : DefinitionRow) : r.read.sameConfig r.read = true := by
  refine Definition.sameConfig_self ?_
  rw [read]
  cases hsettings : Json.parse r.settings with
  | error e => rfl
  | ok j => exact Json.parse_beq_self hsettings

theorem Store.sameConfig_of_mem_stored {s : Store} {d : Definition} (hd : d ∈ s.stored) :
    d.sameConfig d = true := by
  obtain ⟨r, -, rfl⟩ := List.mem_map.mp hd
  exact r.sameConfig_read

/-! ## Providers in use -/

namespace State

/-- From one state to another, the only new providers in use are those that were built in between. -/
structure OnlyNewInstances (s s' : State W) : Prop where
  built_le : s.built ≤ s'.built
  new_or_old : ∀ id p, s'.instance? id = some p →
    s.instance? id = some p ∨ s.built ≤ p.number ∧ p.number < s'.built

variable {s s' s'' : State W}

theorem OnlyNewInstances.trans (h : s.OnlyNewInstances s') (h' : s'.OnlyNewInstances s'') :
    s.OnlyNewInstances s'' := by
  refine ⟨Nat.le_trans h.built_le h'.built_le, fun id p hp => ?_⟩
  rcases h'.new_or_old id p hp with hp | ⟨hle, hlt⟩
  · rcases h.new_or_old id p hp with hp | ⟨hle, hlt⟩
    · exact .inl hp
    · exact .inr ⟨hle, Nat.lt_of_lt_of_le hlt h'.built_le⟩
  · exact .inr ⟨Nat.le_trans h.built_le hle, hlt⟩

/-- Nobody is new if the providers in use are the same. -/
theorem onlyNewInstances_of_instances_eq (built : s.built ≤ s'.built)
    (instances : s'.instances = s.instances) : s.OnlyNewInstances s' := by
  refine ⟨built, fun id p hp => .inl ?_⟩
  rw [instance?, instances] at hp
  exact hp

theorem OnlyNewInstances.refl (s : State W) : s.OnlyNewInstances s :=
  onlyNewInstances_of_instances_eq (Nat.le_refl _) rfl

/-- Nobody is new if one is taken out of use, whatever has become of the store. -/
theorem onlyNewInstances_dismiss (s : State W) (store : Store) (id : Int) :
    s.OnlyNewInstances (({ s with store := store } : State W).dismiss id) := by
  refine ⟨Nat.le_refl _, fun other p hp => .inl ?_⟩
  by_cases h : other = id
  · subst h
    exact nomatch (instance?_dismiss_self _ other).symm.trans hp
  · exact (instance?_dismiss_ne _ h).symm.trans hp

end State

namespace Service

variable {service : Service W} {s s' : State W} {d : Definition} {id : Int} {p : Provider W}

/-! ### Selections -/

theorem onlyNewInstances_replace (service : Service W) (d : Definition) (s : State W) :
    s.OnlyNewInstances (service.replace d s).2 := by
  rw [replace]
  split
  · exact .refl s
  · next source _ =>
    let q : Provider W := ⟨d.bare, source, s.built, service.rules⟩
    refine ⟨Nat.le_succ s.built, fun id p hp => ?_⟩
    by_cases hid : id = q.id
    · subst hid
      obtain rfl := Option.some.inj ((State.instance?_enlist_self _ q).symm.trans hp)
      exact .inr ⟨Nat.le_refl _, Nat.lt_succ_self _⟩
    · exact .inl ((State.instance?_enlist_ne _ q hid).symm.trans hp)

theorem onlyNewInstances_provider (service : Service W) (d : Definition) (s : State W) :
    s.OnlyNewInstances (service.provider d s).2 := by
  rw [provider]
  split
  · split
    · exact .refl s
    · exact onlyNewInstances_replace service d s
  · exact onlyNewInstances_replace service d s

theorem onlyNewInstances_providers (service : Service W) (ds : List Definition) (s : State W) :
    s.OnlyNewInstances (service.providers ds s).2 := by
  induction ds generalizing s with
  | nil => exact .refl s
  | cons d rest ih =>
    have hfirst := onlyNewInstances_provider service d s
    rw [providers]
    split
    · next s₁ heval =>
      rw [heval] at hfirst
      exact hfirst.trans (ih s₁)
    · next s₁ heval =>
      rw [heval] at hfirst
      exact hfirst.trans (ih s₁)

theorem onlyNewInstances_select (service : Service W) (purpose : Definition → Bool) (skipSuspended : Bool)
    (s : State W) : s.OnlyNewInstances (service.select purpose skipSuspended s).2 := by
  rw [select]
  split
  · exact .refl s
  · next ds _ => exact onlyNewInstances_providers service ds s

/-- What is built for a definition does not touch the providers under other identifiers. -/
theorem instance?_replace_ne (hne : id ≠ d.id) :
    (service.replace d s).2.instance? id = s.instance? id := by
  rw [replace]
  split
  · rfl
  · next source _ =>
    exact State.instance?_enlist_ne _ ⟨d.bare, source, s.built, service.rules⟩ hne

/-- **A provider in use is not replaced.** -/
theorem Current.provider_of_inUse (hs : service.Current s) (hd : d ∈ s.store.stored)
    (hp : s.instance? d.id = some p) : service.provider d s = (.ok p, s) := by
  obtain ⟨hid, hmem, -⟩ := hs.inUse d.id p hp
  have hsame : p.definition = d := hs.ascending.eq_of_id_eq hmem hd hid
  rw [Service.provider, hp]
  simp only [hsame, Store.sameConfig_of_mem_stored hd, if_true]

theorem Current.instance?_provider (hs : service.Current s) (hd : d ∈ s.store.stored)
    (hp : s.instance? id = some p) : (service.provider d s).2.instance? id = some p := by
  by_cases hid : id = d.id
  · subst hid
    rw [hs.provider_of_inUse hd hp]
    exact hp
  · rw [Service.provider]
    split
    · split
      · exact hp
      · exact (instance?_replace_ne hid).trans hp
    · exact (instance?_replace_ne hid).trans hp

/-- The provider for a definition is in use. -/
theorem instance?_of_provider (h : service.provider d s = (.ok p, s')) : s'.instance? p.id = some p := by
  have hreplace (h : service.replace d s = (.ok p, s')) : s'.instance? p.id = some p := by
    rw [replace] at h
    split at h
    · cases congrArg Prod.fst h
    · obtain ⟨hp, rfl⟩ := Prod.mk.inj h
      obtain rfl := Except.ok.inj hp
      exact State.instance?_enlist_self _ _
  have hid : p.id = d.id := congrArg Prod.snd (rank_provider h)
  rw [provider] at h
  split at h
  · next q hq =>
    split at h
    · obtain ⟨hp, rfl⟩ := Prod.mk.inj h
      obtain rfl := Except.ok.inj hp
      rw [hid]
      exact hq
    · exact hreplace h
  · exact hreplace h

/-- **Providers for stored definitions.**  Whoever was in use still is, and whoever is returned is in
use. -/
theorem Current.instance?_providers (hs : service.Current s) {ds : List Definition}
    (hds : ∀ d ∈ ds, d ∈ s.store.stored) :
    (∀ id p, s.instance? id = some p → (service.providers ds s).2.instance? id = some p) ∧
      ∀ p ∈ (service.providers ds s).1, (service.providers ds s).2.instance? p.id = some p := by
  induction ds generalizing s with
  | nil => exact ⟨fun _ _ hp => hp, fun p hp => nomatch hp⟩
  | cons d rest ih =>
    have hd := hds d List.mem_cons_self
    have hkept := fun id p (hp : s.instance? id = some p) => hs.instance?_provider hd hp
    have hstore := (addsInstances_provider service d s).store_eq
    have hafter : service.Current (service.provider d s).2 := by
      cases hbuild : service.factory.build d with
      | error e =>
        rw [hs.provider_error hd hbuild]
        exact hs
      | ok source =>
        obtain ⟨p, s₁, hprovider, -, -, hs₁⟩ := hs.provider hd hbuild
        rw [hprovider]
        exact hs₁
    rw [Service.providers]
    cases hprovider : service.provider d s with
    | mk r s₁ =>
      rw [hprovider] at hkept hstore hafter
      have hrest : ∀ d' ∈ rest, d' ∈ s₁.store.stored := fun d' hd' =>
        hstore ▸ hds d' (List.mem_cons_of_mem d hd')
      obtain ⟨hstill, hinUse⟩ := ih hafter hrest
      cases r with
      | error e => exact ⟨fun id p hp => hstill id p (hkept id p hp), hinUse⟩
      | ok p =>
        refine ⟨fun id q hq => hstill id q (hkept id q hq), List.forall_mem_cons.mpr ⟨?_, hinUse⟩⟩
        exact hstill p.id p (instance?_of_provider hprovider)

theorem Current.instance?_select (hs : service.Current s) (purpose : Definition → Bool)
    (skipSuspended : Bool) (hp : s.instance? id = some p) :
    (service.select purpose skipSuspended s).2.instance? id = some p := by
  rw [Service.select]
  split
  · exact hp
  · next ds hds =>
    exact (hs.instance?_providers fun d hd => State.mem_stored_of_selected hds hd).1 id p hp

theorem Current.instance?_of_select (hs : service.Current s) {purpose : Definition → Bool}
    {skipSuspended : Bool} {ps : List (Provider W)}
    (h : service.select purpose skipSuspended s = (.ok ps, s')) (hp : p ∈ ps) :
    s'.instance? p.id = some p := by
  rw [Service.select] at h
  split at h
  · cases congrArg Prod.fst h
  · next ds hds =>
    obtain ⟨hps, rfl⟩ := Prod.mk.inj h
    obtain rfl := Except.ok.inj hps
    exact (hs.instance?_providers fun d hd => State.mem_stored_of_selected hds hd).2 p hp

end Service

/-! ## Calls -/

/-- What is asked of the registry. -/
inductive RegistryCall where
  | create (d : Definition)
  | update (d : Definition)
  | delete (id : Int)
  | seed (ds : List Definition)
  | select (purpose : Definition → Bool) (skipSuspended : Bool)

/-- A call, and the state in which it was made. -/
structure Step (W : Type) where
  before : State W
  call : RegistryCall

namespace Service

/-- Makes a call, whatever the answer. -/
def perform (service : Service W) : RegistryCall → State W → State W
  | .create d, s => (service.create d s).2
  | .update d, s => (service.update d s).2
  | .delete id, s => (Service.delete id s).2
  | .seed ds, s => (service.seed ds s).2
  | .select purpose skipSuspended, s => (service.select purpose skipSuspended s).2

/-- A selection has returned a provider. -/
def Returned (service : Service W) (e : Step W) (p : Provider W) : Prop :=
  ∃ purpose skipSuspended ps s', e.call = .select purpose skipSuspended ∧
    service.select purpose skipSuspended e.before = (.ok ps, s') ∧ p ∈ ps

/-- The definition under an identifier was updated or deleted, and this was not refused. -/
def Changed (service : Service W) (e : Step W) (id : Int) : Prop :=
  (∃ d d' s', e.call = .update d ∧ d.id = id ∧ service.update d e.before = (.ok d', s')) ∨
    ∃ s', e.call = .delete id ∧ Service.delete id e.before = (.ok (), s')

variable {service : Service W} {s s' : State W} {id : Int} {p : Provider W} {m : RegistryCall}

/-- A creation leaves the providers in use alone. -/
theorem instances_create (service : Service W) (d : Definition) (s : State W) :
    (service.create d s).2.instances = s.instances ∧ (service.create d s).2.built = s.built := by
  rcases create_cases service d s with ⟨e, hrefused⟩ | ⟨source, stored, store, -, -, hmade⟩
  · rw [hrefused]
    exact ⟨rfl, rfl⟩
  · rw [hmade]
    exact ⟨rfl, rfl⟩

theorem instances_seed (service : Service W) (ds : List Definition) (s : State W) :
    (service.seed ds s).2.instances = s.instances ∧ (service.seed ds s).2.built = s.built := by
  refine seed_induction (P := fun s' => s'.instances = s.instances ∧ s'.built = s.built)
    (fun d s₁ h => ?_) ds ⟨rfl, rfl⟩
  obtain ⟨hinstances, hbuilt⟩ := instances_create service d s₁
  exact ⟨hinstances.trans h.1, hbuilt.trans h.2⟩

theorem Current.perform (hs : service.Current s) (m : RegistryCall) :
    service.Current (service.perform m s) := by
  cases m with
  | create d => exact hs.create d
  | update d => exact hs.update d
  | delete id => exact hs.delete id
  | seed ds => exact seed_induction (P := service.Current) (fun d _ h => h.create d) ds hs
  | select purpose skipSuspended => exact hs.select purpose skipSuspended

/-- **Whoever is new after a call was built by it.** -/
theorem onlyNewInstances_perform (service : Service W) (m : RegistryCall) (s : State W) :
    s.OnlyNewInstances (service.perform m s) := by
  cases m with
  | create d =>
    show s.OnlyNewInstances (service.create d s).2
    obtain ⟨hinstances, hbuilt⟩ := instances_create service d s
    exact State.onlyNewInstances_of_instances_eq (Nat.le_of_eq hbuilt.symm) hinstances
  | update d =>
    show s.OnlyNewInstances (service.update d s).2
    rcases update_cases service d s with ⟨e, hrefused⟩ | ⟨source, store, -, -, hmade⟩
    · rw [hrefused]
      exact .refl s
    · rw [hmade]
      exact State.onlyNewInstances_dismiss s store d.id
  | delete id =>
    show s.OnlyNewInstances (Service.delete id s).2
    rcases delete_cases id s with ⟨e, hrefused⟩ | ⟨store, -, hmade⟩
    · rw [hrefused]
      exact .refl s
    · rw [hmade]
      exact State.onlyNewInstances_dismiss s store id
  | seed ds =>
    show s.OnlyNewInstances (service.seed ds s).2
    obtain ⟨hinstances, hbuilt⟩ := instances_seed service ds s
    exact State.onlyNewInstances_of_instances_eq (Nat.le_of_eq hbuilt.symm) hinstances
  | select purpose skipSuspended => exact onlyNewInstances_select service purpose skipSuspended s

/-- **A change takes the provider out of use.** -/
theorem instance?_perform_of_changed (h : service.Changed ⟨s, m⟩ id) :
    (service.perform m s).instance? id = none := by
  rcases h with ⟨d, d', s', hcall, rfl, hupdate⟩ | ⟨s', hcall, hdelete⟩
  · obtain rfl : m = .update d := hcall
    show (service.update d s).2.instance? d.id = none
    rcases update_cases service d s with ⟨e, hrefused⟩ | ⟨source, store, -, -, hmade⟩
    · exact nomatch congrArg Prod.fst (hrefused.symm.trans hupdate)
    · rw [hmade]
      exact State.instance?_dismiss_self _ d.id
  · obtain rfl : m = .delete id := hcall
    show (Service.delete id s).2.instance? id = none
    rcases delete_cases id s with ⟨e, hrefused⟩ | ⟨store, -, hmade⟩
    · exact nomatch congrArg Prod.fst (hrefused.symm.trans hdelete)
    · rw [hmade]
      exact State.instance?_dismiss_self _ id

/-- **Nothing else does.** -/
theorem Current.instance?_perform (hs : service.Current s) (h : ¬ service.Changed ⟨s, m⟩ id)
    (hp : s.instance? id = some p) : (service.perform m s).instance? id = some p := by
  cases m with
  | create d =>
    show (service.create d s).2.instance? id = some p
    rw [State.instance?, (instances_create service d s).1]
    exact hp
  | update d =>
    show (service.update d s).2.instance? id = some p
    rcases update_cases service d s with ⟨e, hrefused⟩ | ⟨source, store, -, -, hmade⟩
    · rw [hrefused]
      exact hp
    · rw [hmade]
      have hne : id ≠ d.id := fun hid => h (.inl ⟨d, _, _, rfl, hid.symm, hmade⟩)
      exact (State.instance?_dismiss_ne _ hne).trans hp
  | delete gone =>
    show (Service.delete gone s).2.instance? id = some p
    rcases delete_cases gone s with ⟨e, hrefused⟩ | ⟨store, -, hmade⟩
    · rw [hrefused]
      exact hp
    · rw [hmade]
      have hne : id ≠ gone := by
        rintro rfl
        exact h (.inr ⟨_, rfl, hmade⟩)
      exact (State.instance?_dismiss_ne _ hne).trans hp
  | seed ds =>
    show (service.seed ds s).2.instance? id = some p
    rw [State.instance?, (instances_seed service ds s).1]
    exact hp
  | select purpose skipSuspended => exact hs.instance?_select purpose skipSuspended hp

/-- A provider that a selection returned is in use after it. -/
theorem Returned.inUse {e : Step W} (h : service.Returned e p) (hs : service.Current e.before) :
    (service.perform e.call e.before).instance? p.id = some p := by
  obtain ⟨purpose, skipSuspended, ps, s', hcall, hselect, hp⟩ := h
  rw [hcall]
  show (service.select purpose skipSuspended e.before).2.instance? p.id = some p
  rw [hselect]
  exact hs.instance?_of_select hselect hp

/-- A selection changes no definition. -/
theorem Returned.not_changed {e : Step W} (h : service.Returned e p) (id : Int) :
    ¬ service.Changed e id := by
  obtain ⟨purpose, skipSuspended, ps, s', hcall, -, -⟩ := h
  rintro (⟨d, d', s', hupdate, -⟩ | ⟨s', hdelete, -⟩)
  · exact nomatch hcall.symm.trans hupdate
  · exact nomatch hcall.symm.trans hdelete

/-! ## Runs -/

/-- The runs of a service, whatever is stored at first; the last step comes first. -/
inductive RegistryRun (service : Service W) : List (Step W) → State W → Prop
  | start {s : State W} (sorted : s.store.Ascending) (unused : s.instances = []) :
      RegistryRun service [] s
  | step {past : List (Step W)} {s : State W} (before : RegistryRun service past s) (m : RegistryCall) :
      RegistryRun service (⟨s, m⟩ :: past) (service.perform m s)
  /-- Whatever else happens leaves the stored definitions and the providers in use alone. -/
  | meanwhile {past : List (Step W)} {s s' : State W} (before : RegistryRun service past s)
      (definitions : s'.store.definitions = s.store.definitions)
      (lastId : s'.store.lastId = s.store.lastId) (instances : s'.instances = s.instances)
      (built : s.built ≤ s'.built) : RegistryRun service past s'

/-- What is known of a provider that was returned, after more steps. -/
structure ReturnedInstance (service : Service W) (since : List (Step W)) (p : Provider W)
    (s : State W) : Prop where
  /-- Every provider that is built from now on has a greater number. -/
  number_lt : p.number < s.built
  /-- It is in use if its definition was not changed. -/
  inUse : (∀ e ∈ since, ¬ service.Changed e p.id) → s.instance? p.id = some p

/-- What is known of a step that was made, after more of them. -/
structure AfterChange (service : Service W) (e : Step W) (s : State W) : Prop where
  built_le : e.before.built ≤ s.built
  /-- Whoever is in use under an identifier that the step changed was built after it. -/
  later : ∀ id, service.Changed e id → ∀ q, s.instance? id = some q → e.before.built ≤ q.number

/-- What is known of all steps of a run, and of all providers that were returned in it. -/
structure RunInvariant (service : Service W) (past : List (Step W)) (s : State W) : Prop where
  current : service.Current s
  numbered : ∀ id p, s.instance? id = some p → p.number < s.built
  returned : ∀ since e earlier p, past = since ++ e :: earlier → service.Returned e p →
    service.ReturnedInstance since p s
  afterChange : ∀ e ∈ past, service.AfterChange e s

variable {past : List (Step W)}

/-- Whoever is in use has a number below that of the next one, which no call changes. -/
theorem numbered_of_onlyNewInstances (h : s.OnlyNewInstances s')
    (hs : ∀ id p, s.instance? id = some p → p.number < s.built) :
    ∀ id p, s'.instance? id = some p → p.number < s'.built := by
  intro id p hp
  rcases h.new_or_old id p hp with hp | ⟨-, hlt⟩
  · exact Nat.lt_of_lt_of_le (hs id p hp) h.built_le
  · exact hlt

/-- What a call leaves of what is known. -/
theorem ReturnedInstance.perform {since : List (Step W)} (h : service.ReturnedInstance since p s)
    (hs : service.Current s) (m : RegistryCall) :
    service.ReturnedInstance (⟨s, m⟩ :: since) p (service.perform m s) := by
  refine ⟨Nat.lt_of_lt_of_le h.number_lt (onlyNewInstances_perform service m s).built_le,
    fun hnone => ?_⟩
  obtain ⟨hlast, hsince⟩ := List.forall_mem_cons.mp hnone
  exact hs.instance?_perform hlast (h.inUse hsince)

/-- Nobody from before the change comes into use again. -/
theorem AfterChange.of_onlyNewInstances {e : Step W} (h : service.AfterChange e s)
    (hinstances : s.OnlyNewInstances s') : service.AfterChange e s' := by
  refine ⟨Nat.le_trans h.built_le hinstances.built_le, fun id hchanged q hq => ?_⟩
  rcases hinstances.new_or_old id q hq with hold | ⟨hnew, -⟩
  · exact h.later id hchanged q hold
  · exact Nat.le_trans h.built_le hnew

/-- After a change nobody is in use. -/
theorem afterChange_perform (service : Service W) (m : RegistryCall) (s : State W) :
    service.AfterChange ⟨s, m⟩ (service.perform m s) := by
  refine ⟨(onlyNewInstances_perform service m s).built_le, fun id hchanged q hq => ?_⟩
  exact nomatch (instance?_perform_of_changed hchanged).symm.trans hq

/-- **The step.** -/
theorem RunInvariant.perform (h : service.RunInvariant past s) (m : RegistryCall) :
    service.RunInvariant (⟨s, m⟩ :: past) (service.perform m s) := by
  have hinstances := onlyNewInstances_perform service m s
  have hnumbered := numbered_of_onlyNewInstances hinstances h.numbered
  have hafter : ∀ e ∈ (⟨s, m⟩ :: past : List (Step W)), service.AfterChange e (service.perform m s) :=
    List.forall_mem_cons.mpr
      ⟨afterChange_perform service m s, fun e he => (h.afterChange e he).of_onlyNewInstances hinstances⟩
  refine ⟨h.current.perform m, hnumbered, fun since e earlier p hpast hreturned => ?_, hafter⟩
  cases since with
  | nil =>
    -- it was returned just now
    obtain ⟨rfl, rfl⟩ := List.cons.inj hpast
    have hinUse : (service.perform m s).instance? p.id = some p := hreturned.inUse h.current
    exact ⟨hnumbered p.id p hinUse, fun _ => hinUse⟩
  | cons last since =>
    obtain ⟨rfl, hbefore⟩ := List.cons.inj hpast
    exact (h.returned since e earlier p hbefore hreturned).perform h.current m

/-- **The run.** -/
theorem RegistryRun.invariant (h : service.RegistryRun past s) : service.RunInvariant past s := by
  induction h with
  | @start s sorted unused =>
    have hnone (id : Int) : s.instance? id = none := by
      rw [State.instance?, unused]
      rfl
    refine ⟨(Reached.start sorted unused).current, fun id p hp => ?_, fun since e earlier p hpast => ?_,
      List.forall_mem_nil _⟩
    · cases (hnone id).symm.trans hp
    · cases since <;> cases hpast
  | step _ m ih => exact ih.perform m
  | @meanwhile past s s' _ definitions lastId instances built ih =>
    have hsame (id : Int) : s'.instance? id = s.instance? id := by
      rw [State.instance?, instances]
      rfl
    have hstored : s'.store.stored = s.store.stored := by rw [Store.stored, definitions, Store.stored]
    have hinstances : s.OnlyNewInstances s' := State.onlyNewInstances_of_instances_eq built instances
    refine ⟨?_, numbered_of_onlyNewInstances hinstances ih.numbered,
      fun since e earlier p hpast hreturned => ?_,
      fun e he => (ih.afterChange e he).of_onlyNewInstances hinstances⟩
    · refine ih.current.of_kept ⟨?_, ?_⟩ fun id p hp => ⟨hsame id ▸ hp, fun _ hmem => hstored ▸ hmem⟩
      · rw [definitions]
        exact ih.current.ascending.sorted
      · rw [definitions, lastId]
        exact ih.current.ascending.le_lastId
    · obtain ⟨hnumber, hinUse⟩ := ih.returned since e earlier p hpast hreturned
      exact ⟨Nat.lt_of_lt_of_le hnumber built, fun hnone => (hsame p.id).trans (hinUse hnone)⟩

/-- A run up to one of its steps. -/
theorem RegistryRun.of_append {later : List (Step W)} {e : Step W} {s : State W}
    (h : service.RegistryRun (later ++ e :: past) s) : service.RegistryRun past e.before := by
  generalize hall : later ++ e :: past = all at h
  induction h generalizing later with
  | start _ _ => cases later <;> exact nomatch hall
  | step before m ih =>
    cases later with
    | nil =>
      obtain ⟨rfl, rfl⟩ := List.cons.inj hall
      exact before
    | cons last later => exact ih (List.cons.inj hall).2
  | meanwhile _ _ _ _ _ ih => exact ih hall

/-- What is promised of the providers that the selections of a run return. -/
structure KeepsInstances (service : Service W) (past : List (Step W)) : Prop where
  /-- Two selections return the same provider for a definition that was not changed in between: with its
  source, its caches and its number. -/
  same : ∀ later second between first earlier p q,
    past = later ++ second :: (between ++ first :: earlier) → service.Returned first p →
      service.Returned second q → q.id = p.id → (∀ e ∈ between, ¬ service.Changed e p.id) → q = p
  /-- If the definition was changed in between, the second was built after the first. -/
  other : ∀ later second between first earlier p q,
    past = later ++ second :: (between ++ first :: earlier) → service.Returned first p →
      service.Returned second q → q.id = p.id → (∃ e ∈ between, service.Changed e p.id) →
        p.number < q.number
  /-- Whether it was ever returned or not, nobody who was built before a change of the definition is
  returned after it. -/
  rebuilt : ∀ later second between change earlier q,
    past = later ++ second :: (between ++ change :: earlier) → service.Changed change q.id →
      service.Returned second q → change.before.built ≤ q.number

/-- **One provider for each definition that stays unchanged**, in every run, and never again one from
before a change. -/
theorem keepsInstances_of_registryRun (h : service.RegistryRun past s) : service.KeepsInstances past := by
  have hrebuilt : ∀ later second between change earlier q,
      past = later ++ second :: (between ++ change :: earlier) → service.Changed change q.id →
        service.Returned second q → change.before.built ≤ q.number := by
    intro later second between change earlier q hpast hchanged hsecond
    subst hpast
    have hinvariant := h.of_append.invariant
    have hafter : service.AfterChange change second.before :=
      hinvariant.afterChange change (List.mem_append_right between List.mem_cons_self)
    have hlast := onlyNewInstances_perform service second.call second.before
    exact (hafter.of_onlyNewInstances hlast).later q.id hchanged q (hsecond.inUse hinvariant.current)
  refine ⟨?_, ?_, hrebuilt⟩
  · intro later second between first earlier p q hpast hfirst hsecond hid hnone
    subst hpast
    have hinvariant := h.of_append.invariant
    have hkept := (hinvariant.returned between first earlier p rfl hfirst).perform hinvariant.current
      second.call
    have hstill := hkept.inUse (List.forall_mem_cons.mpr ⟨hsecond.not_changed p.id, hnone⟩)
    have hinUse := hsecond.inUse hinvariant.current
    rw [hid] at hinUse
    exact Option.some.inj (hinUse.symm.trans hstill)
  · intro later second between first earlier p q hpast hfirst hsecond hid hsome
    obtain ⟨change, hmem, hchanged⟩ := hsome
    obtain ⟨after, sooner, rfl⟩ := List.append_of_mem hmem
    rw [List.append_assoc, List.cons_append] at hpast
    -- the first was built before the change, and the second after it
    have hbuilt := hrebuilt later second after change _ q hpast (hid.symm ▸ hchanged) hsecond
    have hbefore : service.RegistryRun (sooner ++ first :: earlier) change.before := by
      rw [hpast] at h
      exact h.of_append.of_append
    have hreturned := hbefore.invariant.returned sooner first earlier p rfl hfirst
    exact Nat.lt_of_lt_of_le hreturned.number_lt hbuilt

/-- All providers are selected. -/
def selection : RegistryCall := .select (fun _ => true) false

/-- A definition is to be given a priority that is out of bounds. -/
def invalidUpdate : RegistryCall :=
  .update { Definition.new "second" "Mock" with id := 2, priority := 101 }

/-- The state after a selection and a refused update. -/
def stateAfterInvalidUpdate : State Unit :=
  pickyService.perform invalidUpdate (pickyService.perform selection stateOfThree)

theorem not_changed_invalidUpdate (s : State Unit) (id : Int) :
    ¬ pickyService.Changed ⟨s, invalidUpdate⟩ id ∧ pickyService.perform invalidUpdate s = s := by
  obtain ⟨e, hrefused⟩ : ∃ e, pickyService.update
      { Definition.new "second" "Mock" with id := 2, priority := 101 } s = (.error e, s) := by
    rcases update_cases pickyService
        { Definition.new "second" "Mock" with id := 2, priority := 101 } s with
      hrefused | ⟨source, store, hchecked, -, -⟩
    · exact hrefused
    · exact absurd (checkedSource_eq_ok hchecked).2.2 (by decide)
  refine ⟨?_, congrArg Prod.snd hrefused⟩
  rintro (⟨d, d', s', hcall, -, hupdate⟩ | ⟨s', hcall, -⟩)
  · obtain rfl := RegistryCall.update.inj hcall
    exact nomatch congrArg Prod.fst (hrefused.symm.trans hupdate)
  · exact nomatch hcall

/-- The second definition has a provider in every selection from the three definitions. -/
theorem returned_second {s : State Unit} (hs : pickyService.Current s)
    (hstore : s.store = stateOfThree.store) :
    ∃ p, pickyService.Returned ⟨s, selection⟩ p ∧ p.id = 2 := by
  have hread : s.store.definitionFault = none := by
    rw [hstore]
    rfl
  have hselection : ∃ ps s', pickyService.select (fun _ => true) false s = (.ok ps, s') ∧
      pickyService.Selects s Definition.enabled false ps :=
    hs.selects hread fun d => (Bool.and_true d.enabled).symm
  obtain ⟨ps, s', hselect, hselects⟩ := hselection
  have hmem : (DefinitionRow.write 2 (Definition.new "second" "Mock")).read ∈ s.store.stored := by
    rw [hstore]
    exact List.mem_cons_of_mem _ List.mem_cons_self
  obtain ⟨p, ⟨hp, hdefinition⟩, -⟩ := hselects.each _ hmem ⟨rfl, ⟨_, rfl⟩, fun h => nomatch h⟩
  exact ⟨p, ⟨_, _, ps, s', rfl, hselect, hp⟩, congrArg Definition.id hdefinition⟩

/-- **A refused update does not cost a provider its place.** -/
theorem keepsInstances_invalidUpdate :
    pickyService.RegistryRun [⟨stateAfterInvalidUpdate, selection⟩,
      ⟨pickyService.perform selection stateOfThree, invalidUpdate⟩, ⟨stateOfThree, selection⟩]
      (pickyService.perform selection stateAfterInvalidUpdate) ∧
    ∃ p, pickyService.Returned ⟨stateOfThree, selection⟩ p ∧
      pickyService.Returned ⟨stateAfterInvalidUpdate, selection⟩ p ∧ p.id = 2 := by
  have hstart : pickyService.RegistryRun [] stateOfThree := .start ⟨by decide, by decide⟩ rfl
  have hbefore := (hstart.step selection).step invalidUpdate
  have hrun := hbefore.step selection
  have hstore : stateAfterInvalidUpdate.store = stateOfThree.store := by
    rw [stateAfterInvalidUpdate, (not_changed_invalidUpdate _ 2).2]
    exact store_select _ _ _ _
  obtain ⟨p, hfirst, hp⟩ := returned_second hstart.invariant.current rfl
  obtain ⟨q, hsecond, hq⟩ := returned_second hbefore.invariant.current hstore
  have hsame : q = p :=
    (keepsInstances_of_registryRun hrun).same [] _ [_] _ [] p q rfl hfirst hsecond (hq.trans hp.symm)
      (List.forall_mem_singleton.mpr (not_changed_invalidUpdate _ _).1)
  exact ⟨hrun, p, hfirst, hsame ▸ hsecond, hp⟩

end Service
end Biblio
