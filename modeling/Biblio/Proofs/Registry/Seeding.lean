import Biblio.Proofs.Registry.Names

/-!
# Seeding

Seeding creates definitions one after the other, and stops at the first that is refused.  What was
stored by then stays.

* `checkedSource_error_cases` — a definition is refused because the store cannot be read, or with
  everything that is wrong with it.
* `create_of_acceptable` and `create_of_not_acceptable` are the two ways in which a creation ends.
* `Service.AllStorable` says which lists of seeds an empty store takes as a whole.  It speaks of the seeds
  alone: no two have the same name, and each is sound.
* `State.seeded` is the state in which a list of seeds is stored, one row for each and in their order.
* `seeding_of_vacant` is what seeding an empty store does with any list, and when it is all or nothing.
-/

set_option autoImplicit false

namespace Biblio

variable {W : Type}

/-- Who has an implementation built knows it. -/
theorem Factory.knows_of_build {f : Factory W} {d : Definition} {source : Source W}
    (h : f.build d = .ok source) : f.knows d.implementation = true := by
  unfold Factory.build at h
  unfold Factory.knows
  cases hfound : f.builders.lookup d.implementation with
  | none => simp [hfound] at h
  | some builder => rfl

/-! ## What is refused -/

theorem Store.all_eq_error {s : Store} {e : StoreError} :
    s.all = .error e ↔ ∃ fault, s.definitionFault = some fault ∧ e = .database fault := by
  unfold Store.all
  cases s.definitionFault with
  | none => simp [Store.checked_none]
  | some fault => simp [Store.checked_some, eq_comm]

theorem nameProblems_eq_error {stored : Except StoreError (List Definition)} {d : Definition}
    {e : RegistryError} (h : nameProblems stored d = .error e) :
    ∃ e', stored = .error e' ∧ e = .ofStore e' := by
  unfold nameProblems at h
  simp only at h
  split at h
  · simp at h
  · cases stored with
    | error e' => exact ⟨e', rfl, (Except.error.inj h).symm⟩
    | ok others =>
      simp only at h
      split at h <;> simp at h

namespace Service

variable {service : Service W} {d : Definition} {s : State W}

/-- A definition is refused because the store cannot be read, or with all that is wrong with it. -/
theorem checkedSource_error_cases {e : RegistryError} (h : service.checkedSource d s = .error e) :
    (∃ fault, s.store.definitionFault = some fault ∧ nameProblems s.store.all d = .error e ∧
        e = .storage (.database fault)) ∨
      ∃ named, nameProblems s.store.all d = .ok named ∧
        e = .invalid ⟨named ++ (service.sourceOf d).1 ++ priorityProblems d.priority⟩ := by
  rw [checkedSource, inspect] at h
  cases hnames : nameProblems s.store.all d with
  | error e' =>
    left
    rw [hnames] at h
    obtain rfl : e' = e := Except.error.inj h
    obtain ⟨stored, hall, rfl⟩ := nameProblems_eq_error hnames
    obtain ⟨fault, hfault, rfl⟩ := Store.all_eq_error.mp hall
    exact ⟨fault, hfault, rfl, rfl⟩
  | ok named =>
    right
    refine ⟨named, rfl, ?_⟩
    rw [hnames] at h
    rcases hsource : service.sourceOf d with ⟨built, _ | source⟩
    · simp only [hsource, Except.error.injEq] at h
      exact h.symm
    · simp only [hsource] at h
      split at h
      · simp at h
      · exact (Except.error.inj h).symm

/-- What passes every check has a source. -/
theorem checkedSource_of_free {source : Source W} (hfault : s.store.definitionFault = none)
    (hfree : s.store.Free d) (hbuild : service.factory.build d = .ok source)
    (hpriority : Definition.validPriority d.priority = true) :
    service.checkedSource d s = .ok source := by
  have hall : s.store.all = .ok s.store.stored := Store.all_eq_ok.mpr ⟨hfault, rfl⟩
  have hnames : nameProblems s.store.all d = .ok [] :=
    nameProblems_eq_nil.mpr ⟨hfree.named, _, hall, hfree.other⟩
  have hsource : service.sourceOf d = ([], some source) := by
    simp only [sourceOf, Factory.knows_of_build hbuild, if_true, hbuild]
  simp [checkedSource, inspect, hnames, hsource, priorityProblems, hpriority, Validation.isValid]

/-! ## One creation -/

/-- What a new definition has to be like on its own. -/
structure Sound (service : Service W) (d : Definition) : Prop where
  named : Text.trim d.name ≠ ""
  built : ∃ source, service.factory.build (fresh d) = .ok source
  /-- A priority of zero counts as none, and becomes the one by default. -/
  priority : Definition.validPriority (fresh d).priority = true

/-- A sound definition with a name that no stored one has. -/
structure Acceptable (service : Service W) (d : Definition) (s : State W) : Prop
    extends service.Sound d where
  other : ∀ o ∈ s.store.stored, o.id ≠ 0 → nameKey o.name ≠ nameKey d.name

/-- A definition as it is stored when it is created. -/
def adopted (service : Service W) (d : Definition) : Definition :=
  match service.factory.build (fresh d) with
  | .ok source => { fresh d with priority := suggestedPriority source (fresh d).priority }
  | .error _ => fresh d

/-- The rows of definitions that are created one after the other, after a last identifier. -/
def seedRows (service : Service W) : Int → List Definition → List DefinitionRow
  | _, [] => []
  | last, d :: rest =>
    DefinitionRow.write (last + 1) (service.adopted d) :: service.seedRows (last + 1) rest

end Service

/-- The state in which seeds are stored after what there is. -/
def State.seeded (s : State W) (service : Service W) (ds : List Definition) : State W :=
  { s with
    store :=
      { s.store with
        definitions := s.store.definitions ++ service.seedRows s.store.lastId ds
        lastId := s.store.lastId + ds.length } }

namespace Service

variable {service : Service W} {d : Definition} {ds : List Definition} {s : State W}

theorem create_of_acceptable (hfault : s.store.definitionFault = none)
    (h : service.Acceptable d s) :
    ∃ stored, service.create d s = (.ok stored, s.seeded service [d]) := by
  obtain ⟨source, hbuild⟩ := h.built
  have hchecked : service.checkedSource (fresh d) s = .ok source :=
    checkedSource_of_free hfault ⟨h.named, h.other⟩ hbuild h.priority
  have hadopted : service.adopted d =
      { fresh d with priority := suggestedPriority source (fresh d).priority } := by
    simp only [adopted, hbuild]
  simp [create, hchecked, Store.insert, hfault, Store.checked_none, State.seeded, seedRows, hadopted]

theorem create_of_not_acceptable (hfault : s.store.definitionFault = none)
    (h : ¬ service.Acceptable d s) : ∃ v, service.create d s = (.error (.invalid v), s) := by
  cases hchecked : service.checkedSource (fresh d) s with
  | ok source =>
    obtain ⟨-, hbuild, hpriority⟩ := checkedSource_eq_ok hchecked
    have hfree := free_of_checkedSource hchecked
    exact absurd ⟨⟨hfree.named, ⟨source, hbuild⟩, hpriority⟩, hfree.other⟩ h
  | error e =>
    rcases checkedSource_error_cases hchecked with ⟨fault, hbroken, -, -⟩ | ⟨named, -, rfl⟩
    · simp [hfault] at hbroken
    · refine ⟨⟨named ++ (service.sourceOf (fresh d)).1 ++ priorityProblems (fresh d).priority⟩, ?_⟩
      simp only [create, hchecked]

/-- A creation leaves everything as it is, or adds the row of a definition that is accepted. -/
theorem create_seeds (service : Service W) (d : Definition) (s : State W) :
    (∃ e, service.create d s = (.error e, s)) ∨
      s.store.definitionFault = none ∧ service.Acceptable d s ∧
        ∃ stored, service.create d s = (.ok stored, s.seeded service [d]) := by
  rcases create_cases service d s with hrefused | ⟨source, stored, store, hchecked, ok, -⟩
  · exact .inl hrefused
  · right
    obtain ⟨hreadable, -, -⟩ := Store.insert_eq_ok.mp ok
    obtain ⟨-, hbuild, hpriority⟩ := checkedSource_eq_ok hchecked
    have hfree := free_of_checkedSource hchecked
    have hacceptable : service.Acceptable d s :=
      ⟨⟨hfree.named, ⟨source, hbuild⟩, hpriority⟩, hfree.other⟩
    exact ⟨hreadable, hacceptable, create_of_acceptable hreadable hacceptable⟩

/-! ## The state with seeds -/

theorem seedRows_append (last : Int) (as bs : List Definition) :
    service.seedRows last (as ++ bs) =
      service.seedRows last as ++ service.seedRows (last + as.length) bs := by
  induction as generalizing last with
  | nil => simp [seedRows]
  | cons a as ih =>
    simp only [List.cons_append, seedRows, ih, List.length_cons]
    congr 3
    push_cast
    omega

theorem length_seedRows (last : Int) : (service.seedRows last ds).length = ds.length := by
  induction ds generalizing last with
  | nil => rfl
  | cons d ds ih => simp [seedRows, ih]

theorem adopted_name : (service.adopted d).name = d.name := by
  unfold adopted
  split <;> rfl

theorem names_seedRows (service : Service W) (ds : List Definition) (last : Int) :
    (service.seedRows last ds).map (·.name) = ds.map (·.name) := by
  induction ds generalizing last with
  | nil => rfl
  | cons d ds ih =>
    have hname : (DefinitionRow.write (last + 1) (service.adopted d)).name = d.name := adopted_name
    simp only [seedRows, List.map_cons, hname, ih]

theorem lt_of_mem_seedRows {last : Int} {r : DefinitionRow} (hr : r ∈ service.seedRows last ds) :
    last < r.id := by
  induction ds generalizing last with
  | nil => simp [seedRows] at hr
  | cons d ds ih =>
    rcases List.mem_cons.mp hr with rfl | hr
    · exact Int.lt_succ last
    · exact Int.lt_trans (Int.lt_succ last) (ih hr)

end Service

namespace State

variable {service : Service W} {s : State W} {ds : List Definition}

theorem seeded_nil (s : State W) (service : Service W) : s.seeded service [] = s := by
  simp [seeded, Service.seedRows]

theorem seeded_append (as bs : List Definition) :
    s.seeded service (as ++ bs) = (s.seeded service as).seeded service bs := by
  simp [seeded, Service.seedRows_append, Int.add_assoc]

theorem length_seeded :
    (s.seeded service ds).store.definitions.length = s.store.definitions.length + ds.length := by
  simp [seeded, Service.length_seedRows]

/-- The names of seeds that were stored in an empty store are taken, and no others. -/
theorem taken_seeded (none_stored : s.store.definitions = []) (nonneg : 0 ≤ s.store.lastId)
    (service : Service W) (ds : List Definition) (name : String) :
    (∃ o ∈ (s.seeded service ds).store.stored, o.id ≠ 0 ∧ nameKey o.name = nameKey name) ↔
      ∃ d ∈ ds, nameKey d.name = nameKey name := by
  have hrows : (s.seeded service ds).store.definitions = service.seedRows s.store.lastId ds := by
    simp [seeded, none_stored]
  have hnames := Service.names_seedRows service ds s.store.lastId
  simp only [Store.stored, hrows, List.mem_map, exists_exists_and_eq_and]
  constructor
  · rintro ⟨r, hr, -, hkey⟩
    have hmem : r.name ∈ ds.map (·.name) := hnames ▸ List.mem_map_of_mem hr
    obtain ⟨d, hd, hname⟩ := List.mem_map.mp hmem
    exact ⟨d, hd, by rw [hname]; exact hkey⟩
  · rintro ⟨d, hd, hkey⟩
    have hmem : d.name ∈ (service.seedRows s.store.lastId ds).map (·.name) :=
      hnames ▸ List.mem_map_of_mem hd
    obtain ⟨r, hr, hname⟩ := List.mem_map.mp hmem
    have hpos : 0 < r.id := Int.lt_of_le_of_lt nonneg (Service.lt_of_mem_seedRows hr)
    refine ⟨r, hr, Int.ne_of_gt hpos, ?_⟩
    show nameKey r.name = nameKey name
    rw [hname]
    exact hkey

end State

namespace Service

variable {service : Service W} {d : Definition} {before rest ds : List Definition} {s : State W}

/-! ## Lists of seeds -/

/-- Seeds that an empty store takes as a whole. -/
structure AllStorable (service : Service W) (ds : List Definition) : Prop where
  /-- No two have the same name, whatever its case and the blanks around it. -/
  distinct : ds.Pairwise fun a b => nameKey a.name ≠ nameKey b.name
  sound : ∀ d ∈ ds, service.Sound d

theorem allStorable_nil (service : Service W) : service.AllStorable [] := ⟨.nil, by simp⟩

theorem allStorable_snoc : service.AllStorable (before ++ [d]) ↔
    service.AllStorable before ∧ service.Sound d ∧ ∀ a ∈ before, nameKey a.name ≠ nameKey d.name := by
  constructor
  · intro h
    obtain ⟨hbefore, -, hacross⟩ := List.pairwise_append.mp h.distinct
    refine ⟨⟨hbefore, ?_⟩, h.sound d (by simp), ?_⟩
    · intro a ha
      exact h.sound a (List.mem_append_left _ ha)
    · intro a ha
      exact hacross a ha d (by simp)
  · rintro ⟨hbefore, hsound, hother⟩
    refine ⟨List.pairwise_append.mpr ⟨hbefore.distinct, List.pairwise_singleton _ _, ?_⟩, ?_⟩
    · intro a ha b hb
      rw [List.mem_singleton.mp hb]
      exact hother a ha
    · intro a ha
      rcases List.mem_append.mp ha with ha | ha
      · exact hbefore.sound a ha
      · rw [List.mem_singleton.mp ha]
        exact hsound

/-- Of seeds that can all be stored the first can. -/
theorem AllStorable.of_append (h : service.AllStorable (before ++ rest)) :
    service.AllStorable before where
  distinct := (List.pairwise_append.mp h.distinct).1
  sound a ha := h.sound a (List.mem_append_left _ ha)

/-- All seeds can be stored, or there is a first that cannot. -/
theorem allStorable_or_first (hbefore : service.AllStorable before) (rest : List Definition) :
    service.AllStorable (before ++ rest) ∨
      ∃ made d tail, before ++ rest = made ++ d :: tail ∧ service.AllStorable made ∧
        ¬ service.AllStorable (made ++ [d]) := by
  induction rest generalizing before with
  | nil =>
    left
    rw [List.append_nil]
    exact hbefore
  | cons d rest ih =>
    by_cases hnext : service.AllStorable (before ++ [d])
    · have hsplit : before ++ d :: rest = (before ++ [d]) ++ rest := by simp
      rw [hsplit]
      exact ih hnext
    · exact .inr ⟨before, d, rest, rfl, hbefore, hnext⟩

/-- A seed can be created after others exactly if all of them can be stored with it. -/
theorem acceptable_seeded_iff (none_stored : s.store.definitions = [])
    (nonneg : 0 ≤ s.store.lastId) (hbefore : service.AllStorable before) :
    service.Acceptable d (s.seeded service before) ↔ service.AllStorable (before ++ [d]) := by
  have htaken := State.taken_seeded none_stored nonneg service before d.name
  rw [allStorable_snoc]
  constructor
  · intro h
    refine ⟨hbefore, h.toSound, fun a ha hkey => ?_⟩
    obtain ⟨o, ho, hid, hsame⟩ := htaken.mpr ⟨a, ha, hkey⟩
    exact h.other o ho hid hsame
  · rintro ⟨-, hsound, hother⟩
    refine ⟨hsound, fun o ho hid hsame => ?_⟩
    obtain ⟨a, ha, hkey⟩ := htaken.mp ⟨o, ho, hid, hsame⟩
    exact hother a ha hkey

/-! ## Runs -/

section Vacant

variable (none_stored : s.store.definitions = []) (nonneg : 0 ≤ s.store.lastId)
  (readable : s.store.definitionFault = none)

include none_stored nonneg readable

/-- AllStorable seeds are created one after the other. -/
theorem createAll_of_allStorable (before rest : List Definition)
    (h : service.AllStorable (before ++ rest)) :
    service.createAll rest (s.seeded service before) = (.ok (), s.seeded service (before ++ rest)) := by
  induction rest generalizing before with
  | nil => rw [List.append_nil, createAll]
  | cons d rest ih =>
    have hsplit : before ++ d :: rest = (before ++ [d]) ++ rest := by simp
    rw [hsplit] at h ⊢
    have hnext : service.Acceptable d (s.seeded service before) :=
      (acceptable_seeded_iff none_stored nonneg h.of_append.of_append).mpr h.of_append
    obtain ⟨stored, hmade⟩ := create_of_acceptable (s := s.seeded service before) readable hnext
    rw [createAll, hmade, ← State.seeded_append]
    exact ih _ h

/-- The first seed that cannot be stored ends it. -/
theorem createAll_of_not_allStorable (before rest tail : List Definition)
    (h : service.AllStorable (before ++ rest))
    (hd : ¬ service.AllStorable (before ++ rest ++ [d])) :
    ∃ v, service.create d (s.seeded service (before ++ rest)) =
        (.error (.invalid v), s.seeded service (before ++ rest)) ∧
      service.createAll (rest ++ d :: tail) (s.seeded service before) =
        (.error (.invalid v), s.seeded service (before ++ rest)) := by
  induction rest generalizing before with
  | nil =>
    rw [List.append_nil] at h hd ⊢
    have hrefused : ¬ service.Acceptable d (s.seeded service before) := fun hok =>
      hd ((acceptable_seeded_iff none_stored nonneg h).mp hok)
    obtain ⟨v, hcreate⟩ :=
      create_of_not_acceptable (s := s.seeded service before) readable hrefused
    exact ⟨v, hcreate, by rw [List.nil_append, createAll, hcreate]⟩
  | cons a rest ih =>
    have hsplit : before ++ a :: rest = (before ++ [a]) ++ rest := by simp
    rw [hsplit] at h hd ⊢
    have hnext : service.Acceptable a (s.seeded service before) :=
      (acceptable_seeded_iff none_stored nonneg h.of_append.of_append).mpr h.of_append
    obtain ⟨stored, hmade⟩ := create_of_acceptable (s := s.seeded service before) readable hnext
    rw [List.cons_append, createAll, hmade, ← State.seeded_append]
    exact ih _ h hd

end Vacant

/-- **All or nothing**: every seed is stored, one definition for each and in their order, or seeding
fails and the state is as it was. -/
def AllOrNothing (service : Service W) (ds : List Definition) (s : State W) : Prop :=
  service.seed ds s = (.ok ds.length, s.seeded service ds) ∨
    ∃ e, service.seed ds s = (.error e, s)

/-- What seeding a store without definitions does. -/
structure Seeding (service : Service W) (ds : List Definition) (s : State W) : Prop where
  /-- AllStorable seeds are all stored. -/
  complete : s.store.definitionFault = none → service.AllStorable ds →
    service.seed ds s = (.ok ds.length, s.seeded service ds)
  /-- The first seed that cannot be stored is refused with what is wrong with it, and those before it
  stay. -/
  broken : ∀ made d rest, s.store.definitionFault = none → ds = made ++ d :: rest →
    service.AllStorable made → ¬ service.AllStorable (made ++ [d]) →
      ∃ v, service.create d (s.seeded service made) =
          (.error (.invalid v), s.seeded service made) ∧
        service.seed ds s = (.error (.invalid v), s.seeded service made)
  /-- Once one seed is stored no seeds are tried again, neither these nor others. -/
  closed : ∀ made, made ≠ [] → s.store.definitionFault = none → ∀ (service' : Service W) ds',
    service'.seed ds' (s.seeded service made) = (.ok 0, s.seeded service made)
  unreadable : ∀ fault, s.store.definitionFault = some fault →
    service.seed ds s = (.error (.storage (.database fault)), s)
  /-- Seeding is all or nothing exactly if all seeds can be stored or the first cannot, or nothing can
  be read. -/
  whole_iff : service.AllOrNothing ds s ↔
    s.store.definitionFault ≠ none ∨ service.AllStorable ds ∨ ¬ service.AllStorable (ds.take 1)

theorem seed_of_readable (none_stored : s.store.definitions = [])
    (readable : s.store.definitionFault = none) :
    service.seed ds s =
      ((service.createAll ds s).1.map fun _ => ds.length, (service.createAll ds s).2) := by
  have hall : s.store.all = .ok [] :=
    Store.all_eq_ok.mpr ⟨readable, by rw [Store.stored, none_stored]; rfl⟩
  simp only [seed, hall]
  rcases service.createAll ds s with ⟨_ | _, s'⟩ <;> rfl

theorem seed_complete (none_stored : s.store.definitions = []) (nonneg : 0 ≤ s.store.lastId)
    (readable : s.store.definitionFault = none) (h : service.AllStorable ds) :
    service.seed ds s = (.ok ds.length, s.seeded service ds) := by
  have hall := createAll_of_allStorable none_stored nonneg readable [] ds h
  rw [State.seeded_nil, List.nil_append] at hall
  rw [seed_of_readable none_stored readable, hall]
  rfl

theorem seed_broken (none_stored : s.store.definitions = []) (nonneg : 0 ≤ s.store.lastId)
    (readable : s.store.definitionFault = none) (made rest : List Definition)
    (hmade : service.AllStorable made) (hd : ¬ service.AllStorable (made ++ [d])) :
    ∃ v, service.create d (s.seeded service made) = (.error (.invalid v), s.seeded service made) ∧
      service.seed (made ++ d :: rest) s = (.error (.invalid v), s.seeded service made) := by
  obtain ⟨v, hcreate, hall⟩ :=
    createAll_of_not_allStorable none_stored nonneg readable [] made rest hmade hd
  rw [State.seeded_nil, List.nil_append] at hall
  refine ⟨v, hcreate, ?_⟩
  rw [seed_of_readable none_stored readable, hall]
  rfl

theorem seed_of_seeded {made : List Definition} (hmade : made ≠ [])
    (readable : s.store.definitionFault = none) (service' : Service W) (ds' : List Definition) :
    service'.seed ds' (s.seeded service made) = (.ok 0, s.seeded service made) := by
  have hall : (s.seeded service made).store.all = .ok (s.seeded service made).store.stored :=
    Store.all_eq_ok.mpr ⟨readable, rfl⟩
  cases hstored : (s.seeded service made).store.stored with
  | nil =>
    have hlength : (s.seeded service made).store.definitions.length = 0 := by
      rw [← List.length_map (f := DefinitionRow.read)]
      exact congrArg List.length hstored
    rw [State.length_seeded] at hlength
    exact absurd (List.eq_nil_of_length_eq_zero (by omega)) hmade
  | cons o os => rw [seed, hall, hstored]

/-- Seeds that were stored, and others not, are neither all nor nothing. -/
theorem not_allOrNothing {made : List Definition} {e : RegistryError}
    (h : service.seed ds s = (.error e, s.seeded service made)) (hmade : made ≠ []) :
    ¬ service.AllOrNothing ds s := by
  rintro (hall | ⟨e', hnothing⟩)
  · simp [hall] at h
  · have hsame : s = s.seeded service made := congrArg Prod.snd (hnothing.symm.trans h)
    have hlength := congrArg (fun s => s.store.definitions.length) hsame
    simp only [State.length_seeded] at hlength
    exact hmade (List.eq_nil_of_length_eq_zero (by omega))

theorem seed_of_fault {fault : String} (broken : s.store.definitionFault = some fault)
    (ds : List Definition) : service.seed ds s = (.error (.storage (.database fault)), s) := by
  have hall : s.store.all = .error (.database fault) := Store.all_eq_error.mpr ⟨fault, broken, rfl⟩
  simp only [seed, hall, RegistryError.ofStore]

/-- It is all or nothing exactly if nothing has to be taken back. -/
theorem allOrNothing_iff (none_stored : s.store.definitions = []) (nonneg : 0 ≤ s.store.lastId) :
    service.AllOrNothing ds s ↔
      s.store.definitionFault ≠ none ∨ service.AllStorable ds ∨ ¬ service.AllStorable (ds.take 1) := by
  cases hfault : s.store.definitionFault with
  | some fault => exact iff_of_true (.inr ⟨_, seed_of_fault hfault ds⟩) (.inl (by simp))
  | none =>
    simp only [ne_eq, not_true_eq_false, false_or]
    rcases allStorable_or_first (allStorable_nil service) ds with
      hall | ⟨made, d, rest, hsplit, hmade, hd⟩
    · exact iff_of_true (.inl (seed_complete none_stored nonneg hfault hall)) (.inl hall)
    · rw [List.nil_append] at hsplit
      subst hsplit
      obtain ⟨v, -, hseed⟩ := seed_broken none_stored nonneg hfault made rest hmade hd
      have hall : ¬ service.AllStorable (made ++ d :: rest) := by
        intro h
        rw [List.append_cons] at h
        exact hd h.of_append
      rw [or_iff_right hall]
      cases made with
      | nil =>
        rw [State.seeded_nil] at hseed
        exact iff_of_true (.inr ⟨_, hseed⟩) hd
      | cons a made =>
        -- the first of the seeds that were stored could be stored alone
        have hsplit : service.AllStorable ([a] ++ made) := hmade
        have hfirst : service.AllStorable [a] := hsplit.of_append
        exact iff_of_false (not_allOrNothing hseed (by simp)) (not_not_intro hfirst)

/-- **Seeding** a store without definitions, with any list of seeds and in any service. -/
theorem seeding_of_vacant (service : Service W) (ds : List Definition) {s : State W}
    (none_stored : s.store.definitions = []) (nonneg : 0 ≤ s.store.lastId) :
    service.Seeding ds s := by
  refine ⟨seed_complete none_stored nonneg, ?_, fun made hmade => seed_of_seeded hmade,
    fun fault broken => seed_of_fault broken ds, allOrNothing_iff none_stored nonneg⟩
  rintro made d rest readable rfl hmade hd
  exact seed_broken none_stored nonneg readable made rest hmade hd

/-- Two seeds, of which the second names an implementation that there is not. -/
def halfValidSeeds : List Definition := [Definition.new "m" "Mock", Definition.new "n" "Nope"]

theorem seeding_halfValidSeeds :
    ({ world := () } : State Unit).store.definitions = [] ∧
      (0 : Int) ≤ ({ world := () } : State Unit).store.lastId ∧
      State.mockService.Seeding halfValidSeeds { world := () } :=
  ⟨rfl, by decide, seeding_of_vacant State.mockService halfValidSeeds rfl (by decide)⟩

/-- What the two seeds leave in an empty store. -/
def outcomeOfHalfValidSeeds : Except RegistryError Nat × State Unit :=
  State.mockService.seed halfValidSeeds { world := () }

/-- **The first of two seeds stays** when the second is refused, and a next start finds a store that
has definitions. -/
theorem firstStays_halfValidSeeds :
    outcomeOfHalfValidSeeds.1 =
        .error (.invalid ⟨[⟨"implementation", "unknown implementation 'Nope'"⟩]⟩) ∧
      outcomeOfHalfValidSeeds.2.store.stored.map (·.name) = ["m"] ∧
      (State.mockService.seed halfValidSeeds outcomeOfHalfValidSeeds.2).1 = .ok 0 ∧
      ¬ ∀ (service : Service Unit) (ds : List Definition) (s : State Unit),
        s.store.definitions = [] →
          (∃ n, (service.seed ds s).1 = .ok n ∧
            (service.seed ds s).2.store.stored.map (·.name) = ds.map (·.name)) ∨
          ∃ e, (service.seed ds s).1 = .error e ∧ (service.seed ds s).2.store.definitions = [] := by
  have houtcome : outcomeOfHalfValidSeeds.1 =
      .error (.invalid ⟨[⟨"implementation", "unknown implementation 'Nope'"⟩]⟩) := by rfl
  refine ⟨houtcome, by rfl, by rfl, fun hall => ?_⟩
  rcases hall State.mockService halfValidSeeds { world := () } rfl with ⟨n, hn, -⟩ | ⟨e, -, hnone⟩
  · exact nomatch houtcome.symm.trans hn
  · exact absurd (congrArg List.length hnone) (by decide)

end Service
end Biblio
