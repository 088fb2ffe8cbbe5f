import Biblio.Proofs.Registry.Current

/-!
# What changes can do

A change of the definitions is checked in several steps and then made, or it is refused at one of
them.

* `nameProblems_eq_nil` and `checkedSource_eq_ok` say what a definition has to be like.
* `create_cases`, `update_cases` and `delete_cases` are all that a change can do: it is refused and the
  state stays as it is, or the store has made it.
* `seed_induction` — whatever every creation keeps is kept by seeding, wherever that breaks off.
-/

set_option autoImplicit false

namespace Biblio

variable {W : Type}

/-! ## Stored definitions -/

namespace Store

variable {s s' : Store} {d d' : Definition} {id : Int}

theorem all_eq_ok {ds : List Definition} :
    s.all = .ok ds ↔ s.definitionFault = none ∧ ds = s.stored := by
  rw [all, checked_eq_ok, Except.ok.injEq, eq_comm (b := ds)]
  rfl

/-- The definition that a new row holds. -/
theorem stored_insert (ok : s.insert d = .ok (d', s')) :
    s'.stored = s.stored ++ [(DefinitionRow.write (s.lastId + 1) d).read] := by
  obtain ⟨-, -, rfl⟩ := insert_eq_ok.mp ok
  rw [stored, List.map_append]
  rfl

/-- The definitions after one was replaced. -/
theorem stored_update (ok : s.update d = .ok (d', s')) : s'.stored =
    s.stored.map fun a => if a.id = d.id then (DefinitionRow.write d.id d).read else a := by
  obtain ⟨-, -, -, rfl⟩ := update_eq_ok.mp ok
  simp only [stored, List.map_map]
  refine List.map_congr_left fun r _ => ?_
  by_cases hr : r.id = d.id
  · have hread : r.read.id = d.id := hr
    simp only [Function.comp_apply, if_pos hr, if_pos hread]
  · have hread : ¬ r.read.id = d.id := hr
    simp only [Function.comp_apply, if_neg hr, if_neg hread]

/-- The definitions after one was removed. -/
theorem stored_delete (ok : s.delete id = .ok s') :
    s'.stored = s.stored.filter fun a => a.id != id := by
  obtain ⟨-, -, -, rfl⟩ := delete_eq_ok.mp ok
  rw [stored, stored, List.filter_map]
  rfl

/-- There is a definition under an identifier. -/
def Holds (s : Store) (id : Int) : Prop := ∃ d ∈ s.stored, d.id = id

theorem holds_iff : s.Holds id ↔ ∃ r ∈ s.definitions, r.id = id := by
  constructor
  · rintro ⟨d, hd, hid⟩
    obtain ⟨r, hr, rfl⟩ := List.mem_map.mp hd
    exact ⟨r, hr, hid⟩
  · rintro ⟨r, hr, hid⟩
    exact ⟨r.read, List.mem_map_of_mem hr, hid⟩

theorem holds_insert (ok : s.insert d = .ok (d', s')) :
    s'.Holds id ↔ s.Holds id ∨ id = s.lastId + 1 := by
  rw [Holds, stored_insert ok]
  simp only [List.mem_append, List.mem_singleton, or_and_right, exists_or, exists_eq_left, Holds]
  exact or_congr_right eq_comm

theorem holds_update (ok : s.update d = .ok (d', s')) : s'.Holds id ↔ s.Holds id := by
  obtain ⟨-, -, -, rfl⟩ := update_eq_ok.mp ok
  have hid (r : DefinitionRow) :
      (if r.id = d.id then DefinitionRow.write d.id d else r).id = r.id := by
    split
    · next heq => exact heq.symm
    · rfl
  simp only [holds_iff, List.mem_map, exists_exists_and_eq_and, hid]

theorem holds_delete {gone : Int} (ok : s.delete gone = .ok s') :
    s'.Holds id ↔ s.Holds id ∧ id ≠ gone := by
  obtain ⟨-, -, -, rfl⟩ := delete_eq_ok.mp ok
  simp only [holds_iff, List.mem_filter, bne_iff_ne]
  constructor
  · rintro ⟨r, ⟨hr, hne⟩, rfl⟩
    exact ⟨⟨r, hr, rfl⟩, hne⟩
  · rintro ⟨⟨r, hr, rfl⟩, hne⟩
    exact ⟨r, ⟨hr, hne⟩, rfl⟩

end Store

/-- A definition that is stored is known. -/
theorem State.knows_of_holds {s : State W} {id : Int} (readable : s.store.definitionFault = none)
    (h : s.store.Holds id) : s.knows id = .ok true := by
  obtain ⟨r, hr, hid⟩ := Store.holds_iff.mp h
  have hfound : (s.store.definitions.find? fun r => r.id == id).isSome = true :=
    List.find?_isSome.mpr ⟨r, hr, beq_iff_eq.mpr hid⟩
  rw [State.knows, Store.find?, readable, Store.checked_none]
  simpa using hfound

/-! ## What is checked -/

/-- What is said of a name that is taken. -/
def takenProblem (d : Definition) : Problem :=
  ⟨"name", "a provider named '" ++ Text.trim d.name ++ "' already exists"⟩

/-- **A name that is not blank** is compared with those of all other definitions. -/
theorem nameProblems_of_named {others : List Definition} {d : Definition}
    (hnamed : Text.trim d.name ≠ "") : nameProblems (.ok others) d =
      if ∃ o ∈ others, o.id ≠ d.id ∧ nameKey o.name = nameKey d.name then .ok [takenProblem d]
      else .ok [] := by
  have htaken : (others.any fun o => o.id != d.id && nameKey o.name == nameKey d.name) = true ↔
      ∃ o ∈ others, o.id ≠ d.id ∧ nameKey o.name = nameKey d.name := by
    simp only [List.any_eq_true, Bool.and_eq_true, bne_iff_ne, beq_iff_eq]
  simp only [nameProblems, if_neg hnamed, htaken]
  rfl

/-- A name is accepted if it is not blank and no other definition has it. -/
theorem nameProblems_eq_nil {stored : Except StoreError (List Definition)} {d : Definition} :
    nameProblems stored d = .ok [] ↔ Text.trim d.name ≠ "" ∧
      ∃ others, stored = .ok others ∧
        ∀ o ∈ others, o.id ≠ d.id → nameKey o.name ≠ nameKey d.name := by
  by_cases hnamed : Text.trim d.name = ""
  · simp [nameProblems, hnamed]
  · cases stored with
    | error e => simp [nameProblems, hnamed]
    | ok others => simp [nameProblems_of_named hnamed, hnamed]

/-- A name is taken if it is not blank and another definition has it. -/
theorem taken_mem_nameProblems {stored : Except StoreError (List Definition)} {d : Definition} :
    (∃ named, nameProblems stored d = .ok named ∧ takenProblem d ∈ named) ↔
      Text.trim d.name ≠ "" ∧ ∃ others, stored = .ok others ∧
        ∃ o ∈ others, o.id ≠ d.id ∧ nameKey o.name = nameKey d.name := by
  by_cases hnamed : Text.trim d.name = ""
  · have hother : takenProblem d ≠ ⟨"name", "must not be empty"⟩ := by
      rw [takenProblem, hnamed]
      decide
    simp [nameProblems, hnamed, hother]
  · cases stored with
    | error e => simp [nameProblems, hnamed]
    | ok others =>
      rw [nameProblems_of_named hnamed]
      split
      · next h => exact iff_of_true ⟨_, rfl, List.mem_singleton_self _⟩ ⟨hnamed, others, rfl, h⟩
      · next h => simpa [hnamed] using h

namespace Service

variable {service : Service W} {d : Definition} {s : State W}

/-- A source that was built has nothing wrong with it. -/
theorem sourceOf_eq_some {problems : List Problem} {source : Source W}
    (h : service.sourceOf d = (problems, some source)) :
    problems = [] ∧ service.factory.build d = .ok source := by
  rw [sourceOf] at h
  split at h
  · split at h
    · next built hbuild =>
      obtain ⟨rfl, hsource⟩ := Prod.mk.inj h
      exact ⟨rfl, hbuild.trans (congrArg Except.ok (Option.some.inj hsource))⟩
    · exact nomatch (Prod.mk.inj h).2
    · exact nomatch (Prod.mk.inj h).2
  · exact nomatch (Prod.mk.inj h).2

/-- **A valid definition** has a name of its own, a source and a priority within the bounds. -/
theorem checkedSource_eq_ok {source : Source W} (h : service.checkedSource d s = .ok source) :
    nameProblems s.store.all d = .ok [] ∧ service.factory.build d = .ok source ∧
      Definition.validPriority d.priority = true := by
  rw [checkedSource, inspect] at h
  cases hnames : nameProblems s.store.all d with
  | error e =>
    rw [hnames] at h
    exact nomatch h
  | ok named =>
    rw [hnames] at h
    rcases hsource : service.sourceOf d with ⟨built, _ | source'⟩
    · rw [hsource] at h
      exact nomatch h
    · rw [hsource] at h
      obtain ⟨rfl, hbuild⟩ := sourceOf_eq_some hsource
      simp only [List.append_nil, Validation.isValid] at h
      split at h
      · next hvalid =>
        obtain ⟨rfl, hpriority⟩ := List.append_eq_nil_iff.mp (List.isEmpty_iff.mp hvalid)
        obtain rfl := Except.ok.inj h
        refine ⟨rfl, hbuild, ?_⟩
        by_contra hout
        rw [priorityProblems, if_neg hout] at hpriority
        exact nomatch hpriority
      · exact nomatch h

/-! ## What changes -/

/-- **A creation** is refused, or the definition is stored under a new identifier. -/
theorem create_cases (service : Service W) (d : Definition) (s : State W) :
    (∃ e, service.create d s = (.error e, s)) ∨
      ∃ source stored store, service.checkedSource (fresh d) s = .ok source ∧
        s.store.insert
          { fresh d with priority := suggestedPriority source (fresh d).priority } =
            .ok (stored, store) ∧
        service.create d s =
          (.ok (({ s with store := store } : State W).withHealth stored),
            { s with store := store }) := by
  rw [create]
  cases hchecked : service.checkedSource (fresh d) s with
  | error e => exact .inl ⟨e, rfl⟩
  | ok source =>
    simp only
    cases hinsert : s.store.insert
        { fresh d with priority := suggestedPriority source (fresh d).priority } with
    | error e => exact .inl ⟨.ofStore e, rfl⟩
    | ok r => exact .inr ⟨source, r.1, r.2, rfl, hinsert, rfl⟩

/-- **An update** is refused, or the definition is replaced and its provider is out of use. -/
theorem update_cases (service : Service W) (d : Definition) (s : State W) :
    (∃ e, service.update d s = (.error e, s)) ∨
      ∃ source store, service.checkedSource d.bare s = .ok source ∧
        s.store.update d.bare = .ok (d.bare, store) ∧
        service.update d s =
          (.ok ((({ s with store := store } : State W).dismiss d.id).withHealth d.bare),
            ({ s with store := store } : State W).dismiss d.id) := by
  rw [update]
  split
  · exact .inl ⟨_, rfl⟩
  · exact .inl ⟨_, rfl⟩
  · cases hchecked : service.checkedSource d.bare s with
    | error e => exact .inl ⟨e, rfl⟩
    | ok source =>
      simp only
      cases hupdate : s.store.update d.bare with
      | error e => exact .inl ⟨.ofStore e, rfl⟩
      | ok r =>
        obtain ⟨stored, store⟩ := r
        obtain ⟨-, -, rfl, -⟩ := Store.update_eq_ok.mp hupdate
        exact .inr ⟨source, store, rfl, rfl, rfl⟩

/-- **A removal** is refused, or the definition is gone and its provider is out of use. -/
theorem delete_cases (id : Int) (s : State W) :
    (∃ e, Service.delete id s = (.error e, s)) ∨
      ∃ store, s.store.delete id = .ok store ∧
        Service.delete id s = (.ok (), ({ s with store := store } : State W).dismiss id) := by
  rw [delete]
  cases hdelete : s.store.delete id with
  | error e => exact .inl ⟨.ofStore e, rfl⟩
  | ok store => exact .inr ⟨store, rfl, rfl⟩

theorem createAll_induction {P : State W → Prop}
    (step : ∀ d s, P s → P (service.create d s).2) (ds : List Definition) (hs : P s) :
    P (service.createAll ds s).2 := by
  induction ds generalizing s with
  | nil => exact hs
  | cons d ds ih =>
    have hnext := step d s hs
    rw [createAll]
    split
    · next heq =>
      rw [heq] at hnext
      exact hnext
    · next heq =>
      rw [heq] at hnext
      exact ih hnext

/-- **Seeding** keeps what every creation keeps. -/
theorem seed_induction {P : State W → Prop} (step : ∀ d s, P s → P (service.create d s).2)
    (ds : List Definition) (hs : P s) : P (service.seed ds s).2 := by
  have hall := createAll_induction step ds hs
  rw [seed]
  split
  · exact hs
  · exact hs
  · split
    · next heq =>
      rw [heq] at hall
      exact hall
    · next heq =>
      rw [heq] at hall
      exact hall

end Service
end Biblio
