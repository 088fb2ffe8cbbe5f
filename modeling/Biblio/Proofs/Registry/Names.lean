import Biblio.Proofs.Registry.Changes
import Biblio.Sample

/-!
# Names stay unique

The store knows nothing of names.  That no two definitions share one is the work of the checks before
each change, which compare a name with those that are stored at that time, apart from the one under the
same identifier.

* `State.FromEmpty` are the states that come from a store without definitions, whatever is created,
  updated, deleted and seeded in whichever service.
* `Store.NamesInvariant` is the invariant: identifiers are positive, since a definition that is going to
  be created has the identifier zero and is compared with all, and names are unique and not blank.
* `NamesInvariant.insert`, `NamesInvariant.update` and `NamesInvariant.delete` are the steps, and
  `FromEmpty.namesInvariant` is the run.
-/

set_option autoImplicit false

namespace Biblio

variable {W : Type}

namespace Store

/-- Stored definitions whose names are unique and not blank. -/
structure DistinctlyNamed (s : Store) : Prop where
  /-- No two of them have the same name, whatever its case and the blanks around it. -/
  distinct : s.stored.Pairwise fun a b => nameKey a.name ≠ nameKey b.name
  /-- No name is blank. -/
  named : ∀ d ∈ s.stored, Text.trim d.name ≠ ""

/-- What every change keeps. -/
structure NamesInvariant (s : Store) : Prop extends s.DistinctlyNamed where
  ascending : s.Ascending
  positive : ∀ d ∈ s.stored, 0 < d.id
  lastId_nonneg : 0 ≤ s.lastId

variable {s s' : Store} {d d' : Definition} {id : Int}

/-- A name that no other definition has, and that is not blank. -/
structure Free (s : Store) (d : Definition) : Prop where
  named : Text.trim d.name ≠ ""
  other : ∀ o ∈ s.stored, o.id ≠ d.id → nameKey o.name ≠ nameKey d.name

theorem NamesInvariant.insert (hs : s.NamesInvariant) (hfree : s.Free d) (hd : d.id = 0)
    (ok : s.insert d = .ok (d', s')) : s'.NamesInvariant := by
  have hstored := stored_insert ok
  have hlast : s'.lastId = s.lastId + 1 := by
    obtain ⟨-, -, rfl⟩ := insert_eq_ok.mp ok
    rfl
  refine ⟨⟨?_, ?_⟩, hs.ascending.insert ok, ?_, ?_⟩
  · rw [hstored, List.pairwise_append]
    refine ⟨hs.distinct, List.pairwise_singleton _ _, fun a ha b hb => ?_⟩
    -- no stored identifier is zero, so the name was compared with all of them
    have hne : a.id ≠ d.id := hd ▸ (Int.ne_of_gt (hs.positive a ha))
    rw [List.mem_singleton.mp hb]
    exact hfree.other a ha hne
  · intro a ha
    rw [hstored, List.mem_append, List.mem_singleton] at ha
    rcases ha with ha | rfl
    · exact hs.named a ha
    · exact hfree.named
  · intro a ha
    rw [hstored, List.mem_append, List.mem_singleton] at ha
    rcases ha with ha | rfl
    · exact hs.positive a ha
    · exact Int.lt_add_one_of_le hs.lastId_nonneg
  · rw [hlast]
    exact Int.le_trans hs.lastId_nonneg (Int.le_of_lt (Int.lt_succ _))

theorem NamesInvariant.update (hs : s.NamesInvariant) (hfree : s.Free d)
    (ok : s.update d = .ok (d', s')) : s'.NamesInvariant := by
  have hstored := stored_update ok
  have hlast : s'.lastId = s.lastId := by
    obtain ⟨-, -, -, rfl⟩ := update_eq_ok.mp ok
    rfl
  have hcases : ∀ a ∈ s'.stored, ∃ b ∈ s.stored, a.id = b.id ∧
      (b.id = d.id ∧ a.name = d.name ∨ b.id ≠ d.id ∧ a = b) := by
    intro a ha
    rw [hstored] at ha
    obtain ⟨b, hb, rfl⟩ := List.mem_map.mp ha
    by_cases hid : b.id = d.id
    · rw [if_pos hid]
      exact ⟨b, hb, hid.symm, .inl ⟨hid, rfl⟩⟩
    · rw [if_neg hid]
      exact ⟨b, hb, rfl, .inr ⟨hid, rfl⟩⟩
  refine ⟨⟨?_, ?_⟩, hs.ascending.update ok, ?_, hlast ▸ hs.lastId_nonneg⟩
  · rw [hstored, List.pairwise_map]
    refine (hs.distinct.and hs.ascending.stored_ids).imp_of_mem fun {a b} ha hb hab => ?_
    obtain ⟨hname, hlt⟩ := hab
    by_cases haid : a.id = d.id
    · have hbid : b.id ≠ d.id := fun hbid => absurd (haid.trans hbid.symm) (Int.ne_of_lt hlt)
      rw [if_pos haid, if_neg hbid]
      exact (hfree.other b hb hbid).symm
    · by_cases hbid : b.id = d.id
      · rw [if_neg haid, if_pos hbid]
        exact hfree.other a ha haid
      · rw [if_neg haid, if_neg hbid]
        exact hname
  · intro a ha
    obtain ⟨b, hb, -, ⟨-, hname⟩ | ⟨-, rfl⟩⟩ := hcases a ha
    · rw [hname]
      exact hfree.named
    · exact hs.named a hb
  · intro a ha
    obtain ⟨b, hb, hid, -⟩ := hcases a ha
    rw [hid]
    exact hs.positive b hb

theorem NamesInvariant.delete (hs : s.NamesInvariant) (ok : s.delete id = .ok s') :
    s'.NamesInvariant := by
  have hstored := stored_delete ok
  have hlast : s'.lastId = s.lastId := by
    obtain ⟨-, -, -, rfl⟩ := delete_eq_ok.mp ok
    rfl
  have hsub : ∀ a ∈ s'.stored, a ∈ s.stored := by
    intro a ha
    rw [hstored] at ha
    exact (List.mem_filter.mp ha).1
  refine ⟨⟨?_, fun a ha => hs.named a (hsub a ha)⟩, hs.ascending.delete ok,
    fun a ha => hs.positive a (hsub a ha), hlast ▸ hs.lastId_nonneg⟩
  rw [hstored]
  exact hs.distinct.filter _

end Store

namespace Service

variable {service : Service W} {s : State W}

/-- What was checked is free to be stored. -/
theorem free_of_checkedSource {d : Definition} {source : Source W}
    (h : service.checkedSource d s = .ok source) : s.store.Free d := by
  obtain ⟨hnames, -, -⟩ := checkedSource_eq_ok h
  obtain ⟨hblank, others, hall, hother⟩ := nameProblems_eq_nil.mp hnames
  obtain ⟨-, rfl⟩ := Store.all_eq_ok.mp hall
  exact ⟨hblank, hother⟩

theorem namesInvariant_create (hs : s.store.NamesInvariant) (d : Definition) :
    (service.create d s).2.store.NamesInvariant := by
  rcases create_cases service d s with ⟨e, hrefused⟩ | ⟨source, stored, store, hchecked, ok, hmade⟩
  · rw [hrefused]
    exact hs
  · rw [hmade]
    have hfree : s.store.Free (fresh d) := free_of_checkedSource hchecked
    have hstored : s.store.Free
        { fresh d with priority := suggestedPriority source (fresh d).priority } :=
      ⟨hfree.named, hfree.other⟩
    exact hs.insert hstored rfl ok

theorem namesInvariant_update (hs : s.store.NamesInvariant) (d : Definition) :
    (service.update d s).2.store.NamesInvariant := by
  rcases update_cases service d s with ⟨e, hrefused⟩ | ⟨source, store, hchecked, ok, hmade⟩
  · rw [hrefused]
    exact hs
  · rw [hmade]
    exact hs.update (free_of_checkedSource hchecked) ok

theorem namesInvariant_delete (hs : s.store.NamesInvariant) (id : Int) :
    (Service.delete id s).2.store.NamesInvariant := by
  rcases delete_cases id s with ⟨e, hrefused⟩ | ⟨store, ok, hmade⟩
  · rw [hrefused]
    exact hs
  · rw [hmade]
    exact hs.delete ok

end Service

/-! ## Runs -/

namespace State

/-- The states that come from a store without definitions. -/
inductive FromEmpty : State W → Prop
  | empty {s : State W} (none_stored : s.store.definitions = []) (nonneg : 0 ≤ s.store.lastId) :
      FromEmpty s
  | create {s : State W} (h : FromEmpty s) (service : Service W) (d : Definition) :
      FromEmpty (service.create d s).2
  | update {s : State W} (h : FromEmpty s) (service : Service W) (d : Definition) :
      FromEmpty (service.update d s).2
  | delete {s : State W} (h : FromEmpty s) (id : Int) : FromEmpty (Service.delete id s).2
  | seed {s : State W} (h : FromEmpty s) (service : Service W) (ds : List Definition) :
      FromEmpty (service.seed ds s).2
  /-- Whatever else happens leaves the definitions alone. -/
  | aside {s s' : State W} (h : FromEmpty s) (definitions : s'.store.definitions = s.store.definitions)
      (lastId : s'.store.lastId = s.store.lastId) : FromEmpty s'

theorem FromEmpty.namesInvariant {s : State W} (h : s.FromEmpty) : s.store.NamesInvariant := by
  induction h with
  | @empty s none_stored nonneg =>
    have hnone : s.store.stored = [] := by
      rw [Store.stored, none_stored]
      rfl
    refine ⟨⟨?_, ?_⟩, (Store.Reached.empty none_stored).ascending, ?_, nonneg⟩
    · rw [hnone]
      exact .nil
    · rw [hnone]
      rintro d ⟨⟩
    · rw [hnone]
      rintro d ⟨⟩
  | create _ service d ih => exact Service.namesInvariant_create ih d
  | update _ service d ih => exact Service.namesInvariant_update ih d
  | delete _ id ih => exact Service.namesInvariant_delete ih id
  | seed _ service ds ih =>
    exact Service.seed_induction (P := fun s => s.store.NamesInvariant)
      (fun d s hs => Service.namesInvariant_create hs d) ds ih
  | @aside s s' _ definitions lastId ih =>
    have hstored : s'.store.stored = s.store.stored := by rw [Store.stored, definitions, Store.stored]
    refine ⟨⟨?_, ?_⟩, ⟨?_, ?_⟩, ?_, ?_⟩
    · rw [hstored]
      exact ih.distinct
    · rw [hstored]
      exact ih.named
    · rw [definitions]
      exact ih.ascending.sorted
    · rw [definitions, lastId]
      exact ih.ascending.le_lastId
    · rw [hstored]
      exact ih.positive
    · rw [lastId]
      exact ih.lastId_nonneg

/-- **Names stay unique.**  In every state that comes from a store without definitions no two
definitions have the same name, and none has a blank one. -/
theorem distinctlyNamed_of_fromEmpty {s : State W} (h : s.FromEmpty) : s.store.DistinctlyNamed :=
  h.namesInvariant.toDistinctlyNamed

/-- A service with one implementation. -/
def mockService : Service Unit where
  factory := ⟨[("Mock", fun d => .ok (Sample.source d.name))]⟩
  rules := { callTimeout := Span.seconds 30 }

/-- Of three seeds the second is stored and the third is refused, since its name is taken; then the
first is given the name of the second, which is refused as well. -/
def stateAfterSeeds : State Unit :=
  (mockService.update { Definition.new "\tSECOND" "Mock" with id := 1 }
    (mockService.seed
      [Definition.new "First" "Mock", Definition.new "Second" "Mock", Definition.new " first " "Mock"]
      { world := () }).2).2

theorem distinctlyNamed_stateAfterSeeds :
    stateAfterSeeds.FromEmpty ∧ stateAfterSeeds.store.DistinctlyNamed := by
  have hfrom : stateAfterSeeds.FromEmpty :=
    ((FromEmpty.empty rfl (Int.le_refl 0)).seed mockService _).update mockService _
  exact ⟨hfrom, distinctlyNamed_of_fromEmpty hfrom⟩

end State
end Biblio
