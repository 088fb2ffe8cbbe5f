import Biblio.Store.Basic

/-!
# The stores that there are

* `insert_eq_ok`, `update_eq_ok` and `delete_eq_ok` say all that a change can do.
* `Store.Reached` are the stores that come about from one without definitions, whatever is stored,
  changed and removed, and whatever goes wrong with the tables on the way.
* `Store.Ascending` is what all of them have in common: identifiers are unique, in ascending order,
  and none is greater than the last that was assigned.
-/

set_option autoImplicit false

namespace Biblio
namespace Store

/-! ## Tables that are in order -/

theorem checked_none {α : Type} (go : Except StoreError α) : checked none go = go := rfl

theorem checked_some {α : Type} (fault : String) (go : Except StoreError α) :
    checked (some fault) go = .error (.database fault) := rfl

theorem checked_eq_ok {α : Type} {fault : Option String} {go : Except StoreError α} {a : α} :
    checked fault go = .ok a ↔ fault = none ∧ go = .ok a := by
  cases fault with
  | none => exact ⟨fun h => ⟨rfl, h⟩, fun h => h.2⟩
  | some fault => exact iff_of_false (fun h => nomatch h) (fun h => nomatch h.1)

/-- Rows that are left when those of an identifier are removed. -/
theorem find?_filter_ne {α : Type} (key : α → Int) (rows : List α) (gone id : Int) :
    ((rows.filter fun r => key r != gone).find? fun r => key r == id) =
      if id = gone then none else rows.find? fun r => key r == id := by
  rw [List.find?_filter]
  split
  · next heq =>
    subst heq
    exact List.find?_eq_none.mpr fun r _ => by simp
  · next hne =>
    congr 1
    funext r
    by_cases hr : key r = id
    · simp [hr, hne]
    · simp [hr]

/-! ## Changes of definitions

What a change that is made does to the tables. -/

theorem insert_eq_ok {s s' : Store} {d d' : Definition} : s.insert d = .ok (d', s') ↔
    s.definitionFault = none ∧ d' = { d with id := s.lastId + 1, health := none } ∧
      s' = { s with
        definitions := s.definitions ++ [DefinitionRow.write (s.lastId + 1) d]
        lastId := s.lastId + 1 } := by
  rw [insert, checked_eq_ok, Except.ok.injEq, Prod.mk.injEq, eq_comm (b := d'), eq_comm (b := s')]

theorem update_eq_ok {s s' : Store} {d d' : Definition} : s.update d = .ok (d', s') ↔
    s.definitionFault = none ∧ (∃ r ∈ s.definitions, r.id = d.id) ∧ d' = d.bare ∧
      s' = { s with
        definitions :=
          s.definitions.map fun r => if r.id = d.id then DefinitionRow.write d.id d else r } := by
  have hany : (s.definitions.any fun r => r.id == d.id) = true ↔ ∃ r ∈ s.definitions, r.id = d.id := by
    simp only [List.any_eq_true, beq_iff_eq]
  rw [update, checked_eq_ok, ← hany]
  split
  · next hfound =>
    rw [Except.ok.injEq, Prod.mk.injEq, eq_comm (b := d'), eq_comm (b := s')]
    exact and_congr_right fun _ => (and_iff_right hfound).symm
  · next hmissing =>
    exact and_congr_right fun _ => iff_of_false (fun h => nomatch h) fun h => hmissing h.1

theorem delete_eq_ok {s s' : Store} {id : Int} : s.delete id = .ok s' ↔
    s.definitionFault = none ∧ (∃ r ∈ s.definitions, r.id = id) ∧ s.removalFault = none ∧
      s' = { s with
        definitions := s.definitions.filter fun r => r.id != id
        healths := s.healths.filter fun r => r.providerId != id } := by
  have hany : (s.definitions.any fun r => r.id == id) = true ↔ ∃ r ∈ s.definitions, r.id = id := by
    simp only [List.any_eq_true, beq_iff_eq]
  rw [delete, checked_eq_ok, ← hany]
  split
  · next hfound =>
    rw [checked_eq_ok, Except.ok.injEq, eq_comm (b := s')]
    exact and_congr_right fun _ => (and_iff_right hfound).symm
  · next hmissing =>
    exact and_congr_right fun _ => iff_of_false (fun h => nomatch h) fun h => hmissing h.1

/-! ## Stores that are reached -/

/-- The stores that come about. -/
inductive Reached : Store → Prop
  /-- A store without definitions. -/
  | empty {s : Store} (h : s.definitions = []) : Reached s
  | insert {s s' : Store} {d d' : Definition} (h : Reached s) (ok : s.insert d = .ok (d', s')) :
      Reached s'
  | update {s s' : Store} {d d' : Definition} (h : Reached s) (ok : s.update d = .ok (d', s')) :
      Reached s'
  | delete {s s' : Store} {id : Int} (h : Reached s) (ok : s.delete id = .ok s') : Reached s'
  | putHealth {s s' : Store} {r : Health} (h : Reached s) (ok : s.putHealth r = .ok s') : Reached s'
  | deleteHealth {s s' : Store} {id : Int} (h : Reached s) (ok : s.deleteHealth id = .ok s') :
      Reached s'
  /-- Tables fall out of order or are put in order again. -/
  | fault {s : Store} (h : Reached s) (definitionFault healthFault removalFault : Option String) :
      Reached { s with
        definitionFault := definitionFault
        healthFault := healthFault
        removalFault := removalFault }

/-- Definitions in ascending order of their identifiers, none of them beyond the last that was
assigned. -/
structure Ascending (s : Store) : Prop where
  sorted : s.definitions.Pairwise fun a b => a.id < b.id
  le_lastId : ∀ r ∈ s.definitions, r.id ≤ s.lastId

theorem Ascending.insert {s s' : Store} {d d' : Definition} (hs : s.Ascending)
    (ok : s.insert d = .ok (d', s')) : s'.Ascending := by
  obtain ⟨-, -, rfl⟩ := insert_eq_ok.mp ok
  have hlt : ∀ r ∈ s.definitions, r.id < s.lastId + 1 := fun r hr =>
    Int.lt_add_one_of_le (hs.le_lastId r hr)
  refine ⟨List.pairwise_append.mpr ⟨hs.sorted, List.pairwise_singleton _ _, ?_⟩, ?_⟩
  · intro r hr r' hr'
    rw [List.mem_singleton.mp hr']
    exact hlt r hr
  · intro r hr
    rcases List.mem_append.mp hr with hr | hr
    · exact Int.le_of_lt (hlt r hr)
    · rw [List.mem_singleton.mp hr]
      exact Int.le_refl _

/-- Rows that keep their identifiers stay in order. -/
theorem Ascending.map {s : Store} (hs : s.Ascending) {f : DefinitionRow → DefinitionRow}
    (hf : ∀ r, (f r).id = r.id) : Ascending { s with definitions := s.definitions.map f } := by
  refine ⟨List.pairwise_map.mpr (hs.sorted.imp fun {a b} h => ?_), fun r hr => ?_⟩
  · rw [hf, hf]
    exact h
  · obtain ⟨r', hr', rfl⟩ := List.mem_map.mp hr
    rw [hf]
    exact hs.le_lastId r' hr'

theorem Ascending.update {s s' : Store} {d d' : Definition} (hs : s.Ascending)
    (ok : s.update d = .ok (d', s')) : s'.Ascending := by
  obtain ⟨-, -, -, rfl⟩ := update_eq_ok.mp ok
  refine hs.map fun r => ?_
  split
  · next h => exact h.symm
  · rfl

theorem Ascending.delete {s s' : Store} {id : Int} (hs : s.Ascending)
    (ok : s.delete id = .ok s') : s'.Ascending := by
  obtain ⟨-, -, -, rfl⟩ := delete_eq_ok.mp ok
  exact ⟨hs.sorted.filter _, fun r hr => hs.le_lastId r (List.mem_filter.mp hr).1⟩

/-- **All stores are in ascending order.** -/
theorem Reached.ascending {s : Store} (h : s.Reached) : s.Ascending := by
  induction h with
  | @empty s h => exact ⟨h ▸ .nil, fun r hr => nomatch h ▸ hr⟩
  | insert _ ok ih => exact ih.insert ok
  | update _ ok ih => exact ih.update ok
  | delete _ ok ih => exact ih.delete ok
  | putHealth _ ok ih =>
    rw [← Except.ok.inj (checked_eq_ok.mp ok).2]
    exact ⟨ih.sorted, ih.le_lastId⟩
  | deleteHealth _ ok ih =>
    rw [← Except.ok.inj (checked_eq_ok.mp ok).2]
    exact ⟨ih.sorted, ih.le_lastId⟩
  | fault _ _ _ _ ih => exact ⟨ih.sorted, ih.le_lastId⟩

end Store
end Biblio
