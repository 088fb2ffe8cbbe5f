import Biblio.Proofs.Store.Reached
import Biblio.Registry.Selection
import Mathlib

/-!
# The order of the providers

Providers are asked by descending priority, and those of the same priority by ascending identifier.

* `filter_mergeSort` — sorting by priority does not change the order within a priority.
* `selected_before` — so the selected definitions are in order, in every store that is reached.
* `selectFor_before` — and so are the providers in use for them, whether they were built just now or
  earlier.
-/

set_option autoImplicit false

namespace Biblio

/-! ## Sorting by priority -/

/-- The definition of higher priority comes first, and of the same priority the one that was stored
first. -/
def Definition.Before (a b : Definition) : Prop :=
  b.priority < a.priority ∨ a.priority = b.priority ∧ a.id < b.id

/-- The order in which the definitions are sorted. -/
def byPriority (a b : Definition) : Bool := b.priority ≤ a.priority

theorem byPriority_trans (a b c : Definition) (hab : byPriority a b = true)
    (hbc : byPriority b c = true) : byPriority a c = true :=
  decide_eq_true (Nat.le_trans (of_decide_eq_true hbc) (of_decide_eq_true hab))

theorem byPriority_total (a b : Definition) : (byPriority a b || byPriority b a) = true := by
  simp only [byPriority, Bool.or_eq_true, decide_eq_true_eq]
  exact Nat.le_total _ _

/-- Within a priority nothing is moved. -/
theorem filter_mergeSort (ds : List Definition) (k : Nat) :
    (ds.mergeSort byPriority).filter (fun d => d.priority == k) =
      ds.filter (fun d => d.priority == k) := by
  have hequal : (ds.filter (fun d => d.priority == k)).Pairwise (fun a b => byPriority a b) := by
    refine List.pairwise_of_forall_mem_list fun a ha b hb => ?_
    have ha := eq_of_beq (List.mem_filter.mp ha).2
    have hb := eq_of_beq (List.mem_filter.mp hb).2
    exact decide_eq_true (Nat.le_of_eq (hb.trans ha.symm))
  have hsub := (List.sublist_mergeSort byPriority_trans byPriority_total hequal
    List.filter_sublist).filter (fun d => d.priority == k)
  rw [List.filter_filter] at hsub
  have hlen := ((List.mergeSort_perm ds byPriority).filter (fun d => d.priority == k)).length_eq
  simp only [Bool.and_self] at hsub
  exact (hsub.eq_of_length hlen.symm).symm

/-- Definitions in ascending order of their identifiers come out in order. -/
theorem mergeSort_before {ds : List Definition} (h : ds.Pairwise fun a b => a.id < b.id) :
    (ds.mergeSort byPriority).Pairwise Definition.Before := by
  rw [List.pairwise_iff_forall_sublist]
  intro a b hab
  have hle := List.pairwise_iff_forall_sublist.mp
    (List.pairwise_mergeSort byPriority_trans byPriority_total ds) hab
  rcases Nat.lt_or_eq_of_le (of_decide_eq_true hle) with hlt | heq
  · exact .inl hlt
  · refine .inr ⟨heq.symm, ?_⟩
    have hsub := hab.filter (fun d => d.priority == a.priority)
    have ha : (a.priority == a.priority) = true := beq_self_eq_true _
    have hb : (b.priority == a.priority) = true := beq_iff_eq.mpr heq
    rw [filter_mergeSort] at hsub
    simp only [List.filter_cons, ha, hb, if_true, List.filter_nil] at hsub
    exact List.pairwise_iff_forall_sublist.mp h (hsub.trans List.filter_sublist)

/-! ## The selected definitions -/

variable {W : Type}

/-- **The selected definitions are in order.** -/
theorem selected_before {s : State W} (hs : s.store.Ascending) {purpose : Definition → Bool}
    {skipSuspended : Bool} {ds : List Definition}
    (h : s.selected purpose skipSuspended = .ok ds) : ds.Pairwise Definition.Before := by
  rw [State.selected] at h
  cases hall : s.store.all with
  | error e =>
    rw [hall] at h
    exact nomatch h
  | ok all =>
    rw [hall] at h
    have hids : all.Pairwise fun a b => a.id < b.id := by
      rw [← Except.ok.inj (Store.checked_eq_ok.mp hall).2]
      exact List.pairwise_map.mpr hs.sorted
    rw [← Except.ok.inj h]
    refine mergeSort_before ?_
    split
    · exact (hids.filter _).filter _
    · exact hids.filter _

/-! ## The providers in use -/

/-- What the order goes by. -/
def Definition.rank (d : Definition) : Nat × Int := (d.priority, d.id)

/-- The order of ranks. -/
def Earlier (x y : Nat × Int) : Prop := y.1 < x.1 ∨ x.1 = y.1 ∧ x.2 < y.2

theorem Definition.rank_of_sameConfig {a b : Definition} (h : a.sameConfig b = true) :
    a.rank = b.rank := by
  have hid : (a.id == b.id) = true ∧ (a.priority == b.priority) = true := by
    simp only [sameConfig, bare, BEq.beq, instBEqDefinition.beq, Bool.and_eq_true] at h
    exact ⟨h.1, h.2.2.2.1⟩
  rw [rank, rank, eq_of_beq hid.1, eq_of_beq hid.2]

namespace Service

theorem rank_replace {service : Service W} {d : Definition} {s s' : State W} {p : Provider W}
    (h : service.replace d s = (.ok p, s')) : p.definition.rank = d.rank := by
  rw [replace] at h
  cases hbuild : service.factory.build d with
  | error e =>
    rw [hbuild] at h
    exact nomatch congrArg Prod.fst h
  | ok source =>
    rw [hbuild] at h
    rw [← Except.ok.inj (congrArg Prod.fst h)]
    rfl

/-- The provider in use for a definition has its place in the order. -/
theorem rank_provider {service : Service W} {d : Definition} {s s' : State W} {p : Provider W}
    (h : service.provider d s = (.ok p, s')) : p.definition.rank = d.rank := by
  rw [provider] at h
  split at h
  · split at h
    · next hsame =>
      rw [← Except.ok.inj (congrArg Prod.fst h)]
      exact Definition.rank_of_sameConfig hsame
    · exact rank_replace h
  · exact rank_replace h

/-- Definitions that cannot be built are left out, and the others keep their order. -/
theorem ranks_providers (service : Service W) (ds : List Definition) (s : State W) :
    ((service.providers ds s).1.map fun p => p.definition.rank).Sublist
      (ds.map Definition.rank) := by
  induction ds generalizing s with
  | nil => exact .slnil
  | cons d rest ih =>
    rw [providers]
    cases hprovider : service.provider d s with
    | mk r s' =>
      cases r with
      | error e => exact (ih s').cons _
      | ok p =>
        rw [List.map_cons]
        refine (rank_provider hprovider) ▸ ?_
        exact (ih s').cons_cons _

/-- **The providers are asked in order.** -/
theorem selectFor_before {service : Service W} {s s' : State W} (hs : s.store.Ascending)
    {category : Category} {skipSuspended : Bool} {ps : List (Provider W)}
    (h : service.selectFor category skipSuspended s = (.ok ps, s')) :
    ps.Pairwise fun p q => p.definition.Before q.definition := by
  rw [selectFor, select] at h
  cases hsel : s.selected (fun d => d.enabledFor category) skipSuspended with
  | error e =>
    rw [hsel] at h
    exact nomatch congrArg Prod.fst h
  | ok ds =>
    rw [hsel] at h
    have hranks : (ds.map Definition.rank).Pairwise Earlier :=
      List.pairwise_map.mpr (selected_before hs hsel)
    have hps := hranks.sublist (ranks_providers service ds s)
    rw [List.pairwise_map] at hps
    rw [← Except.ok.inj (congrArg Prod.fst h)]
    exact hps

end Service
end Biblio
