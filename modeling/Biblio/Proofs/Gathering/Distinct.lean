import Biblio.Distinct
import Mathlib.Data.Finset.Card
import Mathlib.Data.List.FinRange

/-!
# First results

`distinct` goes through the results once, with the identities that it has seen.  What it keeps can be
said without that:

* `IsFirst` — a result with an identifier whose identity does not occur before it.
* `distinct_eq_firsts` — exactly the results at these positions are kept, in their order.
* `length_firsts` — they are as many as there are identities with an identifier.
-/

set_option autoImplicit false

namespace Biblio

/-- The results at the positions that pass a test, one position after the other. -/
theorem map_get_filter_cons {T : Type} (a : T) (rest : List T) (keep : Fin (rest.length + 1) → Bool) :
    ((List.finRange (rest.length + 1)).filter keep).map (a :: rest).get =
      (if keep 0 then [a] else []) ++
        ((List.finRange rest.length).filter (fun i => keep i.succ)).map rest.get := by
  rw [List.finRange_succ, List.filter_cons, List.filter_map]
  split
  · rw [List.map_cons, List.map_map]
    rfl
  · rw [List.map_map]
    rfl

variable {T : Type} [Keyed T]

/-- A result that carries an identifier. -/
def Named (a : T) : Prop := Keyed.foreignId a ≠ ""

instance : DecidablePred (Named (T := T)) :=
  fun a => inferInstanceAs (Decidable (Keyed.foreignId a ≠ ""))

/-- The result at a position is the first of its identity, and carries an identifier. -/
def IsFirst (all : List T) (i : Fin all.length) : Prop :=
  Named (all.get i) ∧ ∀ j < i, identity (all.get j) ≠ identity (all.get i)

instance (all : List T) : DecidablePred (IsFirst all) := fun i =>
  inferInstanceAs (Decidable (_ ∧ ∀ j < i, _))

/-- The results that are the first of their identity, in their order. -/
def firsts (all : List T) : List T :=
  ((List.finRange all.length).filter (fun i => IsFirst all i)).map all.get

/-- Results of one identity carry the same identifier. -/
theorem Named.of_identity_eq {a b : T} (hb : Named b) (h : identity a = identity b) : Named a := by
  have hid : Keyed.foreignId a = Keyed.foreignId b := congrArg Prod.snd h
  rw [Named, hid]
  exact hb

theorem isFirst_zero {a : T} {rest : List T} :
    IsFirst (a :: rest) (0 : Fin (rest.length + 1)) ↔ Named a :=
  and_iff_left fun j hj => absurd hj (Fin.not_lt_zero j)

theorem isFirst_succ {a : T} {rest : List T} {i : Fin rest.length} :
    IsFirst (a :: rest) i.succ ↔ IsFirst rest i ∧ identity a ≠ identity (rest.get i) := by
  constructor
  · intro h
    exact ⟨⟨h.1, fun j hj => h.2 j.succ (Fin.succ_lt_succ_iff.mpr hj)⟩, h.2 0 (Fin.succ_pos i)⟩
  · rintro ⟨⟨hnamed, hbefore⟩, hne⟩
    refine ⟨hnamed, fun j hj => ?_⟩
    cases j using Fin.cases with
    | zero => exact hne
    | succ j => exact hbefore j (Fin.succ_lt_succ_iff.mp hj)

/-- One result after the other: it is kept if it has an identifier and was not seen before. -/
theorem distinctFrom_cons (seen : List (String × String)) (a : T) (rest : List T) :
    distinctFrom seen (a :: rest) =
      if Named a ∧ identity a ∉ seen then a :: distinctFrom (identity a :: seen) rest
      else distinctFrom seen rest := by
  rw [distinctFrom]
  by_cases hnamed : Keyed.foreignId a = "" <;> by_cases hseen : identity a ∈ seen <;>
    simp [Named, hnamed, hseen]

/-- What is kept after some identities were seen. -/
theorem distinctFrom_eq (seen : List (String × String)) (all : List T) :
    distinctFrom seen all = ((List.finRange all.length).filter
      (fun i => IsFirst all i ∧ identity (all.get i) ∉ seen)).map all.get := by
  induction all generalizing seen with
  | nil => rfl
  | cons a rest ih =>
    have hsplit := map_get_filter_cons a rest
      (fun i => IsFirst (a :: rest) i ∧ identity ((a :: rest).get i) ∉ seen)
    refine Eq.trans ?_ hsplit.symm
    simp only [isFirst_zero, isFirst_succ, decide_eq_true_iff, List.get_cons_zero,
      List.get_cons_succ']
    rw [distinctFrom_cons]
    by_cases hkept : Named a ∧ identity a ∉ seen
    · rw [if_pos hkept, if_pos hkept, ih, List.singleton_append]
      refine congrArg (fun l => a :: List.map rest.get l) (List.filter_congr fun i _ => ?_)
      rw [decide_eq_decide, List.mem_cons, not_or, ne_comm, ← and_assoc]
    · rw [if_neg hkept, if_neg hkept, ih, List.nil_append]
      refine congrArg (List.map rest.get) (List.filter_congr fun i _ => ?_)
      rw [decide_eq_decide, and_assoc]
      -- a result of the identity that is passed over would have been seen as well
      refine and_congr_right fun hfirst => (and_iff_right_of_imp fun hnew heq => ?_).symm
      exact hkept ⟨hfirst.1.of_identity_eq heq, heq ▸ hnew⟩

/-- **Exactly the first results are kept.** -/
theorem distinct_eq_firsts (all : List T) : distinct all = firsts all := by
  rw [distinct, distinctFrom_eq, firsts]
  simp only [List.not_mem_nil, not_false_eq_true, and_true]

/-! ## How many are kept -/

/-- No identity is kept twice. -/
theorem nodup_identity_firsts (all : List T) : ((firsts all).map identity).Nodup := by
  rw [firsts, List.map_map]
  refine ((List.nodup_finRange all.length).filter _).map_on fun i hi j hj heq => ?_
  have hi := of_decide_eq_true (List.mem_filter.mp hi).2
  have hj := of_decide_eq_true (List.mem_filter.mp hj).2
  rcases lt_trichotomy i j with hlt | rfl | hlt
  · exact absurd heq (hj.2 i hlt)
  · rfl
  · exact absurd heq.symm (hi.2 j hlt)

theorem mem_identity_distinctFrom {seen : List (String × String)} {all : List T}
    {k : String × String} : k ∈ (distinctFrom seen all).map identity ↔
      k ∉ seen ∧ ∃ a ∈ all, Named a ∧ identity a = k := by
  induction all generalizing seen with
  | nil => simp [distinctFrom]
  | cons a rest ih =>
    rw [distinctFrom_cons]
    split
    · next hkept =>
      rw [List.map_cons, List.mem_cons, ih, List.mem_cons, not_or]
      constructor
      · rintro (rfl | ⟨⟨-, hseen⟩, b, hb, hk⟩)
        · exact ⟨hkept.2, a, List.mem_cons_self, hkept.1, rfl⟩
        · exact ⟨hseen, b, List.mem_cons_of_mem a hb, hk⟩
      · rintro ⟨hseen, b, hb, hnamed, rfl⟩
        by_cases heq : identity b = identity a
        · exact .inl heq
        · have hrest := (List.mem_cons.mp hb).resolve_left fun h => heq (congrArg identity h)
          exact .inr ⟨⟨heq, hseen⟩, b, hrest, hnamed, rfl⟩
    · next hskipped =>
      rw [ih]
      refine and_congr_right fun hseen => ?_
      constructor
      · rintro ⟨b, hb, hk⟩
        exact ⟨b, List.mem_cons_of_mem a hb, hk⟩
      · rintro ⟨b, hb, hnamed, rfl⟩
        rcases List.mem_cons.mp hb with rfl | hb
        · exact absurd ⟨hnamed, hseen⟩ hskipped
        · exact ⟨b, hb, hnamed, rfl⟩

/-- **As many are kept as there are identities with an identifier.** -/
theorem length_firsts (all : List T) :
    (firsts all).length = ((all.filter (fun a => Named a)).map identity).toFinset.card := by
  rw [← List.length_map identity, ← List.toFinset_card_of_nodup (nodup_identity_firsts all)]
  congr 1
  ext k
  rw [List.mem_toFinset, List.mem_toFinset, ← distinct_eq_firsts, distinct,
    mem_identity_distinctFrom, List.mem_map]
  simp only [List.not_mem_nil, not_false_eq_true, true_and, List.mem_filter, decide_eq_true_iff,
    and_assoc]

end Biblio
