import Biblio.Proofs.Relevance.NameMatch
import Mathlib

/-!
# Rankings

A ranking is made by sorting pairs of a score and an item.  Nothing is lost and nothing is made up, higher
scores come first, and among equal scores the order of the input stands, which is the order of the
providers.

* `Ranked` says all of this of two lists, by scores in any total order.
* `ranked_rankBy` and `rankBy_rankBy` — sorting makes such a list, and sorting it again changes nothing.
  All that is asked of the comparison is that on the scores at hand it is that of a total order.
* `higher_eq_decide_place` — doubles that are numbers are compared as in a total order.
* `rankings` puts this together, with the gate in front for authors.
-/

set_option autoImplicit false

namespace Biblio
namespace Relevance

open Float.Model (UnpackedFloat)
open Float.Model.UnpackedFloat (Sign)

variable {α β γ : Type} [LinearOrder γ] {query : String}

/-! ## Sorting by a score -/

/-- What makes a list a ranking of another one, by scores in a total order. -/
structure Ranked (score : α → γ) (items ranking : List α) : Prop where
  /-- Every item is there, as often as it was, and no other. -/
  perm : ranking.Perm items
  /-- No item stands in front of one with a higher score. -/
  sorted : ranking.Pairwise fun a b => score b ≤ score a
  /-- The items of any one score stand in the order in which they were given. -/
  stable : ∀ k, ranking.filter (fun a => score a = k) = items.filter (fun a => score a = k)

theorem ranked_mergeSort (score : α → γ) (items : List α) :
    Ranked score items (items.mergeSort fun a b => decide (score b ≤ score a)) := by
  have htrans (a b c : α) (hab : decide (score b ≤ score a) = true)
      (hbc : decide (score c ≤ score b) = true) : decide (score c ≤ score a) = true :=
    decide_eq_true ((of_decide_eq_true hbc).trans (of_decide_eq_true hab))
  have htotal (a b : α) : (decide (score b ≤ score a) || decide (score a ≤ score b)) = true := by
    simpa using le_total (score b) (score a)
  have hperm := List.mergeSort_perm items fun a b => decide (score b ≤ score a)
  refine ⟨hperm, by simpa using List.pairwise_mergeSort htrans htotal items, fun k => ?_⟩
  -- the items of one score are in order among themselves, so the sort keeps them as they stand
  have htied : (items.filter fun a => score a = k).Pairwise
      fun a b => decide (score b ≤ score a) = true := by
    refine List.pairwise_of_forall_mem_list fun a ha b hb => ?_
    have hscores : score a = k ∧ score b = k := by
      simpa using And.intro (List.mem_filter.mp ha).2 (List.mem_filter.mp hb).2
    rw [hscores.1, hscores.2]
    exact decide_eq_true le_rfl
  have hpart := (List.sublist_mergeSort htrans htotal htied List.filter_sublist).filter
    fun a => decide (score a = k)
  rw [List.filter_filter] at hpart
  simp only [Bool.and_self] at hpart
  exact (hpart.eq_of_length (hperm.filter _).length_eq.symm).symm

/-- The comparison of two scores is, on these items, that of a total order. -/
def Compares (higher : β → β → Bool) (score : α → β) (key : α → γ) (items : List α) : Prop :=
  ∀ a ∈ items, ∀ b ∈ items, higher (score a) (score b) = decide (key b < key a)

variable {higher : β → β → Bool} {score : α → β} {key : α → γ} {items : List α}

/-- The scores that are carried along are those that could be read off the items. -/
theorem rankBy_eq_mergeSort (h : Compares higher score key items) :
    rankBy higher score items = items.mergeSort fun a b => decide (key b ≤ key a) := by
  rw [rankBy, List.map_mergeSort (s := fun a b => decide (key b ≤ key a)), List.map_map]
  · exact congrArg (List.mergeSort · _) (List.map_id' items)
  · intro p hp q hq
    obtain ⟨a, ha, rfl⟩ := List.mem_map.mp hp
    obtain ⟨b, hb, rfl⟩ := List.mem_map.mp hq
    show (!higher (score b) (score a)) = decide (key b ≤ key a)
    rw [h b hb a ha, ← decide_not, decide_eq_decide, not_lt]

/-- **Ranking.** -/
theorem ranked_rankBy (h : Compares higher score key items) :
    Ranked key items (rankBy higher score items) := by
  rw [rankBy_eq_mergeSort h]
  exact ranked_mergeSort key items

theorem Compares.of_perm {others : List α} (h : Compares higher score key items)
    (hperm : others.Perm items) : Compares higher score key others :=
  fun a ha b hb => h a (hperm.mem_iff.mp ha) b (hperm.mem_iff.mp hb)

/-- **Ranking again.** -/
theorem rankBy_rankBy (h : Compares higher score key items) :
    rankBy higher score (rankBy higher score items) = rankBy higher score items := by
  have hranked := ranked_rankBy h
  rw [rankBy_eq_mergeSort (h.of_perm hranked.perm)]
  exact List.mergeSort_of_pairwise (by simpa using hranked.sorted)

/-! ## The order of doubles -/

/-- The place of a double among the numbers: its kind, and then its exponent and its mantissa, both of
which count backwards below zero.  The two zeros have the same place. -/
def placeOf : UnpackedFloat → ℤ ×ₗ ℤ ×ₗ ℤ
  | .infinity .negative => toLex (-2, toLex (0, 0))
  | .finite .negative mantissa exponent _ => toLex (-1, toLex (-exponent, -mantissa))
  | .zero _ => toLex (0, toLex (0, 0))
  | .finite .positive mantissa exponent _ => toLex (1, toLex (exponent, mantissa))
  | .infinity .positive => toLex (2, toLex (0, 0))
  | .notANumber => toLex (3, toLex (0, 0))

theorem compare_then_compare {d e : ℤ} {m n : ℕ} :
    ((compare d e).then (compare m n) = .lt ↔ d < e ∨ d = e ∧ m < n) ∧
      ((compare d e).then (compare m n) = .gt ↔ e < d ∨ d = e ∧ n < m) := by
  rw [Ordering.then_eq_lt, Ordering.then_eq_gt, Int.compare_eq_lt, Int.compare_eq_gt,
    Int.compare_eq_eq, Nat.compare_eq_lt, Nat.compare_eq_gt]
  exact ⟨Iff.rfl, Iff.rfl⟩

theorem lt_iff_placeOf_lt {x y : UnpackedFloat} (hx : x.isNaN = false) (hy : y.isNaN = false) :
    x.lt y = true ↔ placeOf x < placeOf y := by
  have hsigns : compare Sign.negative Sign.positive = .lt := rfl
  -- doubles of two kinds compare as their kinds do, and two of one sign as their exponents and mantissas
  rcases x with (_ | _) | _ | _ | ⟨_ | _, m, d, -⟩ <;>
    rcases y with (_ | _) | _ | _ | ⟨_ | _, n, e, -⟩ <;>
    simp_all [UnpackedFloat.lt, UnpackedFloat.compare, UnpackedFloat.isNaN, placeOf,
      Prod.Lex.toLex_lt_toLex, compare_then_compare]

/-- The place of a score among the numbers. -/
def place (x : Float) : ℤ ×ₗ ℤ ×ₗ ℤ := placeOf x.toModel.unpack

/-- **Scores that are numbers are compared as in a total order.** -/
theorem higher_eq_decide_place {x y : Float} (hx : x.isNaN = false) (hy : y.isNaN = false) :
    Scale.higher x y = decide (place y < place x) := by
  have hunpacked : y < x ↔ y.toModel.unpack.lt x.toModel.unpack = true := decide_eq_true_iff
  exact decide_eq_decide.mpr (hunpacked.trans (lt_iff_placeOf_lt hy hx))

theorem compares_place {score : α → Float} {items : List α}
    (h : ∀ a ∈ items, (score a).isNaN = false) :
    Compares Scale.higher score (fun a => place (score a)) items :=
  fun a ha b hb => higher_eq_decide_place (h a ha) (h b hb)

/-! ## The gate and the rankings -/

/-- A ranking with the gate in front.  `rankAuthors` is the one by the scores of authors in doubles. -/
def gated (query : String) (rank : List Author → List Author) (authors : List Author) : List Author :=
  rank (authors.filter (passesGate query))

/-- What a way of ranking makes of the items that it keeps. -/
structure RanksBy (score : α → γ) (rank : List α → List α) (items kept : List α) : Prop where
  ranked : Ranked score kept (rank items)
  /-- Ranking what was ranked changes nothing. -/
  again : rank (rank items) = rank items

theorem ranksBy_rankBy (h : Compares higher score key items) :
    RanksBy key (rankBy higher score) items items :=
  ⟨ranked_rankBy h, rankBy_rankBy h⟩

theorem ranksBy_gated {higher : β → β → Bool} {score : Author → β} {key : Author → γ}
    {authors : List Author} (h : Compares higher score key (authors.filter (passesGate query))) :
    RanksBy key (gated query (rankBy higher score)) authors (authors.filter (passesGate query)) := by
  refine ⟨ranked_rankBy h, ?_⟩
  -- the gate keeps whatever it let through before
  have hkept : (rankBy higher score (authors.filter (passesGate query))).filter (passesGate query) =
      rankBy higher score (authors.filter (passesGate query)) :=
    List.filter_eq_self.mpr fun a ha =>
      (List.mem_filter.mp ((ranked_rankBy h).perm.mem_iff.mp ha)).2
  rw [gated, gated, hkept]
  exact rankBy_rankBy h

/-- The comparison of a total order. -/
def above (x y : γ) : Bool := decide (y < x)

/-- What there is to the rankings for a query. -/
structure Rankings (query : String) : Prop where
  /-- Authors, with the gate in front, by scores from any total order. -/
  authors : ∀ {γ : Type} [LinearOrder γ] (score : Author → γ) (authors : List Author),
    RanksBy score (gated query (rankBy above score)) authors (authors.filter (passesGate query))
  /-- Entities, all of which are kept, by scores from any total order. -/
  entities : ∀ {γ : Type} [LinearOrder γ] (score : SearchEntity → γ) (entities : List SearchEntity),
    RanksBy score (rankBy above score) entities entities
  /-- The scores of authors are doubles, and the same holds if they are numbers. -/
  authorsByDouble : ∀ authors : List Author,
    (∀ a ∈ authors.filter (passesGate query), (scoreAuthor query a : Float).isNaN = false) →
    RanksBy (fun a => place (scoreAuthor query a)) (rankAuthors query) authors
      (authors.filter (passesGate query))
  /-- So are those of entities. -/
  entitiesByDouble : ∀ entities : List SearchEntity,
    (∀ e ∈ entities, (scoreEntity query e : Float).isNaN = false) →
    RanksBy (fun e => place (scoreEntity query e)) (rankEntities query) entities entities

/-- **Rankings lose nothing and make nothing up**: they hold what is kept, the higher scores first and
equal ones as they stood. -/
theorem rankings (query : String) : Rankings query where
  authors _ _ := ranksBy_gated fun _ _ _ _ => rfl
  entities _ _ := ranksBy_rankBy fun _ _ _ _ => rfl
  authorsByDouble _ hnumbers := ranksBy_gated (compares_place hnumbers)
  entitiesByDouble _ hnumbers := ranksBy_rankBy (compares_place hnumbers)

/-- Three authors of one name. -/
def namesakes : List Author := ["1", "2", "3"].map fun id => Sample.author id "Anne Rice"

/-- Authors who differ in nothing that counts stay in the order in which they were found. -/
theorem rankings_namesakes :
    (∀ a ∈ namesakes.filter (passesGate "Anne Rice"),
      (scoreAuthor "Anne Rice" a : Float).isNaN = false) ∧
      rankAuthors "Anne Rice" namesakes = namesakes := by
  have hnumbers : ∀ a ∈ namesakes.filter (passesGate "Anne Rice"),
      (scoreAuthor "Anne Rice" a : Float).isNaN = false := by decide +kernel
  have hkept : namesakes.filter (passesGate "Anne Rice") = namesakes :=
    List.filter_eq_self.mpr (by decide +kernel)
  have hranked := ((rankings "Anne Rice").authorsByDouble namesakes hnumbers).ranked
  rw [hkept] at hranked
  have htied : ∀ a ∈ namesakes, decide (place (scoreAuthor "Anne Rice" a) =
      place (scoreAuthor "Anne Rice" (Sample.author "1" "Anne Rice"))) = true := by
    intro a ha
    obtain ⟨id, -, rfl⟩ := List.mem_map.mp ha
    exact decide_eq_true rfl
  have hstable := hranked.stable (place (scoreAuthor "Anne Rice" (Sample.author "1" "Anne Rice")))
  rw [List.filter_eq_self.mpr htied,
    List.filter_eq_self.mpr fun a ha => htied a (hranked.perm.mem_iff.mp ha)] at hstable
  exact ⟨hnumbers, hstable⟩

end Relevance
end Biblio
