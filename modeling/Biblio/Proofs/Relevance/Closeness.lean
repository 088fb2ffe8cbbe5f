import Biblio.Proofs.Relevance.Exact
import Biblio.Proofs.Relevance.NameMatch
import Biblio.Proofs.Text.Casing

/-!
# Closer names and their scores

A name can equal a query, equal it once spaces are removed, contain it, or do none of these.  The score
has a weight for each of these tiers, and adds to it for the words of the query that occur in the name.
The words are looked for with their spaces, so a name of the second tier can miss words.

* `matchPoints` is the score of a name as a number, with `matchScore_eq`.
* `tier_eq_none_iff` — there are no other tiers: a name that contains the query as it is written, up to
  case, contains it after normalisation too.
* `matchPoints_equal`, `matchPoints_unspaced`, `matchPoints_within` and `matchPoints_apart` are the
  scores of the tiers.
* `ordered_by_closeness` — closer names score higher, except that a name of the second tier scores at
  most as high as one that contains the query if a fifth of the words or fewer occur in it;
  `not_ordered_splitName` is such a name.  A query that is empty after normalisation scores nothing.
-/

set_option autoImplicit false

namespace Biblio
namespace Relevance

open Text (occursIn occursIn_iff joinWords_eq_nil_iff normalizeName_eq infix_normalizeName_of_lower
  solid_of_mem_words words words_joinWords)

variable {query candidate : String}

/-! ## Normalised texts -/

/-- The words of a query are those that its normalised form is made of. -/
theorem normalized_eq_joinWords (s : String) : normalized s = Text.joinWords (queryWords s) := by
  have hwords : normalized s =
      Text.joinWords (words ((Text.lower s.toList).filter Text.countsInName)) := by
    rw [normalized, normalizeName_eq, String.toList_ofList]
  rw [queryWords, hwords, words_joinWords fun _ hw => solid_of_mem_words hw]

theorem queryWords_eq_nil_iff : queryWords query = [] ↔ normalized query = [] := by
  have hsolid : ∀ w ∈ queryWords query, Text.Solid w := fun _ hw => solid_of_mem_words hw
  rw [normalized_eq_joinWords, joinWords_eq_nil_iff hsolid]

theorem queryWords_length_pos (h : normalized query ≠ []) : 0 < (queryWords query).length :=
  List.length_pos_iff.mpr (mt queryWords_eq_nil_iff.mp h)

/-- A normalised text is not made of spaces alone. -/
theorem withoutSpaces_eq_nil_iff {s : String} : withoutSpaces (normalized s) = [] ↔ normalized s = [] := by
  refine ⟨fun hspaces => ?_, fun h => by rw [h]; rfl⟩
  rw [← queryWords_eq_nil_iff, List.eq_nil_iff_forall_not_mem]
  intro w hw
  obtain ⟨hne, hsolid⟩ := solid_of_mem_words hw
  obtain ⟨c, hc⟩ := List.exists_mem_of_ne_nil w hne
  have hmem : c ∈ normalized s := (Text.infix_of_mem_words hw).subset hc
  have hspace : c = ' ' := by simpa using List.filter_eq_nil_iff.mp hspaces c hmem
  rw [hspace] at hc
  exact absurd (hsolid ' ' hc) (by decide)

/-! ## The tiers -/

/-- There is no tier between names that contain the query and names that do not: what is contained in
lower case is contained after normalisation. -/
theorem tier_ne_rawContains (query candidate : String) : tier query candidate ≠ .rawContains := by
  intro h
  rw [tier] at h
  split_ifs at h with _ _ hwithin hraw
  exact hwithin (occursIn_iff.mpr (infix_normalizeName_of_lower (occursIn_iff.mp hraw)))

theorem tier_eq_none_iff : tier query candidate = .none ↔
    withoutSpaces (normalized query) ≠ withoutSpaces (normalized candidate) ∧
      ¬ normalized query <:+: normalized candidate := by
  rw [← not_or, ← tier_of_name_iff]
  cases h : tier query candidate with
  | rawContains => exact absurd h (tier_ne_rawContains query candidate)
  | _ => decide

/-- How close a candidate is to a query: 3 if the two are equal, 2 if they are equal once spaces are
removed, 1 if the candidate contains the query, and 0 otherwise, all of it after normalisation. -/
def closeness (query candidate : String) : Nat :=
  if normalized query = normalized candidate then 3
  else if withoutSpaces (normalized query) = withoutSpaces (normalized candidate) then 2
  else if normalized query <:+: normalized candidate then 1
  else 0

/-! ## Scores as numbers -/

/-- The share of the words of a query that occur in a candidate. -/
def share (K : Type) [Field K] (query candidate : String) : K :=
  occurring (queryWords query) (normalized candidate) / (queryWords query).length

/-- The score of a candidate: the weight of its tier, and points for the words that occur less points
for those that do not. -/
def matchPoints (K : Type) [Field K] (query candidate : String) : K :=
  if normalized query = [] ∨ normalized candidate = [] then 0
  else (tier query candidate).points + (wordPoints * share K query candidate -
    missingPoints * (1 - share K query candidate))

variable {K : Type} [Field K]

theorem matchPoints_of_empty (h : normalized query = []) : matchPoints K query candidate = 0 :=
  if_pos (.inl h)

/-- A name that is equal once spaces are removed loses what its words do not match. -/
theorem matchPoints_unspaced (hquery : normalized query ≠ [])
    (hne : normalized query ≠ normalized candidate)
    (h : withoutSpaces (normalized query) = withoutSpaces (normalized candidate)) :
    matchPoints K query candidate = 700 + 500 * share K query candidate := by
  have hcandidate : normalized candidate ≠ [] := fun hnil =>
    hquery (withoutSpaces_eq_nil_iff.mp (h.trans (withoutSpaces_eq_nil_iff.mpr hnil)))
  have htier : tier query candidate = .unspaced := by simp [tier, h, hne]
  rw [matchPoints, if_neg (by simp [hquery, hcandidate]), htier]
  norm_num [Tier.points, wordPoints, missingPoints]
  ring

variable [LinearOrder K] [IsStrictOrderedRing K] {v : VotePoints K}

/-- If all words occur, there is nothing to take off. -/
theorem overlapScore_of {m n : Nat} (hn : 0 < n) (hm : m ≤ n) (base : Nat) :
    overlapScore (Exact.of base : Exact v) m n =
      Exact.of (base + (wordPoints * ((m : K) / n) - missingPoints * (1 - (m : K) / n))) := by
  rw [overlapScore]
  by_cases hlt : m < n
  · simp only [if_pos hlt, Exact.ratio_eq, Exact.ofNat_eq, Exact.of_mul_of, Exact.of_add_of,
      Exact.of_sub_of, Exact.of_inj]
    push_cast
    ring
  · obtain rfl : m = n := by omega
    have hone : (m : K) / m = 1 := div_self (Nat.cast_ne_zero.mpr hn.ne')
    simp [hone]

/-- **The score of a name**, as a number. -/
theorem matchScore_eq (query candidate : String) :
    (matchScore query candidate : Exact v) = Exact.of (matchPoints K query candidate) := by
  rw [matchScore, matchPoints]
  by_cases hempty : normalized query = [] ∨ normalized candidate = []
  · simp [hempty]
  · obtain ⟨hquery, -⟩ := not_or.mp hempty
    simp only [hempty, if_false, Bool.or_eq_true, List.isEmpty_iff, Exact.ofNat_eq, share]
    exact overlapScore_of (queryWords_length_pos hquery) (occurring_le _ _) _

theorem share_nonneg (query candidate : String) : 0 ≤ share K query candidate := by
  rw [share]
  positivity

theorem share_le_one (query candidate : String) : share K query candidate ≤ 1 :=
  div_le_one_of_le₀ (Nat.cast_le.mpr (occurring_le _ _)) (Nat.cast_nonneg _)

theorem share_of_within (hquery : normalized query ≠ [])
    (h : normalized query <:+: normalized candidate) : share K query candidate = 1 := by
  rw [share, occurring_of_contains h,
    div_self (Nat.cast_ne_zero.mpr (queryWords_length_pos hquery).ne')]

/-! ## The scores of the tiers -/

/-- An equal name earns the most. -/
theorem matchPoints_equal (hquery : normalized query ≠ [])
    (h : normalized query = normalized candidate) : matchPoints K query candidate = 1300 := by
  have hwithin : normalized query <:+: normalized candidate := by rw [h]
  have hshare : share K query candidate = 1 := share_of_within hquery hwithin
  have htier : tier query candidate = .exact := by simp [tier, h]
  rw [matchPoints, if_neg (by simp [← h, hquery]), htier, hshare]
  norm_num [Tier.points, wordPoints, missingPoints]

/-- All words of the query occur in a name that contains it. -/
theorem matchPoints_within (hquery : normalized query ≠ [])
    (hspaces : withoutSpaces (normalized query) ≠ withoutSpaces (normalized candidate))
    (h : normalized query <:+: normalized candidate) : matchPoints K query candidate = 800 := by
  have hcandidate : normalized candidate ≠ [] := fun hnil =>
    hquery (List.infix_nil.mp (hnil ▸ h))
  have hne : normalized query ≠ normalized candidate := mt (congrArg withoutSpaces) hspaces
  have htier : tier query candidate = .contains := by simp [tier, hne, hspaces, occursIn_iff.mpr h]
  rw [matchPoints, if_neg (by simp [hquery, hcandidate]), htier, share_of_within hquery h]
  norm_num [Tier.points, wordPoints, missingPoints]

omit [LinearOrder K] [IsStrictOrderedRing K] in
/-- A name that does not match as a whole earns what its words do. -/
theorem matchPoints_eq_of_apart (hquery : normalized query ≠ []) (hcandidate : normalized candidate ≠ [])
    (hspaces : withoutSpaces (normalized query) ≠ withoutSpaces (normalized candidate))
    (h : ¬ normalized query <:+: normalized candidate) :
    matchPoints K query candidate = 500 * share K query candidate - 200 := by
  rw [matchPoints, if_neg (by simp [hquery, hcandidate]), tier_eq_none_iff.mpr ⟨hspaces, h⟩]
  norm_num [Tier.points, wordPoints, missingPoints]
  ring

/-- Such a name earns at most the points for all words. -/
theorem matchPoints_apart
    (hspaces : withoutSpaces (normalized query) ≠ withoutSpaces (normalized candidate))
    (h : ¬ normalized query <:+: normalized candidate) : matchPoints K query candidate ≤ 300 := by
  have hquery : normalized query ≠ [] := fun hnil => h (by
    rw [hnil]
    exact List.nil_infix)
  have hshare : share K query candidate ≤ 1 := share_le_one query candidate
  by_cases hcandidate : normalized candidate = []
  · rw [matchPoints, if_pos (.inr hcandidate)]
    norm_num
  · rw [matchPoints_eq_of_apart hquery hcandidate hspaces h]
    linarith

/-- The score by closeness. -/
theorem matchPoints_cases (hquery : normalized query ≠ []) (candidate : String) :
    closeness query candidate = 3 ∧ matchPoints K query candidate = 1300 ∨
    closeness query candidate = 2 ∧
      matchPoints K query candidate = 700 + 500 * share K query candidate ∨
    closeness query candidate = 1 ∧ matchPoints K query candidate = 800 ∨
    closeness query candidate = 0 ∧ matchPoints K query candidate ≤ 300 := by
  rw [closeness]
  split_ifs with hequal hspaces hwithin
  · exact .inl ⟨rfl, matchPoints_equal hquery hequal⟩
  · exact .inr (.inl ⟨rfl, matchPoints_unspaced hquery hequal hspaces⟩)
  · exact .inr (.inr (.inl ⟨rfl, matchPoints_within hquery hspaces hwithin⟩))
  · exact .inr (.inr (.inr ⟨rfl, matchPoints_apart hspaces hwithin⟩))

theorem matchPoints_le (query candidate : String) : matchPoints K query candidate ≤ 1300 := by
  by_cases hquery : normalized query = []
  · rw [matchPoints_of_empty hquery]
    norm_num
  · have hshare : share K query candidate ≤ 1 := share_le_one query candidate
    rcases matchPoints_cases (K := K) hquery candidate with h | h | h | h <;> linarith [h.2]

/-! ## Closer names -/

/-- More than a fifth of the words of a query occur in a candidate. -/
theorem fifth_lt_share_iff (hquery : normalized query ≠ []) :
    1 / 5 < share K query candidate ↔
      (queryWords query).length < 5 * occurring (queryWords query) (normalized candidate) := by
  have hpos : (0 : K) < (queryWords query).length := Nat.cast_pos.mpr (queryWords_length_pos hquery)
  rw [share, div_lt_div_iff₀ (by norm_num) hpos, one_mul, mul_comm]
  exact_mod_cast Iff.rfl

/-- How the scores of candidates go with their closeness. -/
structure OrderedByCloseness (v : VotePoints K) (query : String) : Prop where
  /-- A closer candidate scores higher, for a query that is not empty after normalisation.  Only one that
  is equal once spaces are removed may not score higher than one that contains the query, and it does
  exactly if more than a fifth of the words of the query occur in it. -/
  lt_iff : ∀ c d, closeness query d < closeness query c →
    ((matchScore query d : Exact v) < matchScore query c ↔ normalized query ≠ [] ∧
      (closeness query c = 2 → closeness query d = 1 →
        (queryWords query).length < 5 * occurring (queryWords query) (normalized c)))
  /-- No candidate scores higher than an equal one. -/
  le_equal : ∀ c e, closeness query e = 3 → (matchScore query c : Exact v) ≤ matchScore query e
  /-- For a query that is empty after normalisation, every candidate scores nothing. -/
  eq_zero : normalized query = [] → ∀ c, (matchScore query c : Exact v) = Exact.of 0

/-- Closer candidates score higher, apart from the tiers that the words can turn round. -/
theorem matchPoints_lt {c d : String} (hquery : normalized query ≠ [])
    (hcloser : closeness query d < closeness query c)
    (hother : ¬ (closeness query c = 2 ∧ closeness query d = 1)) :
    matchPoints K query d < matchPoints K query c := by
  have hshare : (0 : K) ≤ share K query c := share_nonneg query c
  have hmost : share K query d ≤ (1 : K) := share_le_one query d
  rcases matchPoints_cases (K := K) hquery c with ⟨hc, hpoints⟩ | ⟨hc, hpoints⟩ | ⟨hc, hpoints⟩ |
    ⟨hc, -⟩
  · -- below an equal candidate
    rcases matchPoints_cases (K := K) hquery d with ⟨hd, -⟩ | ⟨-, hless⟩ | ⟨-, hless⟩ | ⟨-, hless⟩
    · omega
    all_goals linarith
  · -- below one that is equal once spaces are removed, no word of which need occur
    rcases matchPoints_cases (K := K) hquery d with ⟨hd, -⟩ | ⟨hd, -⟩ | ⟨hd, -⟩ | ⟨-, hless⟩
    · omega
    · omega
    · exact absurd ⟨hc, hd⟩ hother
    · linarith
  · -- below one that contains the query
    rcases matchPoints_cases (K := K) hquery d with ⟨hd, -⟩ | ⟨hd, -⟩ | ⟨hd, -⟩ | ⟨-, hless⟩
    · omega
    · omega
    · omega
    · linarith
  · omega

/-- **Closer names score higher**, except where spaces keep words from being found. -/
theorem ordered_by_closeness (v : VotePoints K) (query : String) : OrderedByCloseness v query where
  lt_iff c d hcloser := by
    rw [matchScore_eq, matchScore_eq, Exact.of_lt_of]
    by_cases hquery : normalized query = []
    · simp [matchPoints_of_empty, hquery]
    · by_cases hother : closeness query c = 2 ∧ closeness query d = 1
      · obtain ⟨hc, hd⟩ := hother
        have hunspaced : matchPoints K query c = 700 + 500 * share K query c := by
          simpa [hc] using matchPoints_cases (K := K) hquery c
        have hwithin : matchPoints K query d = 800 := by
          simpa [hd] using matchPoints_cases (K := K) hquery d
        have hfifth : (800 : K) < 700 + 500 * share K query c ↔ 1 / 5 < share K query c := by
          constructor <;> intro h <;> linarith
        simp [hc, hd, hquery, hunspaced, hwithin, hfifth, ← fifth_lt_share_iff (K := K) hquery]
      · simp only [matchPoints_lt hquery hcloser hother, ne_eq, hquery, not_false_eq_true, true_and,
          true_iff]
        exact fun hc hd => absurd ⟨hc, hd⟩ hother
  le_equal c e hequal := by
    rw [matchScore_eq, matchScore_eq, Exact.of_le_of]
    by_cases hquery : normalized query = []
    · rw [matchPoints_of_empty hquery, matchPoints_of_empty hquery]
    · have hpoints : matchPoints K query e = 1300 := by
        simpa [hequal] using matchPoints_cases (K := K) hquery e
      rw [hpoints]
      exact matchPoints_le query c
  eq_zero hquery c := by rw [matchScore_eq, matchPoints_of_empty hquery]

/-- Initials that only the query writes together. -/
theorem ordered_splitInitials :
    closeness "jk rowling" "jk rowling fan" < closeness "jk rowling" "j k rowling" ∧
      (matchScore "jk rowling" "jk rowling fan" : Exact VotePoints.logarithm) <
        matchScore "jk rowling" "j k rowling" := by
  have hcloser : closeness "jk rowling" "jk rowling fan" < closeness "jk rowling" "j k rowling" := by
    decide +kernel
  refine ⟨hcloser, ((ordered_by_closeness _ _).lt_iff _ _ hcloser).mpr ⟨by decide +kernel, ?_⟩⟩
  decide +kernel

/-- **A closer name that scores lower**: without its spaces it is the query, but no word of the query
occurs in it. -/
theorem not_ordered_splitName :
    closeness "jk rowling" "jk rowling fan" < closeness "jk rowling" "j k row ling" ∧
      ¬ (matchScore "jk rowling" "jk rowling fan" : Exact VotePoints.logarithm) <
        matchScore "jk rowling" "j k row ling" := by
  have hquery : normalized "jk rowling" ≠ [] := by decide +kernel
  have hsplit : matchPoints ℝ "jk rowling" "j k row ling" = 700 := by
    have hnone : occurring (queryWords "jk rowling") (normalized "j k row ling") = 0 := by
      decide +kernel
    rw [matchPoints_unspaced hquery (by decide +kernel) (by decide +kernel), share, hnone]
    norm_num
  have hwithin : matchPoints ℝ "jk rowling" "jk rowling fan" = 800 :=
    matchPoints_within hquery (by decide +kernel) (by decide +kernel)
  refine ⟨by decide +kernel, ?_⟩
  rw [matchScore_eq, matchScore_eq, Exact.of_lt_of, hsplit, hwithin]
  norm_num

end Relevance
end Biblio
