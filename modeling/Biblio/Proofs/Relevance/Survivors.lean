import Biblio.Proofs.Relevance.AuthorScore

/-!
# What the gate is worth in points

The gate counts words and the scorer weighs them, so an author who passes the gate has some least score:
the words that were found are at least three quarters, and what they earn outweighs what the others cost.

* `le_matchPoints_of_part` and `le_matchPoints_within` are what a name earns in which a part of the words
  occur, and what one does that contains the query.
* `leastPoints` are the points by the number of words, four fifths of them where an alias can do.
* `survives_of_passesGate` — the part of the score that is due to the names is at least that much;
  `survives_rememberedByAlias` is an author for whom it is no more.
-/

set_option autoImplicit false

namespace Biblio
namespace Relevance

variable {K : Type} [Field K] [LinearOrder K] [IsStrictOrderedRing K] {v : VotePoints K}
  {query candidate : String} {a : Author}

/-! ## What the words of a name earn -/

/-- No word occurs in a name that is empty after normalisation. -/
theorem normalized_ne_nil_of_occurring
    (h : 0 < occurring (queryWords query) (normalized candidate)) : normalized candidate ≠ [] := by
  intro hnil
  rw [hnil, occurring] at h
  obtain ⟨w, hw⟩ := List.exists_mem_of_length_pos h
  obtain ⟨hword, hoccurs⟩ := List.mem_filter.mp hw
  exact (Text.solid_of_mem_words hword).1 (List.infix_nil.mp (Text.occursIn_iff.mp hoccurs))

/-- Whatever the tier is, the words earn five hundred points, of which two hundred are lost. -/
theorem share_le_matchPoints (h : 0 < occurring (queryWords query) (normalized candidate)) :
    500 * share K query candidate - 200 ≤ matchPoints K query candidate := by
  have hcandidate := normalized_ne_nil_of_occurring h
  have hquery : normalized query ≠ [] := fun hnil => by
    rw [queryWords_eq_nil_iff.mpr hnil] at h
    exact absurd h (Nat.lt_irrefl 0)
  have htier : (0 : K) ≤ (tier query candidate).points := Nat.cast_nonneg _
  rw [matchPoints, if_neg (by simp [hquery, hcandidate]), wordPoints, missingPoints]
  push_cast
  linarith

/-- A part of the words is a part of the share. -/
theorem div_le_share {p q : ℕ} (hq : 0 < q) (hquery : normalized query ≠ [])
    (h : p * (queryWords query).length ≤ q * occurring (queryWords query) (normalized candidate)) :
    (p : K) / q ≤ share K query candidate := by
  have hpos : (0 : K) < (queryWords query).length := Nat.cast_pos.mpr (queryWords_length_pos hquery)
  rw [share, div_le_div_iff₀ (Nat.cast_pos.mpr hq) hpos, mul_comm _ (q : K)]
  exact_mod_cast h

/-- A name in which a part of the words occur. -/
theorem le_matchPoints_of_part {p q : ℕ} (hp : 0 < p) (hq : 0 < q) (hquery : normalized query ≠ [])
    (h : p * (queryWords query).length ≤ q * occurring (queryWords query) (normalized candidate)) :
    500 * ((p : K) / q) - 200 ≤ matchPoints K query candidate := by
  have hwords : 0 < p * (queryWords query).length := Nat.mul_pos hp (queryWords_length_pos hquery)
  have hsome : 0 < occurring (queryWords query) (normalized candidate) :=
    Nat.pos_of_mul_pos_left (hwords.trans_le h)
  have hshare : (p : K) / q ≤ share K query candidate := div_le_share hq hquery h
  have hpoints : 500 * share K query candidate - 200 ≤ matchPoints K query candidate :=
    share_le_matchPoints hsome
  linarith

/-- A name that contains the query. -/
theorem le_matchPoints_within (hquery : normalized query ≠ [])
    (h : normalized query <:+: normalized candidate) : 800 ≤ matchPoints K query candidate := by
  by_cases hequal : normalized query = normalized candidate
  · rw [matchPoints_equal hquery hequal]
    norm_num
  · by_cases hspaces : withoutSpaces (normalized query) = withoutSpaces (normalized candidate)
    · rw [matchPoints_unspaced hquery hequal hspaces, share_of_within hquery h]
      norm_num
    · exact (matchPoints_within hquery hspaces h).ge

/-- A query of one word is that word. -/
theorem within_of_single (hone : (queryWords query).length = 1)
    (h : 0 < occurring (queryWords query) (normalized candidate)) :
    normalized query <:+: normalized candidate := by
  obtain ⟨w, hw⟩ := List.length_eq_one_iff.mp hone
  obtain ⟨u, hu⟩ := List.exists_mem_of_length_pos h
  obtain ⟨hword, hoccurs⟩ := List.mem_filter.mp hu
  rw [hw] at hword
  rw [normalized_eq_joinWords query, hw, ← List.mem_singleton.mp hword]
  exact Text.occursIn_iff.mp hoccurs

/-! ## What the names of an author earn -/

omit [IsStrictOrderedRing K] in
/-- The maximum is reached by the name or by an alias. -/
theorem namePoints_cases (query : String) (a : Author) :
    namePoints K query a = matchPoints K query a.name ∨
      ∃ x ∈ a.aliases, namePoints K query a = matchPoints K query x * (4 / 5) :=
  foldl_max_cases ..

/-- What one of the names earns, less a fifth if it is an alias. -/
theorem le_namePoints_of_mem {name : String} (hname : name ∈ a.name :: a.aliases) {k : K} (hk : 0 ≤ k)
    (h : k ≤ matchPoints K query name) : k * (4 / 5) ≤ namePoints K query a := by
  obtain ⟨hfirst, haliases⟩ := namePoints_le_iff.mp (le_refl (namePoints K query a))
  rcases List.mem_cons.mp hname with rfl | halias
  · linarith
  · linarith [haliases name halias]

/-- The least that the names of an author earn who passes the gate, by the number of words of the
query. -/
def leastPoints (words : Nat) : Nat :=
  if words = 1 then 800 else if words = 2 then 240 else 140

theorem leastPoints_pos (n : Nat) : 0 < leastPoints n := by
  rw [leastPoints]
  split_ifs <;> decide

theorem leastPoints_le_namePoints (hwords : queryWords query ≠ []) (hgate : passesGate query a = true) :
    (leastPoints (queryWords query).length : K) ≤ namePoints K query a := by
  have hquery : normalized query ≠ [] := mt queryWords_eq_nil_iff.mpr hwords
  have hpos := queryWords_length_pos hquery
  obtain ⟨name, hname, hquarters⟩ := (passesGate_iff hwords).mp hgate
  rw [leastPoints]
  by_cases hone : (queryWords query).length = 1
  · -- the word stands in the name itself, and it is all of the query
    rw [consulted, if_pos hone] at hname
    obtain rfl := List.mem_singleton.mp hname
    have hwithin : 800 ≤ matchPoints K query a.name :=
      le_matchPoints_within hquery (within_of_single hone (by omega))
    rw [if_pos hone]
    exact_mod_cast hwithin.trans (matchPoints_le_namePoints query a)
  · rw [consulted, if_neg hone] at hname
    rw [if_neg hone]
    by_cases htwo : (queryWords query).length = 2
    · -- three quarters of two words are both
      have hboth : 1 * (queryWords query).length ≤
          1 * occurring (queryWords query) (normalized name) := by omega
      have hpoints : 300 ≤ matchPoints K query name := by
        linarith [le_matchPoints_of_part (K := K) one_pos one_pos hquery hboth]
      rw [if_pos htwo]
      norm_num
      linarith [le_namePoints_of_mem hname (by norm_num) hpoints]
    · have hpoints : 175 ≤ matchPoints K query name := by
        linarith [le_matchPoints_of_part (K := K) three_pos four_pos hquery hquarters]
      rw [if_neg htwo]
      norm_num
      linarith [le_namePoints_of_mem hname (by norm_num) hpoints]

/-! ## Survivors -/

/-- What is known of the score of an author who passes the gate. -/
structure Survives (v : VotePoints K) (query : String) (a : Author) : Prop where
  /-- The part that is due to the names is the match of the name or four fifths of the match of an
  alias, whichever is the greatest. -/
  greatest : IsGreatest
    ({x | x = matchScore query a.name ∨
      ∃ alternate ∈ a.aliases, x = matchScore query alternate * Scale.ratio 4 5} : Set (Exact v))
    (nameScore query a)
  /-- The signals and the ratings are added to it. -/
  score_eq : (scoreAuthor query a : Exact v) =
    nameScore query a + (Exact.of (signals K a) + ratingsScore a.ratings)
  /-- It is at least 800 for one word, 240 for two words and 140 for more. -/
  least : (Scale.ofNat (leastPoints (queryWords query).length) : Exact v) ≤ nameScore query a
  /-- So it is never negative. -/
  positive : (Scale.ofNat 0 : Exact v) < nameScore query a

theorem isGreatest_nameScore (v : VotePoints K) (query : String) (a : Author) :
    IsGreatest
      ({x | x = matchScore query a.name ∨
        ∃ alternate ∈ a.aliases, x = matchScore query alternate * Scale.ratio 4 5} : Set (Exact v))
      (nameScore query a) := by
  obtain ⟨hname, haliases⟩ := namePoints_le_iff.mp (le_refl (namePoints K query a))
  simp only [scaled_eq]
  simp only [nameScore_eq, matchScore_eq]
  constructor
  · rcases namePoints_cases (K := K) query a with hfirst | ⟨x, hx, halias⟩
    · exact .inl (congrArg Exact.of hfirst)
    · exact .inr ⟨x, hx, congrArg Exact.of halias⟩
  · rintro _ (rfl | ⟨x, hx, rfl⟩)
    · exact Exact.of_le_of.mpr hname
    · exact Exact.of_le_of.mpr (haliases x hx)

/-- **Who passes the gate is worth something to the scorer.** -/
theorem survives_of_passesGate (v : VotePoints K) {query : String} {a : Author}
    (hwords : queryWords query ≠ []) (hgate : passesGate query a = true) : Survives v query a := by
  have hleast : (leastPoints (queryWords query).length : K) ≤ namePoints K query a :=
    leastPoints_le_namePoints hwords hgate
  have hpos : (0 : K) < leastPoints (queryWords query).length := Nat.cast_pos.mpr (leastPoints_pos _)
  refine ⟨isGreatest_nameScore v query a, ?_, ?_, ?_⟩
  · rw [scoreAuthor_eq, nameScore_eq]
    rcases ratingsScore_cases (v := v) a.ratings with ⟨hbot, -⟩ | ⟨r, hr, -⟩
    · simp [hbot]
    · simp [hr, add_assoc]
  · rw [nameScore_eq, Exact.ofNat_eq, Exact.of_le_of]
    exact hleast
  · rw [nameScore_eq, Exact.ofNat_eq, Exact.of_lt_of, Nat.cast_zero]
    exact hpos.trans_le hleast

/-- An author whose name has none of four words, and three of them in an alias. -/
def rememberedByAlias : Author := withAliases (Sample.author "1" "Anne Rice") ["Ursula K. Le Guin"]

/-- The names of such an author earn no more than the least. -/
theorem survives_rememberedByAlias :
    queryWords "ursula kroeber le guin" ≠ [] ∧
      passesGate "ursula kroeber le guin" rememberedByAlias = true ∧
      Survives VotePoints.logarithm "ursula kroeber le guin" rememberedByAlias ∧
      (nameScore "ursula kroeber le guin" rememberedByAlias : Exact VotePoints.logarithm) =
        Scale.ofNat (leastPoints 4) := by
  have hquery : normalized "ursula kroeber le guin" = "ursula kroeber le guin".toList := by
    decide +kernel
  have hfirst : normalized "Anne Rice" = "anne rice".toList := by decide +kernel
  have hother : normalized "Ursula K. Le Guin" = "ursula k le guin".toList := by decide +kernel
  have hwords : queryWords "ursula kroeber le guin" ≠ [] := by
    rw [queryWords, hquery]
    decide
  have hgate : passesGate "ursula kroeber le guin" rememberedByAlias = true := by decide +kernel
  have hsurvives := survives_of_passesGate VotePoints.logarithm hwords hgate
  refine ⟨hwords, hgate, hsurvives, ?_⟩
  have hname : matchPoints ℝ "ursula kroeber le guin" "Anne Rice" = -200 := by
    apply matchPoints_stranger <;> simp only [queryWords, hquery, hfirst] <;> decide +kernel
  have hshare : share ℝ "ursula kroeber le guin" "Ursula K. Le Guin" = 3 / 4 := by
    have hthree : occurring (queryWords "ursula kroeber le guin") (normalized "Ursula K. Le Guin") =
        3 := by
      rw [queryWords, hquery, hother]
      decide +kernel
    have hfour : (queryWords "ursula kroeber le guin").length = 4 := by
      rw [queryWords, hquery]
      decide
    rw [share, hthree, hfour]
    norm_num
  have halias : matchPoints ℝ "ursula kroeber le guin" "Ursula K. Le Guin" = 175 := by
    rw [matchPoints_eq_of_apart, hshare]
    · norm_num
    all_goals
      simp only [hquery, hother]
      decide +kernel
  have hnames : namePoints ℝ "ursula kroeber le guin" rememberedByAlias = max (-200) (175 * (4 / 5)) := by
    simp only [namePoints, rememberedByAlias, withAliases, Sample.author, List.foldl_cons, List.foldl_nil,
      hname, halias]
  rw [nameScore_eq, Exact.ofNat_eq, Exact.of_inj, hnames, leastPoints]
  norm_num

end Relevance
end Biblio
