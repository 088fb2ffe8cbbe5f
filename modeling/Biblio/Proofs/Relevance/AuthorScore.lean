import Biblio.Proofs.Relevance.Closeness
import Biblio.Sample

/-!
# What the score of an author is made of

The score of an author is that of the names, the points for ratings, and the other signals.  The signals
are capped, so they cannot make up for a name; the names enter through a maximum, in which an alias
counts four fifths.

* `namePoints` and `signals` are the parts as numbers, and `scoreAuthor_eq` puts them together.
* `namePoints_le_iff` says all there is to know of the maximum.
* `scoreAuthor_lt_of_equal` — an author whose name equals the query scores higher than any whose name
  differs from it by more than spaces.
* `aliasEffect` — what one more alias does; `raised_by_stranger` is an alias that matches no better
  than the name and raises the score all the same, because four fifths of a negative score are more than
  that score.
-/

set_option autoImplicit false

namespace Biblio
namespace Relevance

variable {K : Type} [Field K] [LinearOrder K] {v : VotePoints K} {query : String} {a b : Author}

/-! ## The names -/

/-- The match of the name, or four fifths of that of the best alias. -/
def namePoints (K : Type) [Field K] [LinearOrder K] (query : String) (a : Author) : K :=
  a.aliases.foldl (fun best alternate => max best (matchPoints K query alternate * (4 / 5)))
    (matchPoints K query a.name)

theorem namePoints_le_iff {k : K} : namePoints K query a ≤ k ↔
    matchPoints K query a.name ≤ k ∧ ∀ x ∈ a.aliases, matchPoints K query x * (4 / 5) ≤ k :=
  foldl_max_le_iff

theorem matchPoints_le_namePoints (query : String) (a : Author) :
    matchPoints K query a.name ≤ namePoints K query a :=
  (namePoints_le_iff.mp le_rfl).1

/-- An author under these aliases instead. -/
def withAliases (a : Author) (aliases : List String) : Author := { a with aliases := aliases }

@[simp] theorem withAliases_name (a : Author) (xs : List String) : (withAliases a xs).name = a.name :=
  rfl

@[simp] theorem withAliases_ratings (a : Author) (xs : List String) :
    (withAliases a xs).ratings = a.ratings := rfl

/-- One more alias, wherever it stands, enters the maximum. -/
theorem namePoints_insert (a : Author) (before : List String) (x : String) (after : List String) :
    namePoints K query (withAliases a (before ++ x :: after)) =
      max (namePoints K query (withAliases a (before ++ after)))
        (matchPoints K query x * (4 / 5)) := by
  refine eq_of_forall_ge_iff fun k => ?_
  rw [max_le_iff, namePoints_le_iff, namePoints_le_iff]
  simp only [withAliases, List.forall_mem_append, List.forall_mem_cons]
  constructor
  · rintro ⟨hname, hbefore, hx, hafter⟩
    exact ⟨⟨hname, hbefore, hafter⟩, hx⟩
  · rintro ⟨⟨hname, hbefore, hafter⟩, hx⟩
    exact ⟨hname, hbefore, hx, hafter⟩

variable [IsStrictOrderedRing K]

theorem scaled_eq (query x : String) : (matchScore query x * Scale.ratio 4 5 : Exact v) =
    Exact.of (matchPoints K query x * (4 / 5)) := by
  rw [matchScore_eq, Exact.ratio_eq, Exact.of_mul_of]
  norm_num

theorem nameScore_eq (query : String) (a : Author) :
    (nameScore query a : Exact v) = Exact.of (namePoints K query a) := by
  have hfrom (best : K) :
      a.aliases.foldl (fun best alternate =>
          higherOf best (matchScore query alternate * Scale.ratio 4 5)) (Exact.of best : Exact v) =
        Exact.of (a.aliases.foldl
          (fun best alternate => max best (matchPoints K query alternate * (4 / 5))) best) := by
    induction a.aliases generalizing best with
    | nil => rfl
    | cons x rest ih =>
      rw [List.foldl_cons, List.foldl_cons, scaled_eq, Exact.higherOf_of, ih]
  rw [nameScore, matchScore_eq, hfrom, namePoints]

/-! ## The ratings -/

/-- Ratings earn at most fifty points, and cost points only if the average is negative. -/
theorem ratingsScore_cases (r : Ratings) : (ratingsScore r : Exact v) = ⊥ ∧ r.value < 0 ∨
    ∃ x : K, (ratingsScore r : Exact v) = Exact.of x ∧ x ≤ 50 ∧ (¬ r.value < 0 → 0 ≤ x) := by
  rw [ratingsScore]
  split_ifs
  · exact .inr ⟨0, by simp, by norm_num, fun _ => le_rfl⟩
  · have hvotes : (Scale.votes r.votes : Exact v) = Exact.of (v.points r.votes) := rfl
    have hstars : (Scale.stars r.value : Exact v) = Exact.stars r.value := rfl
    have hleast : 0 ≤ v.points r.votes := v.nonneg r.votes
    have hmost : v.points r.votes ≤ 30 := by simpa [votesCap] using v.le_cap r.votes
    rw [hvotes, hstars]
    rcases Exact.stars_cases (v := v) r.value with hbot | ⟨s, hs, hcap⟩
    · refine .inl ⟨by rw [hbot, Exact.of_add_bot], ?_⟩
      by_contra hvalue
      exact absurd (hbot ▸ Exact.stars_nonneg (v := v) hvalue) (Exact.bot_lt_of 0).not_ge
    · have hcap : s ≤ 20 := by simpa [starsCap] using hcap
      refine .inr ⟨v.points r.votes + s, by rw [hs, Exact.of_add_of], by linarith, fun hvalue => ?_⟩
      have hpositive : 0 ≤ s := Exact.of_le_of.mp (hs ▸ Exact.stars_nonneg (v := v) hvalue)
      exact add_nonneg hleast hpositive

/-! ## The other signals -/

/-- Points that are earned under a condition. -/
def earned (K : Type) [Field K] (condition : Bool) (points : Nat) : K :=
  if condition then points else 0

/-- What an author earns for works, dates, an overview and images, less what few works cost. -/
def signals (K : Type) [Field K] (a : Author) : K :=
  (min a.workCount 100 : Nat) * (1 / 2) + earned K (hasText a.birthDate) 5 +
    earned K (hasText a.deathDate) 5 + earned K (hasText a.overview) 10 +
    (min (2 * a.images.length) 10 : Nat) -
    earned K (a.workCount < fewWorks) fewWorksPenalty

omit [LinearOrder K] [IsStrictOrderedRing K] in
@[simp] theorem signals_withAliases (a : Author) (xs : List String) :
    signals K (withAliases a xs) = signals K a := rfl

theorem earned_mem (condition : Bool) (points : Nat) :
    0 ≤ earned K condition points ∧ earned K condition points ≤ points := by
  rw [earned]
  split_ifs
  · exact ⟨Nat.cast_nonneg _, le_rfl⟩
  · exact ⟨le_rfl, Nat.cast_nonneg _⟩

/-- All caps together are eighty points, and few works cost a hundred. -/
theorem signals_mem (a : Author) : -100 ≤ signals K a ∧ signals K a ≤ 80 := by
  have hworks : ((min a.workCount 100 : Nat) : K) ≤ 100 := by exact_mod_cast min_le_right _ _
  have himages : ((min (2 * a.images.length) 10 : Nat) : K) ≤ 10 := by
    exact_mod_cast min_le_right _ _
  have hsomeWorks : (0 : K) ≤ (min a.workCount 100 : Nat) := Nat.cast_nonneg _
  have hsomeImages : (0 : K) ≤ (min (2 * a.images.length) 10 : Nat) := Nat.cast_nonneg _
  obtain ⟨hnobirth, hbirth⟩ := earned_mem (K := K) (hasText a.birthDate) 5
  obtain ⟨hnodeath, hdeath⟩ := earned_mem (K := K) (hasText a.deathDate) 5
  obtain ⟨hnooverview, hoverview⟩ := earned_mem (K := K) (hasText a.overview) 10
  obtain ⟨hnopenalty, hpenalty⟩ := earned_mem (K := K) (a.workCount < fewWorks) 100
  push_cast at hbirth hdeath hoverview hpenalty
  rw [signals, fewWorksPenalty]
  constructor <;> linarith

omit [IsStrictOrderedRing K] in
theorem bonus_of (condition : Bool) (points : Nat) (x : K) :
    bonus condition points (Exact.of x : Exact v) = Exact.of (x + earned K condition points) := by
  cases condition <;> simp [bonus, earned]

omit [IsStrictOrderedRing K] in
theorem bonus_bot (condition : Bool) (points : Nat) : bonus condition points (⊥ : Exact v) = ⊥ := by
  cases condition <;> simp [bonus]

/-- **The score of an author**: the names and the signals, and the points for ratings. -/
theorem scoreAuthor_eq (query : String) (a : Author) : (scoreAuthor query a : Exact v) =
    Exact.of (namePoints K query a + signals K a) + ratingsScore a.ratings := by
  rw [scoreAuthor, nameScore_eq]
  rcases ratingsScore_cases (v := v) a.ratings with ⟨hbot, -⟩ | ⟨r, hr, -⟩
  · simp [hbot, bonus_bot, worksScore, imagesScore]
  · have hpenalty : earned K (a.workCount < fewWorks) fewWorksPenalty =
        if a.workCount < fewWorks then (fewWorksPenalty : K) else 0 := by simp [earned]
    simp only [hr, worksScore, imagesScore, Exact.ofNat_eq, Exact.ratio_eq, Exact.of_mul_of,
      Exact.of_add_of, bonus_of, signals, hpenalty]
    split_ifs <;> simp only [Exact.of_sub_of, Exact.of_inj] <;> push_cast <;> ring

/-! ## Exact names -/

/-- A name that differs by more than spaces earns at most what containing the query does. -/
theorem matchPoints_le_of_differs {name : String}
    (h : withoutSpaces (normalized query) ≠ withoutSpaces (normalized name)) :
    matchPoints K query name ≤ 800 := by
  by_cases hquery : normalized query = []
  · rw [matchPoints_of_empty hquery]
    norm_num
  · by_cases hwithin : normalized query <:+: normalized name
    · exact (matchPoints_within hquery h hwithin).le
    · have hapart : matchPoints K query name ≤ 300 := matchPoints_apart h hwithin
      linarith

/-- Whatever the aliases are, such a name earns less than four fifths of an equal one. -/
theorem namePoints_le_of_differs
    (h : withoutSpaces (normalized query) ≠ withoutSpaces (normalized b.name)) :
    namePoints K query b ≤ 1040 := by
  refine namePoints_le_iff.mpr ⟨?_, fun x _ => ?_⟩
  · have hname : matchPoints K query b.name ≤ 800 := matchPoints_le_of_differs h
    linarith
  · have halias : matchPoints K query x ≤ 1300 := matchPoints_le query x
    linarith

/-- **An equal name outweighs everything else**: it scores higher than any name that differs from the
query by more than spaces, whatever else there is to the two authors. -/
theorem scoreAuthor_lt_of_equal (v : VotePoints K) {query : String} {a b : Author}
    (hquery : normalized query ≠ []) (hequal : normalized a.name = normalized query)
    (hvalue : ¬ a.ratings.value < 0)
    (hdiffers : withoutSpaces (normalized b.name) ≠ withoutSpaces (normalized query)) :
    (scoreAuthor query b : Exact v) < scoreAuthor query a := by
  have hnameA : 1300 ≤ namePoints K query a :=
    (matchPoints_equal hquery hequal.symm).symm.le.trans (matchPoints_le_namePoints query a)
  have hnameB : namePoints K query b ≤ 1040 := namePoints_le_of_differs hdiffers.symm
  obtain ⟨hsignalsA, -⟩ := signals_mem (K := K) a
  obtain ⟨-, hsignalsB⟩ := signals_mem (K := K) b
  rw [scoreAuthor_eq, scoreAuthor_eq]
  rcases ratingsScore_cases (v := v) a.ratings with ⟨-, hnegative⟩ | ⟨r, hr, -, hpositive⟩
  · exact absurd hnegative hvalue
  · have hratingsA : 0 ≤ r := hpositive hvalue
    rw [hr, Exact.of_add_of]
    rcases ratingsScore_cases (v := v) b.ratings with ⟨hbot, -⟩ | ⟨s, hs, hmost, -⟩
    · rw [hbot, Exact.of_add_bot]
      exact Exact.bot_lt_of _
    · rw [hs, Exact.of_add_of, Exact.of_lt_of]
      linarith

/-- An author of one work against a celebrated one who has the name as an alias. -/
theorem scoreAuthor_lt_celebrated :
    (scoreAuthor "Richard Bachman" { Sample.detailedAuthor "1" "Stephen King" 100 with
        aliases := ["Richard Bachman"] } : Exact VotePoints.logarithm) <
      scoreAuthor "Richard Bachman" { Sample.author "2" "Richard Bachman" with workCount := 1 } :=
  scoreAuthor_lt_of_equal _ (by decide +kernel) rfl (by decide) (by decide +kernel)

/-! ## One more alias -/

/-- What an alias does to the score of an author. -/
structure AliasEffect (v : VotePoints K) (query : String) (a : Author) (before : List String)
    (x : String) (after : List String) : Prop where
  /-- It leaves the score as it is exactly if four fifths of its match are no more than the author has
  without it, or if no points count because of the rating. -/
  unchanged_iff : (scoreAuthor query (withAliases a (before ++ x :: after)) : Exact v) =
      scoreAuthor query (withAliases a (before ++ after)) ↔
    (matchScore query x * Scale.ratio 4 5 : Exact v) ≤
      nameScore query (withAliases a (before ++ after)) ∨ (ratingsScore a.ratings : Exact v) = ⊥
  /-- In particular it does if it matches no better than the name and its match is not negative. -/
  unchanged : (matchScore query x : Exact v) ≤ matchScore query a.name →
    (Scale.ofNat 0 : Exact v) ≤ matchScore query x →
    (scoreAuthor query (withAliases a (before ++ x :: after)) : Exact v) =
      scoreAuthor query (withAliases a (before ++ after))
  /-- It never lowers the score. -/
  le : (scoreAuthor query (withAliases a (before ++ after)) : Exact v) ≤
    scoreAuthor query (withAliases a (before ++ x :: after))

/-- **One more alias** counts four fifths, and only if that is more than the author has without it. -/
theorem aliasEffect (v : VotePoints K) (query : String) (a : Author) (before : List String)
    (x : String) (after : List String) : AliasEffect v query a before x after := by
  have hunchanged : (scoreAuthor query (withAliases a (before ++ x :: after)) : Exact v) =
        scoreAuthor query (withAliases a (before ++ after)) ↔
      (matchScore query x * Scale.ratio 4 5 : Exact v) ≤
        nameScore query (withAliases a (before ++ after)) ∨
        (ratingsScore a.ratings : Exact v) = ⊥ := by
    rw [scoreAuthor_eq, scoreAuthor_eq, nameScore_eq, scaled_eq, namePoints_insert]
    rcases ratingsScore_cases (v := v) a.ratings with ⟨hbot, -⟩ | ⟨r, hr, -⟩
    · simp [hbot]
    · have hnumber : (Exact.of r : Exact v) ≠ ⊥ := (Exact.bot_lt_of r).ne'
      simp [hr, hnumber]
  refine ⟨hunchanged, fun hle hpositive => hunchanged.mpr (.inl ?_), ?_⟩
  · rw [matchScore_eq, matchScore_eq, Exact.of_le_of] at hle
    rw [matchScore_eq, Exact.ofNat_eq, Exact.of_le_of, Nat.cast_zero] at hpositive
    rw [scaled_eq, nameScore_eq, Exact.of_le_of]
    have hname := matchPoints_le_namePoints (K := K) query (withAliases a (before ++ after))
    rw [withAliases_name] at hname
    linarith
  · rw [scoreAuthor_eq, scoreAuthor_eq, namePoints_insert]
    rcases ratingsScore_cases (v := v) a.ratings with ⟨hbot, -⟩ | ⟨r, hr, -⟩
    · simp [hbot]
    · simp [hr]

/-- An alias with none of the words, beside a name that contains them all. -/
theorem aliasEffect_otherName :
    AliasEffect VotePoints.logarithm "le guin" (Sample.author "1" "Ursula K. Le Guin") []
        "Ursula Kroeber" [] ∧
      (scoreAuthor "le guin"
          (withAliases (Sample.author "1" "Ursula K. Le Guin") ["Ursula Kroeber"]) :
          Exact VotePoints.logarithm) =
        scoreAuthor "le guin" (withAliases (Sample.author "1" "Ursula K. Le Guin") []) := by
  have heffect := aliasEffect VotePoints.logarithm "le guin" (Sample.author "1" "Ursula K. Le Guin") []
    "Ursula Kroeber" []
  refine ⟨heffect, heffect.unchanged_iff.mpr (.inl ?_)⟩
  have halias : matchPoints ℝ "le guin" "Ursula Kroeber" ≤ 300 :=
    matchPoints_apart (by decide +kernel) (by decide +kernel)
  have hname : matchPoints ℝ "le guin" "Ursula K. Le Guin" = 800 :=
    matchPoints_within (by decide +kernel) (by decide +kernel) (by decide +kernel)
  have hleast := matchPoints_le_namePoints (K := ℝ) "le guin"
    (withAliases (Sample.author "1" "Ursula K. Le Guin") [])
  rw [withAliases_name, Sample.author, hname] at hleast
  rw [scaled_eq, nameScore_eq, Exact.of_le_of]
  exact le_trans (by linarith) hleast

omit [LinearOrder K] [IsStrictOrderedRing K] in
/-- A name with none of the words loses all that can be lost. -/
theorem matchPoints_stranger {name : String} (hname : normalized name ≠ [])
    (hspaces : withoutSpaces (normalized query) ≠ withoutSpaces (normalized name))
    (hapart : ¬ normalized query <:+: normalized name)
    (hnone : occurring (queryWords query) (normalized name) = 0) :
    matchPoints K query name = -200 := by
  have hquery : normalized query ≠ [] := fun hnil => hapart (by
    rw [hnil]
    exact List.nil_infix)
  have hshare : share K query name = 0 := by rw [share, hnone, Nat.cast_zero, zero_div]
  rw [matchPoints_eq_of_apart hquery hname hspaces hapart, hshare]
  norm_num

/-- **An alias that matches no better than the name raises the score**: neither has a word of the query,
and four fifths of what that costs are less than all of it. -/
theorem raised_by_stranger :
    (matchScore "tolkien" "Anne Rice" : Exact VotePoints.logarithm) ≤
        matchScore "tolkien" (Sample.author "1" "Stephen King").name ∧
      (scoreAuthor "tolkien" (withAliases (Sample.author "1" "Stephen King") ["Anne Rice"]) :
          Exact VotePoints.logarithm) ≠
        scoreAuthor "tolkien" (withAliases (Sample.author "1" "Stephen King") []) := by
  have hname : matchPoints ℝ "tolkien" (Sample.author "1" "Stephen King").name = -200 :=
    matchPoints_stranger (by decide +kernel) (by decide +kernel) (by decide +kernel) (by decide +kernel)
  have halias : matchPoints ℝ "tolkien" "Anne Rice" = -200 :=
    matchPoints_stranger (by decide +kernel) (by decide +kernel) (by decide +kernel) (by decide +kernel)
  have hratings : (ratingsScore (Sample.author "1" "Stephen King").ratings :
      Exact VotePoints.logarithm) = Exact.of 0 := by simp [ratingsScore, Sample.author]
  have hwithout : namePoints ℝ "tolkien" (withAliases (Sample.author "1" "Stephen King") []) = -200 :=
    hname
  have hwith : namePoints ℝ "tolkien" (withAliases (Sample.author "1" "Stephen King") ["Anne Rice"]) =
      max (-200) (-200 * (4 / 5)) := by
    simp only [namePoints, withAliases, List.foldl_cons, List.foldl_nil, hname, halias]
  refine ⟨by rw [matchScore_eq, matchScore_eq, hname, halias], ?_⟩
  rw [scoreAuthor_eq, scoreAuthor_eq, hwith, hwithout]
  simp only [signals_withAliases, withAliases_ratings, hratings, Exact.of_add_of, ne_eq, Exact.of_inj]
  norm_num

end Relevance
end Biblio
