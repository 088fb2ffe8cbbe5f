import Biblio.Proofs.Relevance.Closeness

/-!
# Containment before and after normalisation

The scorer looks for the query in a candidate twice: in the normalised texts, and in the texts as they are
written, in lower case.  The second look finds nothing that the first one missed.  Periods and commas in
the query are in the candidate too where it contains the query, and only the two words at the ends may go
on in it.

* `closenessPoints` are the weights of the scorer without the one for the second look, and
  `points_tier_eq` says that they are all that is awarded.
* `matchScore_eq_of_closeness` is the score without the second look, in every arithmetic, that of doubles
  included.
* `containment_of_ne_nil` puts this together with the words: a candidate that contains the query has all
  of them.
-/

set_option autoImplicit false

namespace Biblio
namespace Relevance

variable {query candidate : String}

/-- The points for a closeness. -/
def closenessPoints : Nat → Nat
  | 0 => 0
  | 1 => 500
  | 2 => 900
  | _ => 1000

/-- The weights that are awarded are those of the normalised texts. -/
theorem points_tier_eq (query candidate : String) :
    (tier query candidate).points = closenessPoints (closeness query candidate) := by
  have hraw := tier_ne_rawContains query candidate
  rw [closeness]
  rw [tier] at hraw ⊢
  simp only [Text.occursIn_iff] at hraw ⊢
  split_ifs at hraw ⊢ with hequal hspaces hwithin hcontained
  · rfl
  · rfl
  · rfl
  · exact absurd rfl hraw
  · rfl

/-- **The score without a look at the texts as they are written.** -/
theorem matchScore_eq_of_closeness {α : Type} [Scale α] (hquery : normalized query ≠ [])
    (hcandidate : normalized candidate ≠ []) : (matchScore query candidate : α) =
      overlapScore (Scale.ofNat (closenessPoints (closeness query candidate)))
        (occurring (queryWords query) (normalized candidate)) (queryWords query).length := by
  have hempty : ((normalized query).isEmpty || (normalized candidate).isEmpty) = false := by
    simp [hquery, hcandidate]
  simp only [matchScore, hempty, Bool.false_eq_true, if_false, points_tier_eq]

/-- What containment in lower case comes to. -/
structure Containment (query candidate : String) : Prop where
  /-- A candidate that contains the trimmed query in lower case contains it after normalisation. -/
  within : Text.lower (Text.trimChars query.toList) <:+: Text.lower candidate.toList →
    normalized query <:+: normalized candidate
  /-- So no candidate is put into the tier for it. -/
  tier_ne : tier query candidate ≠ .rawContains
  /-- No score has its weight: there are those for an equal candidate, for one that is equal once spaces
  are removed and for one that contains the query after normalisation, and nothing. -/
  score_eq : ∀ {α : Type} [Scale α], (matchScore query candidate : α) =
    overlapScore (Scale.ofNat (closenessPoints (closeness query candidate)))
      (occurring (queryWords query) (normalized candidate)) (queryWords query).length
  /-- Every word of the query occurs in a candidate that contains it after normalisation. -/
  words : normalized query <:+: normalized candidate →
    occurring (queryWords query) (normalized candidate) = (queryWords query).length
  /-- The share of the words that occur is then all. -/
  share_eq : normalized query <:+: normalized candidate →
    ∀ {K : Type} [Field K] [LinearOrder K] [IsStrictOrderedRing K], share K query candidate = 1

/-- **Containment in lower case adds nothing to containment after normalisation.** -/
theorem containment_of_ne_nil (hquery : normalized query ≠ []) (hcandidate : normalized candidate ≠ []) :
    Containment query candidate where
  within := Text.infix_normalizeName_of_lower
  tier_ne := tier_ne_rawContains query candidate
  score_eq := matchScore_eq_of_closeness hquery hcandidate
  words := occurring_of_contains
  share_eq hwithin := share_of_within hquery hwithin

/-- A comma that stands alone in the query and begins a word of the candidate. -/
theorem containment_looseComma :
    normalized "Guin ," ≠ [] ∧ normalized "Le Guin ,Ursula" ≠ [] ∧
      Containment "Guin ," "Le Guin ,Ursula" ∧
      occurring (queryWords "Guin ,") (normalized "Le Guin ,Ursula") = (queryWords "Guin ,").length := by
  have hquery : normalized "Guin ," ≠ [] := by decide +kernel
  have hcandidate : normalized "Le Guin ,Ursula" ≠ [] := by decide +kernel
  have hcontainment := containment_of_ne_nil hquery hcandidate
  have hraw : Text.lower (Text.trimChars "Guin ,".toList) <:+: Text.lower "Le Guin ,Ursula".toList :=
    Text.occursIn_iff.mp (by decide +kernel)
  exact ⟨hquery, hcandidate, hcontainment, hcontainment.words (hcontainment.within hraw)⟩

end Relevance
end Biblio
