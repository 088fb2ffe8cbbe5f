import Biblio.Proofs.Provider.Sharing
import Biblio.Proofs.Relevance.Containment
import Biblio.Proofs.Text.NormalForms
import Biblio.Relevance.Rank

/-!
# One query in several styles

A query is looked up under its key and compared in its normal form.  Neither shows its style, so
queries that differ in style alone are treated alike.

* `Relevance.passesGate_congr`, `matchScore_congr`, `rankAuthors_congr` and `rankEntities_congr` —
  gate, scores and ranking depend on the normal forms only, also where the scorer looks at the
  texts as they are written.
* `OneQuery` is what queries in two styles have in common, and `normalForms` puts it together with
  the normal forms.
-/

set_option autoImplicit false

namespace Biblio

open Text

/-! ## Gate and scores -/

namespace Relevance

variable {α : Type} [Scale α] {query query' candidate candidate' : String}

theorem passesGate_congr (h : normalized query = normalized query') :
    passesGate query = passesGate query' := by
  funext a
  rw [passesGate, passesGate, queryWords, queryWords, h]

theorem closeness_congr (hquery : normalized query = normalized query')
    (hcandidate : normalized candidate = normalized candidate') :
    closeness query candidate = closeness query' candidate' := by
  rw [closeness, closeness, hquery, hcandidate]

/-- **Scores depend on the normal forms.** -/
theorem matchScore_congr (hquery : normalized query = normalized query')
    (hcandidate : normalized candidate = normalized candidate') :
    (matchScore query candidate : α) = matchScore query' candidate' := by
  rw [matchScore, matchScore, points_tier_eq, points_tier_eq, closeness_congr hquery hcandidate,
    queryWords, queryWords, hquery, hcandidate]

theorem scoreAuthor_congr (h : normalized query = normalized query') :
    scoreAuthor (α := α) query = scoreAuthor query' := by
  have hmatch (name : String) : (matchScore query name : α) = matchScore query' name :=
    matchScore_congr h rfl
  funext a
  simp only [scoreAuthor, nameScore, hmatch]

theorem scoreEntity_congr (h : normalized query = normalized query') :
    scoreEntity (α := α) query = scoreEntity query' := by
  funext e
  cases e with
  | author a => exact congrFun (scoreAuthor_congr h) a
  | book b => rw [scoreEntity, scoreEntity, scoreBook, scoreBook, matchScore_congr h rfl]

theorem rankAuthors_congr (h : normalized query = normalized query') :
    rankAuthors query = rankAuthors query' := by
  funext authors
  rw [rankAuthors, rankAuthors, scoreAuthor_congr h, passesGate_congr h]

theorem rankEntities_congr (h : normalized query = normalized query') :
    rankEntities query = rankEntities query' := by
  funext entities
  rw [rankEntities, rankEntities, scoreEntity_congr h]

end Relevance

/-! ## Queries in two styles -/

variable {s t : String}

theorem normalized_eq_of_restyled (h : Restyled s t) :
    Relevance.normalized s = Relevance.normalized t :=
  congrArg String.toList h.normalizeName_eq

theorem map_textKey_eq {s? t? : Option String} (h : Option.Rel Restyled s? t?) :
    s?.map textKey = t?.map textKey := by
  cases h with
  | some h => exact congrArg some h.textKey_eq
  | none => rfl

/-- What queries in two styles have in common. -/
structure OneQuery (s t : String) : Prop where
  key : textKey s = textKey t
  name : normalizeName s = normalizeName t
  /-- Searches for authors have one entry in the cache of a provider. -/
  authors : ∀ (W : Type) (p : Provider W), Shares p (.authors s) (.authors t)
  /-- So have searches for books, also if the author is given in two styles. -/
  books : ∀ (W : Type) (p : Provider W) author? author?' allEditions,
    Option.Rel Restyled author? author?' →
      Shares p (.books s author? allEditions) (.books t author?' allEditions)
  /-- The gate decides alike. -/
  gate : Relevance.passesGate s = Relevance.passesGate t
  /-- Names score alike in every arithmetic, whatever style they have themselves. -/
  score : ∀ (α : Type) [Relevance.Scale α] c d, Restyled c d →
    (Relevance.matchScore s c : α) = Relevance.matchScore t d
  /-- So the same authors are left, and the order is the same. -/
  rankAuthors : Relevance.rankAuthors s = Relevance.rankAuthors t
  rankEntities : Relevance.rankEntities s = Relevance.rankEntities t

theorem OneQuery.of_restyled (h : Restyled s t) : OneQuery s t where
  key := h.textKey_eq
  name := h.normalizeName_eq
  authors W p := by
    have hslot : (Inquiry.authors t).slot? = some ⟨.authorSearches, textKey s⟩ := by
      rw [Inquiry.slot?, h.textKey_eq]
    exact .of_slot rfl hslot rfl p
  books W p author? author?' allEditions hauthor := by
    have hslot : (Inquiry.books t author?' allEditions).slot? =
        some ⟨.bookSearches, Provider.bookSearchKey s author? allEditions⟩ := by
      rw [Inquiry.slot?, Provider.bookSearchKey, Provider.bookSearchKey, h.textKey_eq,
        map_textKey_eq hauthor]
    exact .of_slot rfl hslot rfl p
  gate := Relevance.passesGate_congr (normalized_eq_of_restyled h)
  score _ _ _ _ hcandidate :=
    Relevance.matchScore_congr (normalized_eq_of_restyled h) (normalized_eq_of_restyled hcandidate)
  rankAuthors := Relevance.rankAuthors_congr (normalized_eq_of_restyled h)
  rankEntities := Relevance.rankEntities_congr (normalized_eq_of_restyled h)

/-- What is known of the normal forms of a text. -/
structure NormalForms (s : String) : Prop where
  /-- A key is its own key. -/
  key_key : textKey (textKey s) = textKey s
  /-- A name in normal form is its own normal form. -/
  name_name : normalizeName (normalizeName s) = normalizeName s
  /-- To differ in style alone is to have the same words, but for capitals of ASCII. -/
  restyled_iff : ∀ t, Restyled s t ↔ plainWords s.toList = plainWords t.toList
  /-- Texts that differ in style alone are one query. -/
  one_query : ∀ t, Restyled s t → OneQuery s t

/-- **Keys of texts are normal forms**, and queries that differ in style alone are treated alike. -/
theorem normalForms (s : String) : NormalForms s where
  key_key := textKey_textKey s
  name_name := normalizeName_normalizeName s
  restyled_iff _ := Text.restyled_iff
  one_query _ := .of_restyled

end Biblio
