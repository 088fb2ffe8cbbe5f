import Biblio.Proofs.Text.LowerCase
import Biblio.Proofs.Text.Restyled

/-!
# Normal forms of texts

The key of a text and the form in which names are matched are made of its words in lower case.

* `textKey_textKey` and `normalizeName_normalizeName` — a normal form is its own normal form,
  since lower case leaves nothing that it would change again.
* `Restyled.textKey_eq` and `Restyled.normalizeName_eq` — texts that differ in style alone have
  one normal form.
-/

set_option autoImplicit false

namespace Biblio
namespace Text

variable {c : Char} {cs : List Char} {s t : String}

/-! ## Characters of a normal form -/

theorem mem_joinWords {ws : List (List Char)} (h : c ∈ joinWords ws) :
    c = ' ' ∨ ∃ w ∈ ws, c ∈ w := by
  induction ws with
  | nil => exact nomatch h
  | cons w ws ih =>
    by_cases hnil : ws = []
    · rw [hnil] at h
      exact .inr ⟨w, List.mem_cons_self, h⟩
    · rw [joinWords_cons_of_ne_nil hnil] at h
      rcases List.mem_append.mp h with hw | hrest
      · exact .inr ⟨w, List.mem_cons_self, hw⟩
      · rcases List.mem_cons.mp hrest with hspace | hrest
        · exact .inl hspace
        · exact (ih hrest).imp_right fun ⟨v, hv, hc⟩ => ⟨v, List.mem_cons_of_mem w hv, hc⟩

/-- What holds of a space and of the characters of a text holds of those of its words with spaces
between them. -/
theorem forall_mem_joinWords_words {P : Char → Prop} (hspace : P ' ') (h : ∀ c ∈ cs, P c) :
    ∀ c ∈ joinWords (words cs), P c := by
  intro c hc
  rcases mem_joinWords hc with rfl | ⟨w, hw, hcw⟩
  · exact hspace
  · exact h c ((infix_of_mem_words hw).subset hcw)

theorem words_joinWords_words (cs : List Char) : words (joinWords (words cs)) = words cs :=
  words_joinWords fun _ => solid_of_mem_words

theorem settled_space : Settled ' ' := by decide +kernel

theorem settled_of_mem_lower : ∀ d ∈ lower cs, Settled d := fun _ => settled_of_mem_lowerAfter

/-! ## Keys -/

theorem toList_textKey (s : String) : (textKey s).toList = joinWords (words (lower s.toList)) := by
  rw [textKey, String.toList_ofList, words_lower]

/-- **The key of a key** is the key. -/
theorem textKey_textKey (s : String) : textKey (textKey s) = textKey s := by
  have hlower : lower (textKey s).toList = (textKey s).toList := by
    rw [toList_textKey]
    exact lower_of_settled (forall_mem_joinWords_words settled_space settled_of_mem_lower)
  rw [← String.toList_inj, toList_textKey, hlower, toList_textKey, words_joinWords_words]

/-! ## Names -/

theorem toList_normalizeName (s : String) :
    (normalizeName s).toList = joinWords (words ((lower s.toList).filter countsInName)) := by
  rw [normalizeName_eq, String.toList_ofList]

/-- **The normal form of a name in normal form** is the name. -/
theorem normalizeName_normalizeName (s : String) :
    normalizeName (normalizeName s) = normalizeName s := by
  have hlower : lower (normalizeName s).toList = (normalizeName s).toList := by
    rw [toList_normalizeName]
    refine lower_of_settled (forall_mem_joinWords_words settled_space fun d hd => ?_)
    exact settled_of_mem_lower d (List.mem_filter.mp hd).1
  have hfilter : (normalizeName s).toList.filter countsInName = (normalizeName s).toList := by
    rw [toList_normalizeName, List.filter_eq_self]
    exact forall_mem_joinWords_words rfl fun d hd => (List.mem_filter.mp hd).2
  rw [← String.toList_inj, toList_normalizeName, hlower, hfilter, toList_normalizeName,
    words_joinWords_words]

/-! ## Texts in another style -/

theorem words_lower_eq_map_plainWords (cs : List Char) :
    words (lower cs) = (plainWords cs).map lower := by
  rw [words_lower, plainWords, List.map_map]
  exact List.map_congr_left fun w _ => (lower_map_toLower w).symm

/-- Texts that differ in style alone have the same words in lower case. -/
theorem Restyled.words_lower_eq (h : Restyled s t) :
    words (lower s.toList) = words (lower t.toList) := by
  rw [words_lower_eq_map_plainWords, restyled_iff.mp h, words_lower_eq_map_plainWords]

theorem Restyled.textKey_eq (h : Restyled s t) : textKey s = textKey t := by
  rw [← String.toList_inj, toList_textKey, h.words_lower_eq, toList_textKey]

theorem Restyled.normalizeName_eq (h : Restyled s t) : normalizeName s = normalizeName t := by
  have hwords := (wordwise_filter fun _ => countsInName_of_blank).words_eq
  rw [← String.toList_inj, toList_normalizeName, toList_normalizeName, hwords, hwords,
    h.words_lower_eq]

example : textKey " Ὀδυσσεύς\t ΟΜΗΡΟΣ " = "ὀδυσσεύς ομηρος" := by decide +kernel

end Text
end Biblio
