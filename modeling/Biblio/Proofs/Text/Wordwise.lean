import Biblio.Proofs.Text.Capitals
import Biblio.Proofs.Text.Casing

/-!
# What is done word by word

Lower case, capitals and the removal of punctuation leave the blanks of a text where they are.  So
what they do to a text they do to its words.

* `blank_induction` goes through a text from one blank to the next.
* `Wordwise` says of a function on texts that it leaves the blanks, and `Wordwise.words_eq` what
  the words of its result are: those of the text, each of them changed, without the ones of which
  nothing is left.
-/

set_option autoImplicit false

namespace Biblio
namespace Text

variable {F : List Char → List Char} {cs : List Char} {p : Char → Bool}

/-- Every text has no blank, or it has a first one. -/
theorem blank_induction {motive : List Char → Prop}
    (solid : ∀ cs, (∀ c ∈ cs, isBlank c = false) → motive cs)
    (blank : ∀ cs b ds, (∀ c ∈ cs, isBlank c = false) → isBlank b = true → motive ds →
      motive (cs ++ b :: ds)) (cs : List Char) : motive cs := by
  suffices h : ∀ read, (∀ c ∈ read, isBlank c = false) → motive (read ++ cs) from
    h [] (List.forall_mem_nil _)
  induction cs with
  | nil =>
    intro read hread
    rw [List.append_nil]
    exact solid read hread
  | cons c cs ih =>
    intro read hread
    cases hc : isBlank c with
    | true => exact blank read c cs hread hc (ih [] (List.forall_mem_nil _))
    | false =>
      rw [List.append_cons]
      exact ih _ (List.forall_mem_append.mpr ⟨hread, List.forall_mem_singleton.mpr hc⟩)

/-- A function on texts that leaves their blanks and makes no new ones. -/
structure Wordwise (F : List Char → List Char) : Prop where
  nil : F [] = []
  split : ∀ {b : Char}, isBlank b = true → ∀ cs ds, F (cs ++ b :: ds) = F cs ++ b :: F ds
  solid : ∀ {cs : List Char}, (∀ c ∈ cs, isBlank c = false) → ∀ d ∈ F cs, isBlank d = false

namespace Wordwise

theorem words_of_solid (h : Wordwise F) (hcs : ∀ c ∈ cs, isBlank c = false) :
    words (F cs) = ((words cs).map F).filter fun w => !w.isEmpty := by
  by_cases hnil : cs = []
  · rw [hnil, h.nil]
    rfl
  · rw [Text.words_of_solid ⟨hnil, hcs⟩, List.map_singleton]
    by_cases hnone : F cs = []
    · simp [hnone]
    · simp [Text.words_of_solid ⟨hnone, h.solid hcs⟩, hnone]

/-- **The words of what is done word by word.** -/
theorem words_eq (h : Wordwise F) (cs : List Char) :
    words (F cs) = ((words cs).map F).filter fun w => !w.isEmpty := by
  induction cs using blank_induction with
  | solid cs hcs => exact h.words_of_solid hcs
  | blank cs b ds hcs hb ih =>
    rw [h.split hb, words_append_blank hb, words_append_blank hb, h.words_of_solid hcs, ih,
      List.map_append, List.filter_append]

/-- No word is lost if something is left of each. -/
theorem words_eq_map (h : Wordwise F) (hne : ∀ w, w ≠ [] → F w ≠ []) (cs : List Char) :
    words (F cs) = (words cs).map F := by
  rw [h.words_eq, List.filter_eq_self]
  intro v hv
  obtain ⟨w, hw, rfl⟩ := List.mem_map.mp hv
  simpa using hne w (solid_of_mem_words hw).1

end Wordwise

/-! ## Lower case -/

theorem wordwise_lower : Wordwise lower where
  nil := rfl
  split hb := lower_append_blank hb
  solid hcs := not_blank_of_mem_lowerAfter hcs

theorem words_lower (cs : List Char) : words (lower cs) = (words cs).map lower :=
  wordwise_lower.words_eq_map (fun _ => lowerAfter_ne_nil) cs

/-! ## Capitals -/

theorem toLower_of_blank {b : Char} (hb : isBlank b = true) : b.toLower = b := by
  refine Char.toLower_eq_of_not_isUpper fun hupper => ?_
  obtain ⟨hge, hle⟩ := isUpper_iff_toNat.mp hupper
  exact absurd (hb.symm.trans (not_blank_of_toNat hge (by omega))) nofun

theorem wordwise_map_toLower : Wordwise (List.map Char.toLower) where
  nil := rfl
  split hb cs ds := by rw [List.map_append, List.map_cons, toLower_of_blank hb]
  solid hcs := List.forall_mem_map.mpr fun c hc => (isBlank_toLower c).trans (hcs c hc)

theorem words_map_toLower (cs : List Char) :
    words (cs.map Char.toLower) = (words cs).map (List.map Char.toLower) :=
  wordwise_map_toLower.words_eq_map (fun _ hne => mt List.map_eq_nil_iff.mp hne) cs

/-! ## Classes of characters -/

theorem wordwise_filter (hp : ∀ b, isBlank b = true → p b = true) : Wordwise (List.filter p) where
  nil := rfl
  split hb cs ds := by rw [List.filter_append, List.filter_cons_of_pos (hp _ hb)]
  solid hcs d hd := hcs d (List.mem_filter.mp hd).1

theorem countsInName_of_blank {b : Char} (hb : isBlank b = true) : countsInName b = true := by
  have hne {c : Char} (hc : isBlank c = false) : (b != c) = true := by
    rw [bne_iff_ne]
    rintro rfl
    exact absurd (hb.symm.trans hc) nofun
  rw [countsInName, hne (by decide), hne (by decide)]
  rfl

end Text
end Biblio
