import Biblio.Proofs.Text.Wordwise
import Mathlib.Logic.Relation

/-!
# Texts in another style

Two texts may differ in style alone: in the case of letters of ASCII, and in the blanks that stand
between the words or at the ends.

* `Restyle` is one such change, and `Restyled` any number of them, in either direction.
* `plainWords` are the words of a text in small letters.  `restyled_iff` says that texts differ in
  style alone exactly if they have the same: one change keeps them (`Restyle.plainWords_eq`), and
  every text can be brought to the form in which they are written with single spaces
  (`eqvGen_joinWords_plainWords`).
-/

set_option autoImplicit false

namespace Biblio
namespace Text

open Relation (EqvGen)

variable {cs ds before after bs : List Char} {s t : String}

/-! ## Changes of style -/

/-- One change of style. -/
inductive Restyle : List Char → List Char → Prop
  /-- A letter of ASCII in another case. -/
  | recase (before after : List Char) {c d : Char} (h : c.toLower = d.toLower) :
      Restyle (before ++ c :: after) (before ++ d :: after)
  /-- Other blanks.  Only at the ends of a text there may be none. -/
  | respace (before after : List Char) {bs bs' : List Char} (hbs : ∀ b ∈ bs, isBlank b = true)
      (hbs' : ∀ b ∈ bs', isBlank b = true) (hends : before ≠ [] → after ≠ [] → bs ≠ [] ∧ bs' ≠ []) :
      Restyle (before ++ bs ++ after) (before ++ bs' ++ after)

/-- Texts that differ in style alone. -/
def Restyled (s t : String) : Prop := EqvGen Restyle s.toList t.toList

/-- The words of a text in small letters. -/
def plainWords (cs : List Char) : List (List Char) := (words cs).map (List.map Char.toLower)

theorem plainWords_eq (cs : List Char) : plainWords cs = words (cs.map Char.toLower) :=
  (words_map_toLower cs).symm

/-! ## What a change of style keeps -/

/-- Blanks separate, and at the ends of a text they need not be there. -/
theorem words_across (hbs : ∀ b ∈ bs, isBlank b = true)
    (hends : before ≠ [] → after ≠ [] → bs ≠ []) :
    words (before ++ bs ++ after) = words before ++ words after := by
  by_cases hbefore : before = []
  · rw [hbefore, List.nil_append, words_blanks_append hbs, words_nil, List.nil_append]
  · by_cases hafter : after = []
    · rw [hafter, List.append_nil, words_append_blanks hbs, words_nil, List.append_nil]
    · obtain ⟨b, bs, rfl⟩ := List.exists_cons_of_ne_nil (hends hbefore hafter)
      obtain ⟨hb, hbs⟩ := List.forall_mem_cons.mp hbs
      rw [List.append_assoc, List.cons_append, words_append_blank hb, words_blanks_append hbs]

/-- **One change keeps the words.** -/
theorem Restyle.plainWords_eq (h : Restyle cs ds) : plainWords cs = plainWords ds := by
  cases h with
  | recase before after h =>
    rw [Text.plainWords_eq, Text.plainWords_eq, List.map_append, List.map_append, List.map_cons,
      List.map_cons, h]
  | respace before after hbs hbs' hends =>
    rw [plainWords, plainWords, words_across hbs fun hb ha => (hends hb ha).1,
      words_across hbs' fun hb ha => (hends hb ha).2]

theorem plainWords_eq_of_eqvGen (h : EqvGen Restyle cs ds) : plainWords cs = plainWords ds := by
  induction h with
  | rel cs ds h => exact h.plainWords_eq
  | refl cs => rfl
  | symm cs ds _ ih => exact ih.symm
  | trans cs ds es _ _ ih ih' => exact ih.trans ih'

/-! ## A common form -/

theorem isBlank_space : isBlank ' ' = true := rfl

/-- What is done to a text can be done to it behind another one. -/
theorem Restyle.behind (h : Restyle cs ds) (w : List Char) :
    Restyle (w ++ ' ' :: cs) (w ++ ' ' :: ds) := by
  cases h with
  | recase before after h => simpa using Restyle.recase (w ++ ' ' :: before) after h
  | respace before after hbs hbs' hends =>
    by_cases hbefore : before = []
    · -- the blanks at the beginning are between words now
      have hstep := Restyle.respace w after (List.forall_mem_cons.mpr ⟨isBlank_space, hbs⟩)
        (List.forall_mem_cons.mpr ⟨isBlank_space, hbs'⟩)
        fun _ _ => ⟨List.cons_ne_nil _ _, List.cons_ne_nil _ _⟩
      simpa [hbefore] using hstep
    · simpa using Restyle.respace (w ++ ' ' :: before) after hbs hbs' fun _ => hends hbefore

theorem eqvGen_behind (h : EqvGen Restyle cs ds) (w : List Char) :
    EqvGen Restyle (w ++ ' ' :: cs) (w ++ ' ' :: ds) := by
  induction h with
  | rel cs ds h => exact .rel _ _ (h.behind w)
  | refl cs => exact .refl _
  | symm cs ds _ ih => exact .symm _ _ ih
  | trans cs ds es _ _ ih ih' => exact .trans _ _ _ ih ih'

/-- A text can be written with single spaces. -/
theorem eqvGen_joinWords_words (cs : List Char) : EqvGen Restyle cs (joinWords (words cs)) := by
  induction cs using blank_induction with
  | solid cs hcs =>
    by_cases hnil : cs = []
    · rw [hnil]
      exact .refl _
    · rw [words_of_solid ⟨hnil, hcs⟩]
      exact .refl _
  | blank cs b ds hcs hb ih =>
    rw [words_append_blank hb]
    by_cases hnil : cs = []
    · rw [hnil]
      exact .trans _ ds _ (.rel _ _ (.respace [] ds (List.forall_mem_singleton.mpr hb)
        (List.forall_mem_nil _) fun hne => absurd rfl hne)) ih
    · have hspace : EqvGen Restyle (cs ++ b :: ds) (cs ++ ' ' :: ds) := by
        have hstep := Restyle.respace cs ds (List.forall_mem_singleton.mpr hb)
          (List.forall_mem_singleton.mpr isBlank_space)
          fun _ _ => ⟨List.cons_ne_nil _ _, List.cons_ne_nil _ _⟩
        exact .rel _ _ (by simpa using hstep)
      refine .trans _ _ _ (.trans _ _ _ hspace (eqvGen_behind ih cs)) ?_
      rw [words_of_solid ⟨hnil, hcs⟩]
      by_cases hlast : words ds = []
      · have hstep := Restyle.respace cs [] (List.forall_mem_singleton.mpr isBlank_space)
          (List.forall_mem_nil _) fun _ hne => absurd rfl hne
        rw [hlast]
        exact .rel _ _ (by simpa [joinWords] using hstep)
      · rw [List.singleton_append, joinWords_cons_of_ne_nil hlast]
        exact .refl _

/-- A text can be written in small letters. -/
theorem eqvGen_map_toLower (cs : List Char) : EqvGen Restyle cs (cs.map Char.toLower) := by
  suffices h : ∀ read, EqvGen Restyle (read ++ cs) (read ++ cs.map Char.toLower) from h []
  induction cs with
  | nil => exact fun read => .refl _
  | cons c cs ih =>
    intro read
    have hstep := Restyle.recase read cs (Char.toLower_toLower_eq_toLower c).symm
    refine .trans _ _ _ (.rel _ _ hstep) ?_
    simpa using ih (read ++ [c.toLower])

/-- **Every text has a form** with its words in small letters and single spaces between them. -/
theorem eqvGen_joinWords_plainWords (cs : List Char) :
    EqvGen Restyle cs (joinWords (plainWords cs)) := by
  rw [plainWords_eq]
  exact .trans _ _ _ (eqvGen_map_toLower cs) (eqvGen_joinWords_words _)

/-- **Texts differ in style alone** exactly if their words are the same in small letters. -/
theorem restyled_iff : Restyled s t ↔ plainWords s.toList = plainWords t.toList := by
  refine ⟨plainWords_eq_of_eqvGen, fun h => ?_⟩
  refine .trans _ _ _ (eqvGen_joinWords_plainWords s.toList) ?_
  rw [h]
  exact .symm _ _ (eqvGen_joinWords_plainWords t.toList)

example : Restyled "J.K.\u2003Rowling\n" " j.k. ROWLING" := restyled_iff.mpr (by decide +kernel)

end Text
end Biblio
