import Biblio.Text.Blank
import Mathlib.Data.List.TakeWhile

/-!
# Words that are joined again

A normalised text is the words of a text with single spaces between them.  What is known of its words
is what is known of the words of the text.

* `words_joinWords` — the words of a joined text are the words that were joined.
* `infix_joinWords_words` — a part of a text, joined from its words, is a part of the whole joined from
  its words, although the words at its two ends may be longer in the whole.
* `exists_eq_trimChars` — trimming takes blanks off the two ends, which are not in the words, and
  `trimChars_trimChars` that it leaves none there.
-/

set_option autoImplicit false

namespace Biblio
namespace Text

variable {cs ds w : List Char} {ws vs : List (List Char)}

/-! ## What a word is -/

/-- A run of characters that are not blank. -/
def Solid (w : List Char) : Prop := w ≠ [] ∧ ∀ c ∈ w, isBlank c = false

theorem not_blank_of_mem_pieces (h : w ∈ pieces cs) : ∀ c ∈ w, isBlank c = false := by
  induction cs generalizing w with
  | nil => simp_all [pieces]
  | cons c cs ih =>
    rw [pieces] at h
    cases hc : isBlank c with
    | true =>
      rw [if_pos hc] at h
      rcases List.mem_cons.mp h with rfl | hrest
      · simp
      · exact ih hrest
    | false =>
      cases hp : pieces cs with
      | nil => exact absurd hp (pieces_ne_nil cs)
      | cons p ps =>
        simp only [hc, Bool.false_eq_true, if_false, hp] at h
        rcases List.mem_cons.mp h with rfl | hrest
        · exact List.forall_mem_cons.mpr ⟨hc, ih (hp ▸ List.mem_cons_self)⟩
        · exact ih (hp ▸ List.mem_cons_of_mem p hrest)

theorem solid_of_mem_words (h : w ∈ words cs) : Solid w := by
  obtain ⟨hmem, hne⟩ := List.mem_filter.mp h
  exact ⟨by simpa using hne, not_blank_of_mem_pieces hmem⟩

/-! ## Joining words and taking them apart -/

theorem joinWords_cons_of_ne_nil (h : ws ≠ []) : joinWords (w :: ws) = w ++ ' ' :: joinWords ws := by
  cases ws with
  | nil => exact absurd rfl h
  | cons v vs => rfl

theorem joinWords_cons_char (c : Char) (w : List Char) (ws : List (List Char)) :
    joinWords ((c :: w) :: ws) = c :: joinWords (w :: ws) := by
  cases ws <;> rfl

theorem pieces_of_solid (h : Solid w) : pieces w = [w] := by
  obtain ⟨hne, hsolid⟩ := h
  induction w with
  | nil => exact absurd rfl hne
  | cons c w ih =>
    obtain ⟨hc, hw⟩ := List.forall_mem_cons.mp hsolid
    by_cases hnil : w = []
    · simp [hnil, pieces, hc]
    · simp [pieces, hc, ih hnil hw]

theorem words_of_solid (h : Solid w) : words w = [w] := by
  rw [words, pieces_of_solid h]
  simp [h.1]

/-- **The words of a joined text** are the words that were joined. -/
theorem words_joinWords (h : ∀ w ∈ ws, Solid w) : words (joinWords ws) = ws := by
  induction ws with
  | nil => rfl
  | cons w ws ih =>
    obtain ⟨hw, hws⟩ := List.forall_mem_cons.mp h
    by_cases hnil : ws = []
    · simpa [hnil, joinWords] using words_of_solid hw
    · rw [joinWords_cons_of_ne_nil hnil, words_append_blank (by decide), words_of_solid hw, ih hws]
      rfl

theorem joinWords_eq_nil_iff (h : ∀ w ∈ ws, Solid w) : joinWords ws = [] ↔ ws = [] := by
  constructor
  · intro hnil
    rw [← words_joinWords h, hnil, words_nil]
  · rintro rfl
    rfl

/-! ## Parts of a text -/

theorem prefix_joinWords_append (ws vs : List (List Char)) :
    joinWords ws <+: joinWords (ws ++ vs) := by
  induction ws with
  | nil => exact List.nil_prefix
  | cons w ws ih =>
    by_cases hnil : ws = []
    · subst hnil
      cases vs with
      | nil => exact List.prefix_refl _
      | cons v vs => exact List.prefix_append _ _
    · rw [List.cons_append, joinWords_cons_of_ne_nil hnil,
        joinWords_cons_of_ne_nil (List.append_ne_nil_of_left_ne_nil hnil vs)]
      exact (List.prefix_append_right_inj w).mpr ((List.prefix_cons_inj ' ').mpr ih)

/-- A last word may go on and others may follow. -/
theorem prefix_joinWords_longer (ws vs : List (List Char)) (w x : List Char) :
    joinWords (ws ++ [w]) <+: joinWords (ws ++ (w ++ x) :: vs) := by
  induction ws with
  | nil =>
    have hword : w <+: joinWords [w ++ x] := List.prefix_append w x
    exact hword.trans (prefix_joinWords_append [w ++ x] vs)
  | cons v ws ih =>
    rw [List.cons_append, List.cons_append, joinWords_cons_of_ne_nil (by simp),
      joinWords_cons_of_ne_nil (by simp)]
    exact (List.prefix_append_right_inj v).mpr ((List.prefix_cons_inj ' ').mpr ih)

/-- Where two texts meet, the last piece of the one and the first of the other are one piece. -/
theorem pieces_append {x : List Char} (hcs : pieces cs = ws ++ [w]) (hds : pieces ds = x :: vs) :
    pieces (cs ++ ds) = ws ++ (w ++ x) :: vs := by
  induction cs generalizing ws w with
  | nil =>
    obtain ⟨rfl, rfl⟩ : ws = [] ∧ w = [] := by
      cases ws <;> simp_all [pieces]
    simpa using hds
  | cons c cs ih =>
    rw [pieces] at hcs
    rw [List.cons_append, pieces]
    cases hc : isBlank c with
    | true =>
      rw [if_pos hc] at hcs
      rw [if_pos rfl]
      cases ws with
      | nil => exact absurd (List.cons.inj hcs).2 (pieces_ne_nil cs)
      | cons p ps =>
        obtain ⟨rfl, hrest⟩ := List.cons.inj hcs
        rw [ih hrest]
        rfl
    | false =>
      cases hp : pieces cs with
      | nil => exact absurd hp (pieces_ne_nil cs)
      | cons p ps =>
        simp only [hc, Bool.false_eq_true, if_false, hp] at hcs
        cases ws with
        | nil =>
          obtain ⟨rfl, rfl⟩ := List.cons.inj hcs
          have hlast : pieces cs = [] ++ [p] := hp
          simp [ih hlast]
        | cons q qs =>
          obtain ⟨rfl, rfl⟩ := List.cons.inj hcs
          have hrest : pieces cs = (p :: qs) ++ [w] := hp
          simp [ih hrest]

theorem prefix_joinWords_words (cs ds : List Char) :
    joinWords (words cs) <+: joinWords (words (cs ++ ds)) := by
  obtain ⟨ws, w, hcs⟩ : ∃ ws w, pieces cs = ws ++ [w] :=
    ⟨_, _, (List.dropLast_concat_getLast (pieces_ne_nil cs)).symm⟩
  obtain ⟨x, vs, hds⟩ := List.exists_cons_of_ne_nil (pieces_ne_nil ds)
  rw [words, words, pieces_append hcs hds, hcs, List.filter_append, List.filter_append]
  by_cases hw : w = []
  · simpa [hw] using prefix_joinWords_append _ _
  · simpa [hw] using prefix_joinWords_longer _ _ w x

theorem suffix_joinWords_words (cs ds : List Char) :
    joinWords (words ds) <:+ joinWords (words (cs ++ ds)) := by
  induction cs with
  | nil => exact List.suffix_refl _
  | cons c cs ih =>
    refine ih.trans ?_
    rw [List.cons_append]
    cases hc : isBlank c with
    | true => exact words_blank_cons hc (cs ++ ds) ▸ List.suffix_refl _
    | false =>
      cases hp : pieces (cs ++ ds) with
      | nil => exact absurd hp (pieces_ne_nil _)
      | cons p ps =>
        by_cases hnil : p = []
        · -- the character is a word of its own
          cases hps : ps.filter (fun w => !w.isEmpty) with
          | nil => simp [words, pieces, hc, hp, hnil, hps, joinWords]
          | cons v vs =>
            have hsuffix : joinWords (v :: vs) <:+ [c] ++ ' ' :: joinWords (v :: vs) :=
              (List.suffix_cons ' ' _).trans (List.suffix_append [c] _)
            simpa [words, pieces, hc, hp, hnil, hps, joinWords] using hsuffix
        · -- the first word begins with the character
          simp [words, pieces, hc, hp, hnil, joinWords_cons_char]

/-- **A part of a text**, joined from its words, is a part of the text joined from its words. -/
theorem infix_joinWords_words (h : cs <:+: ds) : joinWords (words cs) <:+: joinWords (words ds) := by
  obtain ⟨before, after, rfl⟩ := h
  exact (suffix_joinWords_words before cs).isInfix.trans
    (prefix_joinWords_words (before ++ cs) after).isInfix

/-! ## Blanks at the ends -/

theorem words_eq_nil_of_blank (h : ∀ c ∈ cs, isBlank c = true) : words cs = [] := by
  induction cs with
  | nil => rfl
  | cons c cs ih =>
    obtain ⟨hc, hcs⟩ := List.forall_mem_cons.mp h
    rw [words_blank_cons hc, ih hcs]

theorem words_append_blanks (h : ∀ c ∈ ds, isBlank c = true) : words (cs ++ ds) = words cs := by
  cases ds with
  | nil => rw [List.append_nil]
  | cons d ds =>
    obtain ⟨hd, hds⟩ := List.forall_mem_cons.mp h
    rw [words_append_blank hd, words_eq_nil_of_blank hds, List.append_nil]

theorem words_blanks_append (h : ∀ c ∈ cs, isBlank c = true) : words (cs ++ ds) = words ds := by
  induction cs with
  | nil => rfl
  | cons c cs ih =>
    obtain ⟨hc, hcs⟩ := List.forall_mem_cons.mp h
    rw [List.cons_append, words_blank_cons hc, ih hcs]

/-- Trimming takes off blanks. -/
theorem exists_eq_trimChars (cs : List Char) : ∃ before after, cs = before ++ trimChars cs ++ after ∧
    (∀ c ∈ before, isBlank c = true) ∧ ∀ c ∈ after, isBlank c = true := by
  refine ⟨cs.takeWhile isBlank, ((cs.dropWhile isBlank).reverse.takeWhile isBlank).reverse, ?_,
    fun c hc => List.mem_takeWhile_imp hc,
    fun c hc => List.mem_takeWhile_imp (List.mem_reverse.mp hc)⟩
  rw [trimChars, trimEnd, List.append_assoc, ← List.reverse_append, List.takeWhile_append_dropWhile,
    List.reverse_reverse, List.takeWhile_append_dropWhile]

/-! ## Trimmed texts -/

theorem trimEnd_eq_nil_iff {cs : List Char} : trimEnd cs = [] ↔ ∀ c ∈ cs, isBlank c = true := by
  simp [trimEnd, List.dropWhile_eq_nil_iff]

theorem trimChars_eq_nil_iff {cs : List Char} : trimChars cs = [] ↔ ∀ c ∈ cs, isBlank c = true := by
  rw [trimChars, trimEnd_eq_nil_iff]
  induction cs with
  | nil => simp
  | cons c cs ih =>
    by_cases hc : isBlank c = true
    · simp [hc, ih]
    · simp [hc]

/-- Trimming leaves nothing exactly of a text of blanks. -/
theorem trim_eq_empty_iff {s : String} : trim s = "" ↔ isAllBlank s = true := by
  rw [isAllBlank, List.all_eq_true, ← trimChars_eq_nil_iff, trim, ← String.toList_inj]
  simp

theorem trim_eq_self_iff {s : String} : trim s = s ↔ trimChars s.toList = s.toList := by
  rw [trim, ← String.toList_inj, String.toList_ofList]

/-- A text whose ends are not blank is trimmed. -/
theorem trimChars_of_ends (hhead : ∀ c ∈ cs.head?, isBlank c = false)
    (hlast : ∀ c ∈ cs.getLast?, isBlank c = false) : trimChars cs = cs := by
  have hkept (ds : List Char) (h : ∀ c ∈ ds.head?, isBlank c = false) : ds.dropWhile isBlank = ds := by
    cases ds with
    | nil => rfl
    | cons d ds => exact List.dropWhile_cons_of_neg (Bool.eq_false_iff.mp (h d rfl))
  have hreverse : ∀ c ∈ cs.reverse.head?, isBlank c = false := by
    rw [List.head?_reverse]
    exact hlast
  rw [trimChars, hkept cs hhead, trimEnd, hkept _ hreverse, List.reverse_reverse]

theorem not_blank_head_dropWhile (cs : List Char) :
    ∀ c ∈ (cs.dropWhile isBlank).head?, isBlank c = false := by
  intro c hc
  have hstop := List.head?_dropWhile_not isBlank cs
  rw [Option.mem_def.mp hc] at hstop
  exact hstop

theorem trimEnd_prefix (cs : List Char) : trimEnd cs <+: cs := by
  rw [← List.reverse_suffix, trimEnd, List.reverse_reverse]
  exact List.dropWhile_suffix isBlank

theorem not_blank_head_trimChars (cs : List Char) :
    ∀ c ∈ (trimChars cs).head?, isBlank c = false := by
  intro c hc
  obtain ⟨rest, hrest⟩ := trimEnd_prefix (cs.dropWhile isBlank)
  refine not_blank_head_dropWhile cs c ?_
  rw [← hrest, List.head?_append]
  exact Option.mem_def.mpr (by rw [← trimChars, Option.mem_def.mp hc]; rfl)

theorem not_blank_last_trimChars (cs : List Char) :
    ∀ c ∈ (trimChars cs).getLast?, isBlank c = false := by
  rw [trimChars, trimEnd, List.getLast?_reverse]
  exact not_blank_head_dropWhile _

/-- **Trimming twice** is trimming once. -/
theorem trimChars_trimChars (cs : List Char) : trimChars (trimChars cs) = trimChars cs :=
  trimChars_of_ends (not_blank_head_trimChars cs) (not_blank_last_trimChars cs)

/-- Blanks around a text do not change what is left of it. -/
theorem trimChars_blanks_append_blanks {before after : List Char}
    (hbefore : ∀ c ∈ before, isBlank c = true) (hafter : ∀ c ∈ after, isBlank c = true) :
    trimChars (before ++ cs ++ after) = trimChars cs := by
  have hend (ds : List Char) : trimEnd (ds ++ after) = trimEnd ds := by
    rw [trimEnd, trimEnd, List.reverse_append, List.dropWhile_append_of_pos]
    exact fun c hc => hafter c (List.mem_reverse.mp hc)
  rw [trimChars, List.append_assoc, List.dropWhile_append_of_pos hbefore, List.dropWhile_append,
    trimChars]
  split
  · next hnone =>
    rw [List.isEmpty_iff.mp hnone, ← List.append_nil (after.dropWhile isBlank),
      List.dropWhile_eq_nil_iff.mpr hafter]
    rfl
  · exact hend _

end Text
end Biblio
