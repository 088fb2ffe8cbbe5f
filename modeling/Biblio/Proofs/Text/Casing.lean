import Biblio.Proofs.Text.Words
import Biblio.Text.Key

/-!
# Blanks and lower case

Blanks have no case, and the rule for the sigma at the end of a word does not look past them.  So
nothing that a text says about case is lost when blanks are taken off its ends.

* `lower_append_blank` — lower case on the two sides of a blank is that of the two parts, so that it
  leaves the blanks at the ends as they are.
* `trimChars_lower` — trimming and lower case may change places, since what is not blank stays so.
* `infix_normalizeName_of_lower` — a text in which another one occurs in lower case, apart from blanks
  around it, contains it after normalisation too.
-/

set_option autoImplicit false

namespace Biblio
namespace Text

variable {before after cs bs : List Char}

/-! ## The case of blanks -/

/-- The characters of the property `White_Space`, one by one. -/
def blanks : List Char :=
  (List.range' 0x09 5 ++ [0x20, 0x85, 0xA0, 0x1680] ++ List.range' 0x2000 11 ++
    [0x2028, 0x2029, 0x202F, 0x205F, 0x3000]).map Char.ofNat

theorem mem_blanks {c : Char} (h : isBlank c = true) : c ∈ blanks := by
  refine List.mem_map.mpr ⟨c.toNat, ?_, Char.ofNat_toNat c⟩
  simp only [isBlank, Bool.or_eq_true, Bool.and_eq_true, decide_eq_true_eq, beq_iff_eq] at h
  simp only [List.mem_append, List.mem_range'_1, List.mem_cons, List.not_mem_nil, or_false]
  omega

/-- What the tables say of a blank: it is its own lower case, has no case, and is looked at by the
rule for the sigma. -/
def Caseless (c : Char) : Prop :=
  c ≠ 'Σ' ∧ lowerChar c = [c] ∧ isCased c = false ∧ isIgnorable c = false

instance (c : Char) : Decidable (Caseless c) := inferInstanceAs (Decidable (_ ∧ _))

theorem all_blanks_caseless : blanks.all (fun c => decide (Caseless c)) = true := by decide +kernel

theorem caseless_of_blank {c : Char} (h : isBlank c = true) : Caseless c :=
  of_decide_eq_true (List.all_eq_true.mp all_blanks_caseless c (mem_blanks h))

/-! ## Lower case between blanks -/

/-- The rule for the sigma does not look past a blank. -/
theorem reachesCased_append_blank {b : Char} (hb : isBlank b = true) (cs ds : List Char) :
    reachesCased (cs ++ b :: ds) = reachesCased cs := by
  obtain ⟨-, -, hcased, hignorable⟩ := caseless_of_blank hb
  induction cs with
  | nil => simp [reachesCased, hcased, hignorable]
  | cons c cs ih =>
    by_cases hc : isIgnorable c = true
    · simpa [reachesCased, hc] using ih
    · simp [reachesCased, hc]

theorem lowerAfter_before_blank {b : Char} (hb : isBlank b = true) (before ds cs : List Char) :
    lowerAfter (before ++ b :: ds) cs = lowerAfter before cs := by
  induction cs generalizing before with
  | nil => rfl
  | cons c cs ih =>
    rw [lowerAfter, lowerAfter, ← List.cons_append, ih, lowerSigma, lowerSigma,
      reachesCased_append_blank hb]

theorem lowerAfter_append_blank {b : Char} (hb : isBlank b = true) (before cs ds : List Char) :
    lowerAfter before (cs ++ b :: ds) = lowerAfter before cs ++ b :: lower ds := by
  induction cs generalizing before with
  | nil =>
    obtain ⟨hsigma, hlower, -, -⟩ := caseless_of_blank hb
    have hrest : lowerAfter (b :: before) ds = lower ds := lowerAfter_before_blank hb [] before ds
    simp only [List.nil_append, lowerAfter, if_neg hsigma, hlower, hrest, List.singleton_append]
  | cons c cs ih =>
    rw [List.cons_append, lowerAfter, lowerAfter, ih, lowerSigma, lowerSigma,
      reachesCased_append_blank hb, List.append_assoc]

/-- **A blank separates**: lower case on its two sides is that of the two parts. -/
theorem lower_append_blank {b : Char} (hb : isBlank b = true) (cs ds : List Char) :
    lower (cs ++ b :: ds) = lower cs ++ b :: lower ds := lowerAfter_append_blank hb [] cs ds

theorem lower_append_blanks (h : ∀ b ∈ bs, isBlank b = true) (cs : List Char) :
    lower (cs ++ bs) = lower cs ++ bs := by
  induction bs generalizing cs with
  | nil => rw [List.append_nil, List.append_nil]
  | cons b bs ih =>
    obtain ⟨hb, hbs⟩ := List.forall_mem_cons.mp h
    have hbs' : lower bs = bs := ih hbs []
    rw [lower_append_blank hb, hbs']

theorem lower_blanks_append (h : ∀ b ∈ bs, isBlank b = true) (cs : List Char) :
    lower (bs ++ cs) = bs ++ lower cs := by
  induction bs with
  | nil => rfl
  | cons b bs ih =>
    obtain ⟨hb, hbs⟩ := List.forall_mem_cons.mp h
    rw [List.cons_append, List.cons_append, ← ih hbs]
    exact lower_append_blank hb [] (bs ++ cs)

/-- Lower case leaves the blanks that trimming takes off. -/
theorem exists_lower_eq (cs : List Char) : ∃ before after, cs = before ++ trimChars cs ++ after ∧
    lower cs = before ++ lower (trimChars cs) ++ after ∧
    (∀ c ∈ before, isBlank c = true) ∧ ∀ c ∈ after, isBlank c = true := by
  obtain ⟨before, after, hcs, hbefore, hafter⟩ := exists_eq_trimChars cs
  refine ⟨before, after, hcs, (congrArg lower hcs).trans ?_, hbefore, hafter⟩
  rw [lower_append_blanks hafter, lower_blanks_append hbefore]

/-! ## Lower case of what is not blank -/

/-- What the tables make of a character that is no blank: something, and no blanks. -/
def Visible (ds : List Char) : Prop := ds ≠ [] ∧ ∀ d ∈ ds, isBlank d = false

theorem expansions_visible :
    lowerExpansions.all (fun e => e.2 ≠ [] ∧ (e.2.map Char.ofNat).all fun d => !isBlank d) = true := by
  decide +kernel

/-- No run of the table goes through a blank. -/
theorem shifts_past_blanks :
    (lowerShifts.all fun s => blanks.all fun b =>
      decide (b.toNat < s.target ∨ s.target + (s.last - s.first) < b.toNat)) = true := by
  decide +kernel

theorem toNat_ofNat_cases (n : Nat) : (Char.ofNat n).toNat = n ∨ Char.ofNat n = Char.ofNat 0 := by
  by_cases hn : n.isValidChar
  · left
    rw [Char.ofNat, dif_pos hn]
    rfl
  · right
    rw [Char.ofNat, dif_neg hn]
    rfl

theorem not_blank_shifted {c : Char} (hc : isBlank c = false) :
    isBlank (Char.ofNat (shifted lowerShifts c.toNat)) = false := by
  rw [shifted]
  cases hfound : lowerShifts.findSome? (fun s => s.image? c.toNat) with
  | none =>
    rw [Option.getD_none, Char.ofNat_toNat]
    exact hc
  | some n =>
    obtain ⟨s, hs, himage⟩ := List.exists_of_findSome?_eq_some hfound
    rw [Option.getD_some]
    by_contra hblank
    have hmem := mem_blanks (eq_true_of_ne_false hblank)
    have hpast := List.all_eq_true.mp (List.all_eq_true.mp shifts_past_blanks s hs) _ hmem
    rcases toNat_ofNat_cases n with hn | hzero
    · rw [Shift.image?] at himage
      split at himage
      · next hrange =>
        obtain rfl := Option.some.inj himage
        rw [hn, decide_eq_true_eq] at hpast
        omega
      · cases himage
    · rw [hzero] at hblank
      exact hblank (by decide)

theorem visible_lowerChar {c : Char} (hc : isBlank c = false) : Visible (lowerChar c) := by
  rw [lowerChar, mapped]
  split
  · next ns hfound =>
    obtain ⟨before, after, htable, -⟩ := List.lookup_eq_some_iff.mp hfound
    have hmem : (c.toNat, ns) ∈ lowerExpansions := by
      rw [htable]
      exact List.mem_append_right _ List.mem_cons_self
    have hentry := List.all_eq_true.mp expansions_visible _ hmem
    simp only [decide_eq_true_eq, List.all_eq_true, Bool.not_eq_true'] at hentry
    exact ⟨fun hnone => hentry.1 (List.map_eq_nil_iff.mp hnone), hentry.2⟩
  · exact ⟨List.cons_ne_nil _ _, List.forall_mem_singleton.mpr (not_blank_shifted hc)⟩

/-- What becomes of one character of a text. -/
theorem exists_lowerAfter_cons (before cs : List Char) (c : Char) :
    ∃ ds, lowerAfter before (c :: cs) = ds ++ lowerAfter (c :: before) cs ∧
      (isBlank c = true → ds = [c]) ∧ (isBlank c = false → Visible ds) := by
  refine ⟨_, rfl, fun hc => ?_, fun hc => ?_⟩
  · obtain ⟨hsigma, hlower, -, -⟩ := caseless_of_blank hc
    rw [if_neg hsigma, hlower]
  · split
    · refine ⟨List.cons_ne_nil _ _, List.forall_mem_singleton.mpr ?_⟩
      rw [lowerSigma]
      split <;> decide
    · exact visible_lowerChar hc

theorem not_blank_of_mem_lowerAfter (hcs : ∀ c ∈ cs, isBlank c = false) :
    ∀ d ∈ lowerAfter before cs, isBlank d = false := by
  induction cs generalizing before with
  | nil => exact List.forall_mem_nil _
  | cons c cs ih =>
    obtain ⟨hc, hcs⟩ := List.forall_mem_cons.mp hcs
    obtain ⟨ds, heq, -, hvisible⟩ := exists_lowerAfter_cons before cs c
    rw [heq]
    exact List.forall_mem_append.mpr ⟨(hvisible hc).2, ih hcs⟩

theorem not_blank_head_lowerAfter (hcs : ∀ c ∈ cs.head?, isBlank c = false) :
    ∀ d ∈ (lowerAfter before cs).head?, isBlank d = false := by
  cases cs with
  | nil => rintro d ⟨⟩
  | cons c cs =>
    obtain ⟨ds, heq, -, hvisible⟩ := exists_lowerAfter_cons before cs c
    obtain ⟨hne, hds⟩ := hvisible (hcs c rfl)
    obtain ⟨d, ds, rfl⟩ := List.exists_cons_of_ne_nil hne
    rw [heq]
    rintro d' ⟨⟩
    exact hds d List.mem_cons_self

theorem lowerAfter_ne_nil (h : cs ≠ []) : lowerAfter before cs ≠ [] := by
  obtain ⟨c, cs, rfl⟩ := List.exists_cons_of_ne_nil h
  obtain ⟨ds, heq, hblank, hvisible⟩ := exists_lowerAfter_cons before cs c
  have hne : ds ≠ [] := by
    cases hc : isBlank c with
    | true => exact hblank hc ▸ List.cons_ne_nil _ _
    | false => exact (hvisible hc).1
  rw [heq]
  exact fun hnil => hne (List.append_eq_nil_iff.mp hnil).1

theorem not_blank_last_lowerAfter (hcs : ∀ c ∈ cs.getLast?, isBlank c = false) :
    ∀ d ∈ (lowerAfter before cs).getLast?, isBlank d = false := by
  induction cs generalizing before with
  | nil => rintro d ⟨⟩
  | cons c cs ih =>
    obtain ⟨ds, heq, -, hvisible⟩ := exists_lowerAfter_cons before cs c
    rw [heq]
    cases cs with
    | nil =>
      intro d hd
      exact (hvisible (hcs c rfl)).2 d (List.mem_of_getLast? (by simpa [lowerAfter] using hd))
    | cons c' cs =>
      have hne : lowerAfter (c :: before) (c' :: cs) ≠ [] := lowerAfter_ne_nil (List.cons_ne_nil c' cs)
      have hlast := List.getLast?_eq_some_getLast hne
      rw [List.getLast?_append, hlast, Option.some_or, ← hlast]
      exact ih (by simpa using hcs)

/-- **Trimming and lower case may change places.** -/
theorem trimChars_lower (cs : List Char) : trimChars (lower cs) = lower (trimChars cs) := by
  obtain ⟨before, after, -, hlower, hbefore, hafter⟩ := exists_lower_eq cs
  rw [hlower, trimChars_blanks_append_blanks hbefore hafter]
  exact trimChars_of_ends (not_blank_head_lowerAfter (not_blank_head_trimChars cs))
    (not_blank_last_lowerAfter (not_blank_last_trimChars cs))

/-- Lower case tells a text with blanks at its ends from the trimmed one. -/
theorem lower_eq_lower_trimChars_iff : lower cs = lower (trimChars cs) ↔ trimChars cs = cs := by
  constructor
  · intro h
    obtain ⟨before, after, hcs, hlower, -, -⟩ := exists_lower_eq cs
    have hlength := congrArg List.length (hlower.symm.trans h)
    simp only [List.length_append] at hlength
    obtain rfl : before = [] := List.eq_nil_of_length_eq_zero (by omega)
    obtain rfl : after = [] := List.eq_nil_of_length_eq_zero (by omega)
    simpa using hcs.symm
  · intro h
    rw [h]

/-! ## Normalised texts -/

/-- A character that counts in a name. -/
def countsInName (c : Char) : Bool := c != '.' && c != ','

theorem normalizeName_eq (s : String) :
    normalizeName s = String.ofList (joinWords (words ((lower s.toList).filter countsInName))) := rfl

/-- Trimming a text does not change the words that are left of it after normalisation. -/
theorem words_filter_lower_trimChars (cs : List Char) :
    words ((lower (trimChars cs)).filter countsInName) = words ((lower cs).filter countsInName) := by
  obtain ⟨before, after, -, hlower, hbefore, hafter⟩ := exists_lower_eq cs
  rw [hlower, List.filter_append, List.filter_append,
    words_append_blanks fun c hc => hafter c ((List.mem_filter.mp hc).1),
    words_blanks_append fun c hc => hbefore c ((List.mem_filter.mp hc).1)]

/-- **Containment in lower case carries over to normalised texts.** -/
theorem infix_normalizeName_of_lower {s t : String}
    (h : lower (trimChars s.toList) <:+: lower t.toList) :
    (normalizeName s).toList <:+: (normalizeName t).toList := by
  rw [normalizeName_eq, normalizeName_eq, String.toList_ofList, String.toList_ofList,
    ← words_filter_lower_trimChars]
  exact infix_joinWords_words (h.filter countsInName)

end Text
end Biblio
