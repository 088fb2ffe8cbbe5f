import Biblio.Proofs.Text.Capitals
import Biblio.Proofs.Text.Casing

/-!
# What lower case leaves

Lower case maps no character to one that it would change again, and the capitals of ASCII are no
exception to what it does with small letters.

* `Settled` characters are in none of the tables.  Those of a text in lower case are
  (`settled_of_mem_lowerAfter`), so that such a text and the parts of it are in lower case
  already (`lower_of_settled`).
* `lower_map_toLower` — a text has the lower case that it has with small letters in place of the
  capitals of ASCII. Also the rule for the sigma takes the two alike.
-/

set_option autoImplicit false

namespace Biblio
namespace Text

variable {c d : Char} {cs before : List Char}

/-! ## Settled characters -/

/-- A character that the tables do not change. -/
def Settled (d : Char) : Prop :=
  lowerExpansions.lookup d.toNat = none ∧ lowerShifts.findSome? (fun s => s.image? d.toNat) = none

instance (d : Char) : Decidable (Settled d) := inferInstanceAs (Decidable (_ ∧ _))

theorem Settled.lowerChar_eq (h : Settled d) : lowerChar d = [d] := by
  simp only [lowerChar, mapped, h.1, shifted, h.2, Option.getD_none, Char.ofNat_toNat]

theorem Settled.ne_sigma (h : Settled d) : d ≠ 'Σ' := by
  rintro rfl
  exact absurd h (by decide +kernel)

/-! ## The runs -/

namespace Shift

/-- The characters that a run leads to are not in another one: the two lie apart, or between each
other. -/
def misses (s t : Shift) : Bool :=
  Nat.blt (s.target + (s.last - s.first)) t.first || Nat.blt t.last s.target ||
    (t.step == 2 && (s.step == 2 || s.first == s.last) && (s.target + t.first) % 2 == 1)

theorem image?_of_misses {s t : Shift} {n m : Nat} (h : s.misses t = true)
    (himage : s.image? n = some m) : t.image? m = none := by
  rw [image?] at himage
  split at himage
  · next hrange =>
    obtain rfl := Option.some.inj himage
    refine if_neg fun hin => ?_
    simp only [misses, Bool.or_eq_true, Bool.and_eq_true, Nat.blt_eq, beq_iff_eq] at h
    obtain ⟨hfirst, hlast, hstep⟩ := hrange
    obtain ⟨hfirst', hlast', hstep'⟩ := hin
    rcases h with (hbelow | habove) | ⟨⟨htwo, hthin⟩, hodd⟩
    · omega
    · omega
    · rw [htwo] at hstep'
      rcases hthin with htwo' | hone
      · rw [htwo'] at hstep
        omega
      · omega
  · cases himage

end Shift

theorem lowerShifts_miss :
    (lowerShifts.all fun s => lowerShifts.all fun t => s.misses t) = true := by
  decide +kernel

theorem lowerShifts_miss_expansions : (lowerShifts.all fun s => lowerExpansions.all fun e =>
    s.misses ⟨e.1, e.1, 1, 0⟩) = true := by
  decide +kernel

theorem expansions_settled :
    (lowerExpansions.all fun e => e.2.all fun n => decide (Settled (Char.ofNat n))) = true := by
  decide +kernel

theorem settled_ofNat {n : Nat} (hexpansions : lowerExpansions.lookup n = none)
    (hshifts : lowerShifts.findSome? (fun s => s.image? n) = none) : Settled (Char.ofNat n) := by
  rcases toNat_ofNat_cases n with hn | hzero
  · rw [Settled, hn]
    exact ⟨hexpansions, hshifts⟩
  · rw [hzero]
    decide +kernel

/-- **No run leads into a table.** -/
theorem settled_image {s : Shift} (hs : s ∈ lowerShifts) {n m : Nat}
    (himage : s.image? n = some m) : Settled (Char.ofNat m) := by
  refine settled_ofNat ?_ ?_
  · refine List.lookup_eq_none_iff.mpr fun e he => ?_
    have hmisses := List.all_eq_true.mp (List.all_eq_true.mp lowerShifts_miss_expansions s hs) e he
    have hnone := Shift.image?_of_misses hmisses himage
    rw [bne_iff_ne]
    rintro rfl
    simp [Shift.image?] at hnone
  · refine List.findSome?_eq_none_iff.mpr fun t ht => ?_
    have hmisses := List.all_eq_true.mp (List.all_eq_true.mp lowerShifts_miss s hs) t ht
    exact Shift.image?_of_misses hmisses himage

theorem settled_of_mem_lowerChar (h : d ∈ lowerChar c) : Settled d := by
  rw [lowerChar, mapped] at h
  split at h
  · next ns hfound =>
    obtain ⟨before, after, htable, -⟩ := List.lookup_eq_some_iff.mp hfound
    have hmem : (c.toNat, ns) ∈ lowerExpansions := by
      rw [htable]
      exact List.mem_append_right _ List.mem_cons_self
    obtain ⟨n, hn, rfl⟩ := List.mem_map.mp h
    have hall := List.all_eq_true.mp expansions_settled _ hmem
    exact of_decide_eq_true (List.all_eq_true.mp hall n hn)
  · next hnone =>
    rw [List.mem_singleton.mp h, shifted]
    cases hfound : lowerShifts.findSome? (fun s => s.image? c.toNat) with
    | none =>
      rw [Option.getD_none, Char.ofNat_toNat]
      exact ⟨hnone, hfound⟩
    | some m =>
      obtain ⟨s, hs, himage⟩ := List.exists_of_findSome?_eq_some hfound
      exact settled_image hs himage

/-! ## Lower case of lower case -/

theorem settled_of_mem_lowerAfter (h : d ∈ lowerAfter before cs) : Settled d := by
  induction cs generalizing before with
  | nil => exact nomatch h
  | cons c cs ih =>
    rcases List.mem_append.mp h with hfirst | hrest
    · split at hfirst
      · rw [List.mem_singleton.mp hfirst, lowerSigma]
        split <;> decide +kernel
      · exact settled_of_mem_lowerChar hfirst
    · exact ih hrest

theorem lower_of_settled (h : ∀ c ∈ cs, Settled c) : lower cs = cs := by
  have hafter (before : List Char) : lowerAfter before cs = cs := by
    induction cs generalizing before with
    | nil => rfl
    | cons c cs ih =>
      obtain ⟨hc, hcs⟩ := List.forall_mem_cons.mp h
      rw [lowerAfter, if_neg hc.ne_sigma, hc.lowerChar_eq, ih hcs]
      rfl
  exact hafter []

/-! ## Capitals of ASCII -/

/-- The tables say the same of two characters. -/
def SameCase (c d : Char) : Prop :=
  lowerChar c = lowerChar d ∧ isCased c = isCased d ∧ isIgnorable c = isIgnorable d ∧
    (c = 'Σ' ↔ d = 'Σ')

instance (c d : Char) : Decidable (SameCase c d) := inferInstanceAs (Decidable (_ ∧ _))

theorem capitals_sameCase : ((List.range' 65 26).all fun n =>
    decide (SameCase (Char.ofNat n).toLower (Char.ofNat n))) = true := by
  decide +kernel

theorem sameCase_toLower (c : Char) : SameCase c.toLower c := by
  by_cases h : c.isUpper = true
  · obtain ⟨hge, hle⟩ := isUpper_iff_toNat.mp h
    have hmem : c.toNat ∈ List.range' 65 26 := List.mem_range'_1.mpr ⟨hge, by omega⟩
    have hsame := of_decide_eq_true (List.all_eq_true.mp capitals_sameCase _ hmem)
    rwa [Char.ofNat_toNat] at hsame
  · rw [Char.toLower_eq_of_not_isUpper h]
    exact ⟨rfl, rfl, rfl, Iff.rfl⟩

theorem reachesCased_map_toLower (cs : List Char) :
    reachesCased (cs.map Char.toLower) = reachesCased cs := by
  induction cs with
  | nil => rfl
  | cons c cs ih =>
    obtain ⟨-, hcased, hignorable, -⟩ := sameCase_toLower c
    by_cases hc : isIgnorable c = true
    · simpa [reachesCased, hignorable, hc] using ih
    · simp [reachesCased, hcased, hignorable, hc]

theorem lowerAfter_map_toLower (before cs : List Char) :
    lowerAfter (before.map Char.toLower) (cs.map Char.toLower) = lowerAfter before cs := by
  induction cs generalizing before with
  | nil => rfl
  | cons c cs ih =>
    obtain ⟨hlower, -, -, hsigma⟩ := sameCase_toLower c
    have hsame : lowerSigma (before.map Char.toLower) (cs.map Char.toLower) =
        lowerSigma before cs := by
      rw [lowerSigma, lowerSigma, reachesCased_map_toLower, reachesCased_map_toLower]
    rw [List.map_cons, lowerAfter, lowerAfter, ← List.map_cons, ih, hlower, hsame]
    simp only [hsigma]

/-- **The capitals of ASCII** have the lower case of their small letters. -/
theorem lower_map_toLower (cs : List Char) : lower (cs.map Char.toLower) = lower cs :=
  lowerAfter_map_toLower [] cs

end Text
end Biblio
