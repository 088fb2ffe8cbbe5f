import Biblio.Proofs.Text.Capitals
import Biblio.Proofs.Text.Words
import Biblio.Text.Key

/-!
# Spellings of product numbers

A product number may be written with hyphens and blanks anywhere, and its check letter in either
case.  The key is the spelling without any of this.

* `PlainNumber` is a number without hyphens and blanks and with a capital check letter.
* `isbnKey_isbnKey` — the key of a key is the key itself.
* `looksLikeIsbn_iff` — a text has the shape of a number exactly if its key is a plain number; so
  texts with one key have it together (`looksLikeIsbn_congr`).
-/

set_option autoImplicit false

namespace Biblio
namespace Text

variable {c : Char} {cs : List Char} {s t : String}

/-! ## Capitals -/

theorem toUpper_eq_hyphen_iff : c.toUpper = '-' ↔ c = '-' :=
  (toUpper_eq_iff rfl).trans (or_self_iff)

theorem toUpper_eq_X_iff : c.toUpper = 'X' ↔ c = 'X' ∨ c = 'x' := toUpper_eq_iff rfl

theorem countsInNumber_toUpper (c : Char) : countsInNumber c.toUpper = countsInNumber c := by
  have hhyphen : (c.toUpper != '-') = (c != '-') := by
    rw [Bool.eq_iff_iff, bne_iff_ne, bne_iff_ne, Ne, toUpper_eq_hyphen_iff]
  rw [countsInNumber, countsInNumber, hhyphen, isBlank_toUpper]

/-! ## Keys -/

theorem toList_isbnKey (s : String) :
    (isbnKey s).toList = (s.toList.filter countsInNumber).map Char.toUpper := String.toList_ofList

/-- All characters of a key count. -/
theorem countsInNumber_of_mem_isbnKey (h : c ∈ (isbnKey s).toList) : countsInNumber c = true := by
  rw [toList_isbnKey] at h
  obtain ⟨d, hd, rfl⟩ := List.mem_map.mp h
  rw [countsInNumber_toUpper]
  exact (List.mem_filter.mp hd).2

/-- **A key is its own key.** -/
theorem isbnKey_isbnKey (s : String) : isbnKey (isbnKey s) = isbnKey s := by
  have hall : (isbnKey s).toList.filter countsInNumber = (isbnKey s).toList :=
    List.filter_eq_self.mpr fun c hc => countsInNumber_of_mem_isbnKey hc
  rw [← String.toList_inj, toList_isbnKey, hall, toList_isbnKey, List.map_map]
  exact List.map_congr_left fun c _ => Char.toUpper_toUpper_eq_toUpper c

/-- Blanks at the ends are not in the key. -/
theorem isbnKey_trim (s : String) : isbnKey (trim s) = isbnKey s := by
  obtain ⟨before, after, hs, hbefore, hafter⟩ := exists_eq_trimChars s.toList
  have hnone {bs : List Char} (h : ∀ b ∈ bs, isBlank b = true) : bs.filter countsInNumber = [] := by
    refine List.filter_eq_nil_iff.mpr fun b hb => ?_
    simp [countsInNumber, h b hb]
  rw [← String.toList_inj, toList_isbnKey, toList_isbnKey, trim, String.toList_ofList]
  conv_rhs => rw [hs, List.filter_append, List.filter_append, hnone hbefore, hnone hafter]
  rw [List.nil_append, List.append_nil]

/-! ## Shapes -/

/-- Thirteen digits, or nine digits and a check digit, which may be an `X`. -/
def PlainNumber (cs : List Char) : Prop :=
  (cs.length = 13 ∧ ∀ c ∈ cs, c.isDigit = true) ∨
    ∃ ds c, cs = ds ++ [c] ∧ ds.length = 9 ∧ (∀ d ∈ ds, d.isDigit = true) ∧
      (c.isDigit = true ∨ c = 'X')

/-- The short form, with a check letter in either case. -/
theorem isIsbnShape_ten (h : cs.length = 10) : isIsbnShape cs = true ↔
    ∃ ds c, cs = ds ++ [c] ∧ ds.length = 9 ∧ (∀ d ∈ ds, d.isDigit = true) ∧
      (c.isDigit = true ∨ c = 'X' ∨ c = 'x') := by
  have hshape : isIsbnShape cs = ((cs.take 9).all Char.isDigit &&
      (cs.drop 9).all fun c => c.isDigit || c == 'X' || c == 'x') := by
    rw [isIsbnShape, h]
    rfl
  rw [hshape, Bool.and_eq_true, List.all_eq_true, List.all_eq_true]
  constructor
  · rintro ⟨hdigits, hcheck⟩
    obtain ⟨c, hc⟩ : ∃ c, cs.drop 9 = [c] := List.length_eq_one_iff.mp (by rw [List.length_drop, h])
    refine ⟨cs.take 9, c, ?_, by rw [List.length_take, h]; rfl, hdigits, ?_⟩
    · rw [← hc, List.take_append_drop]
    · simpa [or_assoc] using hcheck c (hc ▸ List.mem_singleton_self c)
  · rintro ⟨ds, c, rfl, hlength, hdigits, hcheck⟩
    rw [List.take_left' hlength, List.drop_left' hlength, List.forall_mem_singleton]
    exact ⟨hdigits, by simpa [or_assoc] using hcheck⟩

theorem isIsbnShape_iff : isIsbnShape cs = true ↔ PlainNumber (cs.map Char.toUpper) := by
  have hdigits {ds : List Char} : (∀ d ∈ ds.map Char.toUpper, d.isDigit = true) ↔
      ∀ d ∈ ds, d.isDigit = true := by
    simp only [List.forall_mem_map, isDigit_toUpper]
  rw [PlainNumber, List.length_map, hdigits]
  constructor
  · intro h
    by_cases hlong : cs.length = 13
    · rw [isIsbnShape, hlong] at h
      exact .inl ⟨hlong, List.all_eq_true.mp h⟩
    · by_cases hten : cs.length = 10
      · obtain ⟨ds, c, rfl, hlength, hds, hcheck⟩ := (isIsbnShape_ten hten).mp h
        refine .inr ⟨ds.map Char.toUpper, c.toUpper, List.map_append, ?_, hdigits.mpr hds, ?_⟩
        · rw [List.length_map, hlength]
        · rw [isDigit_toUpper, toUpper_eq_X_iff]
          exact hcheck
      · rw [isIsbnShape] at h
        split at h
        · next heq => exact absurd heq hlong
        · next heq => exact absurd heq hten
        · exact nomatch h
  · rintro (⟨hlong, hall⟩ | ⟨ds, c, hcs, hlength, hds, hcheck⟩)
    · rw [isIsbnShape, hlong]
      exact List.all_eq_true.mpr hall
    · obtain ⟨es, fs, rfl, rfl, hfs⟩ := List.map_eq_append_iff.mp hcs
      obtain ⟨e, rfl, rfl⟩ := List.map_eq_singleton_iff.mp hfs
      rw [isDigit_toUpper, toUpper_eq_X_iff] at hcheck
      rw [List.length_map] at hlength
      refine (isIsbnShape_ten (by rw [List.length_append, hlength]; rfl)).mpr ?_
      exact ⟨es, e, rfl, hlength, hdigits.mp hds, hcheck⟩

/-- **A text has the shape of a number** exactly if its key is one. -/
theorem looksLikeIsbn_iff : looksLikeIsbn s = true ↔ PlainNumber (isbnKey s).toList := by
  rw [looksLikeIsbn, isIsbnShape_iff, toList_isbnKey]

theorem looksLikeIsbn_congr (h : isbnKey s = isbnKey t) : looksLikeIsbn s = looksLikeIsbn t := by
  rw [Bool.eq_iff_iff, looksLikeIsbn_iff, looksLikeIsbn_iff, h]

/-- A plain number has only digits and a capital `X`. -/
theorem PlainNumber.digit_or_X (h : PlainNumber cs) : ∀ c ∈ cs, c.isDigit = true ∨ c = 'X' := by
  rcases h with ⟨-, hall⟩ | ⟨ds, c, rfl, -, hds, hcheck⟩
  · exact fun c hc => .inl (hall c hc)
  · intro d hd
    rcases List.mem_append.mp hd with hmem | hlast
    · exact .inl (hds d hmem)
    · exact List.mem_singleton.mp hlast ▸ hcheck

end Text
end Biblio
