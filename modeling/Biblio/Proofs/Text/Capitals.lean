import Biblio.Text.Blank
import Mathlib

/-!
# Capital and small letters of ASCII

The letters of ASCII are two runs of codes, and a capital is thirty-two before its small letter.
There are no blanks and no digits among them.

* `isUpper_iff_toNat` and `isLower_iff_toNat` — the two runs.
* `toNat_toLower` and `toNat_toUpper` — from the one to the other, and `toUpper_eq_iff` back.
* `class_alike` — a class without letters says the same of both; blanks and digits are such classes.
-/

set_option autoImplicit false

namespace Biblio
namespace Text

variable {c : Char}

theorem isUpper_iff_toNat : c.isUpper = true ↔ 65 ≤ c.toNat ∧ c.toNat ≤ 90 := by
  simp [Char.isUpper, UInt32.le_iff_toNat_le]

theorem isLower_iff_toNat : c.isLower = true ↔ 97 ≤ c.toNat ∧ c.toNat ≤ 122 := by
  simp [Char.isLower, UInt32.le_iff_toNat_le]

theorem isDigit_iff_toNat : c.isDigit = true ↔ 48 ≤ c.toNat ∧ c.toNat ≤ 57 := by
  simp [Char.isDigit, UInt32.le_iff_toNat_le]

theorem toNat_ofNat_of_ascii {n : Nat} (h : n < 128) : (Char.ofNat n).toNat = n := by
  have hvalid : n.isValidChar := .inl (by omega)
  rw [Char.ofNat, dif_pos hvalid]
  rfl

theorem toNat_toLower (h : c.isUpper = true) : c.toLower.toNat = c.toNat + 32 := by
  obtain ⟨-, hle⟩ := isUpper_iff_toNat.mp h
  rw [Char.toLower_eq_of_isUpper h, toNat_ofNat_of_ascii (by omega)]

theorem toNat_toUpper (h : c.isLower = true) : c.toUpper.toNat = c.toNat - 32 := by
  obtain ⟨-, hle⟩ := isLower_iff_toNat.mp h
  rw [Char.toUpper_eq_of_isLower h, toNat_ofNat_of_ascii (by omega)]

/-- A character that is no small letter is the capital of itself, and of its small letter if it has
one. -/
theorem toUpper_eq_iff {d : Char} (hd : d.isLower = false) :
    c.toUpper = d ↔ c = d ∨ c = d.toLower := by
  have hkept : d.toUpper = d := Char.toUpper_eq_of_not_isLower (Bool.eq_false_iff.mp hd)
  constructor
  · rintro rfl
    by_cases h : c.isLower = true
    · have hupper : ¬ c.isUpper = true := by
        rw [isUpper_iff_toNat]
        obtain ⟨hge, -⟩ := isLower_iff_toNat.mp h
        omega
      rw [Char.toLower_toUpper_eq_toLower, Char.toLower_eq_of_not_isUpper hupper]
      exact .inr rfl
    · exact .inl (Char.toUpper_eq_of_not_isLower h).symm
  · rintro (rfl | rfl)
    · exact hkept
    · rw [Char.toUpper_toLower_eq_toUpper, hkept]

/-- There is no blank among the letters. -/
theorem not_blank_of_toNat (hge : 65 ≤ c.toNat) (hle : c.toNat ≤ 122) : isBlank c = false := by
  simp only [isBlank, Bool.or_eq_false_iff, Bool.and_eq_false_iff, decide_eq_false_iff_not,
    beq_eq_false_iff_ne]
  omega

/-- A class of characters without letters does not tell a letter from its capital. -/
theorem class_alike {f : Char → Bool}
    (hf : ∀ d : Char, 65 ≤ d.toNat → d.toNat ≤ 122 → f d = false) (c : Char) :
    f c.toLower = f c ∧ f c.toUpper = f c := by
  constructor
  · by_cases h : c.isUpper = true
    · obtain ⟨hge, hle⟩ := isUpper_iff_toNat.mp h
      have hlower := toNat_toLower h
      rw [hf c hge (by omega), hf c.toLower (by omega) (by omega)]
    · rw [Char.toLower_eq_of_not_isUpper h]
  · by_cases h : c.isLower = true
    · obtain ⟨hge, hle⟩ := isLower_iff_toNat.mp h
      have hupper := toNat_toUpper h
      rw [hf c (by omega) hle, hf c.toUpper (by omega) (by omega)]
    · rw [Char.toUpper_eq_of_not_isLower h]

@[simp] theorem isBlank_toLower (c : Char) : isBlank c.toLower = isBlank c :=
  (class_alike (fun _ => not_blank_of_toNat) c).1

@[simp] theorem isBlank_toUpper (c : Char) : isBlank c.toUpper = isBlank c :=
  (class_alike (fun _ => not_blank_of_toNat) c).2

@[simp] theorem isDigit_toUpper (c : Char) : c.toUpper.isDigit = c.isDigit := by
  refine (class_alike (fun d hge _ => ?_) c).2
  rw [Bool.eq_false_iff, Ne, isDigit_iff_toNat]
  omega

end Text
end Biblio
