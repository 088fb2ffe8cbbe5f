import Biblio.Decimal.Digits
import Mathlib

/-!
# Digits that are read back

What `Decimal.padded` writes is what fixed-width fields are made of.  `length_padded`,
`isDigit_of_mem_padded` and `ofDigitsFrom_padded` say all that a reader of such a field needs: how
many characters there are, that all are digits, and what their value is.
-/

set_option autoImplicit false

namespace Biblio
namespace Decimal

/-! ## One digit -/

theorem isDigit_digitChar (d : Nat) : (digitChar d).isDigit = true := by
  have h : ∀ r < 10, (Char.ofNat (48 + r)).isDigit = true := by decide
  exact h _ (Nat.mod_lt d (by decide))

theorem digitValue_digitChar (d : Nat) : digitValue (digitChar d) = d % 10 := by
  have h : ∀ r < 10, digitValue (Char.ofNat (48 + r)) = r := by decide
  exact h _ (Nat.mod_lt d (by decide))

/-! ## Numbers -/

theorem isDigit_of_mem_digits {n : Nat} {c : Char} (h : c ∈ digits n) : c.isDigit = true := by
  induction n using digits.induct with
  | case1 n hlt =>
    rw [digits, if_pos hlt, List.mem_singleton] at h
    rw [h]
    exact isDigit_digitChar n
  | case2 n hge ih =>
    rw [digits, if_neg hge, List.mem_append, List.mem_singleton] at h
    rcases h with h | h
    · exact ih h
    · rw [h]
      exact isDigit_digitChar n

theorem ofDigitsFrom_digits (n : Nat) : ofDigitsFrom 0 (digits n) = n := by
  induction n using digits.induct with
  | case1 n hlt =>
    rw [digits, if_pos hlt, ofDigitsFrom, digitValue_digitChar, Nat.mod_eq_of_lt hlt]
    exact Nat.zero_add n
  | case2 n hge ih =>
    rw [digits, if_neg hge, ofDigitsFrom_snoc, ih, digitValue_digitChar]
    exact Nat.div_add_mod n 10

/-- A number below a power of ten has no more digits than its exponent. -/
theorem length_digits_le {n k : Nat} (hk : 0 < k) (h : n < 10 ^ k) : (digits n).length ≤ k := by
  induction k generalizing n with
  | zero => exact absurd hk (Nat.lt_irrefl 0)
  | succ k ih =>
    rw [digits]
    split
    · exact Nat.le_add_left 1 k
    · next hge =>
      rw [List.length_append, List.length_singleton]
      refine Nat.succ_le_succ (ih ?_ ?_)
      · rcases Nat.eq_zero_or_pos k with rfl | hk
        · exact absurd h hge
        · exact hk
      · rw [Nat.div_lt_iff_lt_mul (by decide), ← Nat.pow_succ]
        exact h

/-! ## Fixed width -/

theorem length_padded {width n : Nat} (hw : 0 < width) (h : n < 10 ^ width) :
    (padded width n).length = width := by
  rw [padded, List.length_append, List.length_replicate,
    Nat.sub_add_cancel (length_digits_le hw h)]

theorem le_length_padded (width n : Nat) : width ≤ (padded width n).length := by
  rw [padded, List.length_append, List.length_replicate]
  omega

theorem isDigit_of_mem_padded {width n : Nat} {c : Char} (h : c ∈ padded width n) :
    c.isDigit = true := by
  rw [padded, List.mem_append] at h
  rcases h with h | h
  · rw [List.eq_of_mem_replicate h]
    rfl
  · exact isDigit_of_mem_digits h

theorem ofDigitsFrom_zeros (k : Nat) (cs : List Char) :
    ofDigitsFrom 0 (List.replicate k '0' ++ cs) = ofDigitsFrom 0 cs := by
  induction k with
  | zero => rfl
  | succ k ih => exact ih

theorem ofDigitsFrom_padded (width n : Nat) : ofDigitsFrom 0 (padded width n) = n := by
  rw [padded, ofDigitsFrom_zeros, ofDigitsFrom_digits]

end Decimal
end Biblio
