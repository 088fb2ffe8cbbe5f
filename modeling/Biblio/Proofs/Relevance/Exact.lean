import Biblio.Relevance.Score
import Mathlib

/-!
# Scores in exact arithmetic

Doubles round, and a score that is a sum of rounded terms says little about the formula.  Here the
formulas run in an ordered field instead.

* `VotePoints` is the term that grows with the number of votes.  It takes a logarithm, which not every
  field has; all that matters of it is that it lies between nothing and its cap.
* `Exact` are the scores: the numbers of the field, and `⊥` for a rating of minus infinity, the one
  rating that no cap makes finite.  They are a `Scale`, so every formula has a meaning in them.
* `Exact.stars_nonneg` and `Exact.stars_cases` bound the points for an average rating.
-/

set_option autoImplicit false

namespace Biblio
namespace Relevance

variable {K : Type} [Field K] [LinearOrder K]

/-! ## Exact numbers -/

/-- The points for votes, of which only their bounds are known. -/
structure VotePoints (K : Type) [Field K] [LinearOrder K] where
  /-- The points for a number of votes. -/
  points : Nat → K
  /-- No number of votes costs points. -/
  nonneg : ∀ n, 0 ≤ points n
  /-- None earns more than the cap. -/
  le_cap : ∀ n, points n ≤ votesCap

/-- The points as they are meant: ten for each power of ten. -/
noncomputable def VotePoints.logarithm : VotePoints ℝ where
  points n := min (10 * Real.logb 10 (n + 1)) votesCap
  nonneg n := by
    have hlog : 0 ≤ Real.logb 10 (n + 1) := Real.logb_nonneg (by norm_num) (by simp)
    exact le_min (by positivity) (Nat.cast_nonneg _)
  le_cap n := min_le_right _ _

/-- A score without rounding: a number, or minus infinity. -/
def Exact (_v : VotePoints K) : Type := WithBot K

namespace Exact

variable {v : VotePoints K}

instance : LinearOrder (Exact v) := inferInstanceAs (LinearOrder (WithBot K))

instance : OrderBot (Exact v) := inferInstanceAs (OrderBot (WithBot K))

/-- A number as a score. -/
def of (x : K) : Exact v := (x : WithBot K)

/-- The points for an average rating.  The smaller of a rating that is not a number and the cap is the
cap. -/
def stars (x : Float32) : Exact v :=
  match x.toModel.unpack with
  | .finite sign mantissa exponent _ =>
    of (min (((sign.apply mantissa : ℤ) : K) * ((2 : Nat) : K) ^ exponent * (4 : Nat)) starsCap)
  | .zero _ => of 0
  | .infinity .negative => ⊥
  | .infinity .positive => of starsCap
  | .notANumber => of starsCap

instance : Scale (Exact v) where
  add := WithBot.map₂ (· + ·)
  sub := WithBot.map₂ (· - ·)
  mul := WithBot.map₂ (· * ·)
  ofNat n := of n
  ratio a b := of (a / b)
  votes n := of (v.points n)
  stars := stars
  higher x y := decide (y < x)

@[simp] theorem of_add_of (x y : K) : (of x + of y : Exact v) = of (x + y) := rfl

@[simp] theorem of_sub_of (x y : K) : (of x - of y : Exact v) = of (x - y) := rfl

@[simp] theorem of_mul_of (x y : K) : (of x * of y : Exact v) = of (x * y) := rfl

@[simp] theorem bot_add_of (x : K) : (⊥ + of x : Exact v) = ⊥ := rfl

@[simp] theorem of_add_bot (x : K) : (of x + ⊥ : Exact v) = ⊥ := rfl

@[simp] theorem bot_sub_of (x : K) : (⊥ - of x : Exact v) = ⊥ := rfl

@[simp] theorem ofNat_eq (n : Nat) : (Scale.ofNat n : Exact v) = of (n : K) := rfl

@[simp] theorem ratio_eq (a b : Nat) : (Scale.ratio a b : Exact v) = of ((a : K) / b) := rfl

@[simp] theorem of_lt_of {x y : K} : (of x : Exact v) < of y ↔ x < y := WithBot.coe_lt_coe

@[simp] theorem of_le_of {x y : K} : (of x : Exact v) ≤ of y ↔ x ≤ y := WithBot.coe_le_coe

@[simp] theorem of_inj {x y : K} : (of x : Exact v) = of y ↔ x = y := WithBot.coe_inj

theorem bot_lt_of (x : K) : (⊥ : Exact v) < of x := WithBot.bot_lt_coe x

/-- The higher of two numbers is their maximum. -/
theorem higherOf_of (x y : K) : higherOf (of x : Exact v) (of y) = of (max x y) := by
  by_cases h : x < y
  · simp [higherOf, Scale.higher, h, max_eq_right h.le]
  · simp [higherOf, Scale.higher, h, max_eq_left (not_lt.mp h)]

/-- What an average rating earns is at most the cap, unless it is minus infinity. -/
theorem stars_cases [IsStrictOrderedRing K] (x : Float32) :
    (stars x : Exact v) = ⊥ ∨ ∃ r : K, (stars x : Exact v) = of r ∧ r ≤ starsCap := by
  rw [stars]
  split
  · exact .inr ⟨_, rfl, min_le_right _ _⟩
  · exact .inr ⟨0, rfl, Nat.cast_nonneg _⟩
  · exact .inl rfl
  · exact .inr ⟨_, rfl, le_rfl⟩
  · exact .inr ⟨_, rfl, le_rfl⟩

/-- An average rating that is not negative earns at least nothing. -/
theorem stars_nonneg [IsStrictOrderedRing K] {x : Float32} (h : ¬ x < 0) :
    (of 0 : Exact v) ≤ stars x := by
  have hunpacked : ¬ x.toModel.unpack.lt (.zero .positive) = true := fun hlt => h (decide_eq_true hlt)
  have hcap : (0 : K) ≤ starsCap := Nat.cast_nonneg _
  rw [stars]
  split
  · next sign mantissa exponent hpos heq =>
    rw [heq] at hunpacked
    have hmantissa : 0 ≤ sign.apply mantissa := by
      cases sign with
      | negative => exact absurd rfl hunpacked
      | positive => exact Int.natCast_nonneg mantissa
    have hvalue : (0 : K) ≤ ((sign.apply mantissa : ℤ) : K) := Int.cast_nonneg hmantissa
    exact of_le_of.mpr (le_min (by positivity) hcap)
  · exact le_rfl
  · next heq =>
    rw [heq] at hunpacked
    exact absurd rfl hunpacked
  · exact of_le_of.mpr hcap
  · exact of_le_of.mpr hcap

end Exact

end Relevance
end Biblio
