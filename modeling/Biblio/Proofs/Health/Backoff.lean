import Biblio.Health.Basic
import Mathlib

/-!
# The length of suspensions

A suspension doubles from one failure to the next.  Its length is computed with spans that are
split into seconds and nanoseconds, and in which the product of a span and a factor may not fit.

* `SplitSpan` is such a span; it stands for a number of nanoseconds, `SplitSpan.span`.
* `SplitSpan.times?` is the product, part by part.  It is exact if it fits (`span_of_times?`), and
  there is none exactly if it does not (`times?_eq_none_iff`).
* `Backoff.splitSpanFor` is the length of a suspension in this arithmetic.
* `doubling` — whatever the policy, this is the least of the doubled base and the greatest length,
  as if there were no greatest span.
-/

set_option autoImplicit false

namespace Biblio

/-- A span as whole seconds and the nanoseconds that are left. -/
structure SplitSpan where
  seconds : Nat
  nanos : Nat
  seconds_le : seconds ≤ Span.greatestSeconds
  nanos_lt : nanos < Span.second

namespace SplitSpan

variable {d e : SplitSpan} {n : Nat}

/-- The nanoseconds that a split span stands for. -/
def span (d : SplitSpan) : Span := d.seconds * Span.second + d.nanos

/-- No time at all. -/
def zero : SplitSpan := ⟨0, 0, Nat.zero_le _, by decide⟩

@[simp] theorem span_zero : zero.span = 0 := rfl

theorem span_le_greatest (d : SplitSpan) : d.span ≤ Span.greatest :=
  Nat.add_le_add (Nat.mul_le_mul_right _ d.seconds_le) (Nat.le_sub_one_of_lt d.nanos_lt)

/-! ## Products -/

/-- The product of a span and a factor: the nanoseconds carry into the seconds, and there is none
if the seconds do not fit before or after that. -/
def times? (d : SplitSpan) (n : Nat) : Option SplitSpan :=
  let nanos := d.nanos * n
  if d.seconds * n ≤ Span.greatestSeconds then
    if h : d.seconds * n + nanos / Span.second ≤ Span.greatestSeconds then
      some ⟨d.seconds * n + nanos / Span.second, nanos % Span.second, h, Nat.mod_lt _ (by decide)⟩
    else none
  else none

/-- The parts of an exact product. -/
theorem span_mul (d : SplitSpan) (n : Nat) : d.span * n =
    (d.seconds * n + d.nanos * n / Span.second) * Span.second + d.nanos * n % Span.second := by
  have hcarry := Nat.div_add_mod' (d.nanos * n) Span.second
  rw [span, Nat.add_mul, Nat.mul_right_comm, Nat.add_mul, Nat.add_assoc, hcarry]

/-- **A product that fits is exact.** -/
theorem span_of_times? (h : d.times? n = some e) : e.span = d.span * n := by
  rw [times?] at h
  split at h
  · split at h
    · obtain rfl := Option.some.inj h
      exact (span_mul d n).symm
    · exact nomatch h
  · exact nomatch h

/-- **There is no product exactly if it does not fit.** -/
theorem times?_eq_none_iff : d.times? n = none ↔ Span.greatest < d.span * n := by
  constructor
  · intro h
    have hseconds : Span.greatestSeconds < d.seconds * n + d.nanos * n / Span.second := by
      rw [times?] at h
      split at h
      · split at h
        · exact nomatch h
        · next hcarried => exact Nat.lt_of_not_le hcarried
      · next hbefore => exact Nat.lt_add_right _ (Nat.lt_of_not_le hbefore)
    calc Span.greatest
        < (Span.greatestSeconds + 1) * Span.second := by decide
      _ ≤ (d.seconds * n + d.nanos * n / Span.second) * Span.second :=
        Nat.mul_le_mul_right _ hseconds
      _ ≤ d.span * n := by
        rw [span_mul]
        exact Nat.le_add_right _ _
  · intro h
    cases hproduct : d.times? n with
    | none => rfl
    | some e =>
      have hfits := e.span_le_greatest
      rw [span_of_times? hproduct] at hfits
      exact absurd hfits (Nat.not_le_of_lt h)

/-! ## Comparison -/

/-- The shorter one of two spans: seconds decide before nanoseconds. -/
def shorter (d e : SplitSpan) : SplitSpan :=
  if d.seconds < e.seconds ∨ d.seconds = e.seconds ∧ d.nanos ≤ e.nanos then d else e

theorem span_le_iff : d.span ≤ e.span ↔
    d.seconds < e.seconds ∨ d.seconds = e.seconds ∧ d.nanos ≤ e.nanos := by
  have hd : d.nanos < 1000000000 := d.nanos_lt
  have he : e.nanos < 1000000000 := e.nanos_lt
  change d.seconds * 1000000000 + d.nanos ≤ e.seconds * 1000000000 + e.nanos ↔ _
  omega

theorem span_shorter (d e : SplitSpan) : (d.shorter e).span = min d.span e.span := by
  rw [shorter]
  split
  · next h => exact (min_eq_left (span_le_iff.mpr h)).symm
  · next h => exact (min_eq_right (Nat.le_of_not_le (mt span_le_iff.mp h))).symm

end SplitSpan

/-! ## The policy -/

namespace Backoff

/-- The policy with a first and a greatest length. -/
def ofSplit (base longest : SplitSpan) : Backoff := ⟨base.span, longest.span⟩

/-- The greatest factor in a product. -/
def greatestFactor : Nat := 4294967295

/-- The length of a suspension, computed with split spans.  The greatest length takes the place of a
product that does not fit. -/
def splitSpanFor (base longest : SplitSpan) (level : Nat) : SplitSpan :=
  if level = 0 then .zero
  else
    let factor := min (2 ^ min (level - 1) doublings) greatestFactor
    ((base.times? factor).getD longest).shorter longest

variable {b : Backoff} {level : Nat}

@[simp] theorem spanFor_zero (b : Backoff) : b.spanFor 0 = 0 := rfl

/-- A product that does not fit is longer than any greatest length. -/
theorem spanFor_eq_min (h : b.greatest ≤ Span.greatest) (hlevel : 1 ≤ level) :
    b.spanFor level = min (b.base * 2 ^ min (level - 1) doublings) b.greatest := by
  rw [spanFor, if_neg (Nat.one_le_iff_ne_zero.mp hlevel)]
  by_cases hfits : b.base * 2 ^ min (level - 1) doublings ≤ Span.greatest
  · exact if_pos hfits
  · exact (if_neg hfits).trans (min_eq_right (h.trans (Nat.le_of_not_le hfits))).symm

theorem spanFor_le (h : b.greatest ≤ Span.greatest) (level : Nat) :
    b.spanFor level ≤ b.greatest := by
  rcases Nat.eq_zero_or_pos level with rfl | hlevel
  · exact Nat.zero_le _
  · rw [spanFor_eq_min h hlevel]
    exact min_le_right _ _

theorem monotone_spanFor (h : b.greatest ≤ Span.greatest) : Monotone b.spanFor := by
  intro k level hle
  rcases Nat.eq_zero_or_pos k with rfl | hk
  · exact Nat.zero_le _
  · rw [spanFor_eq_min h hk, spanFor_eq_min h (hk.trans_le hle)]
    refine min_le_min_right _ (Nat.mul_le_mul_left _ (Nat.pow_le_pow_right (by decide) ?_))
    exact min_le_min_right _ (Nat.sub_le_sub_right hle 1)

/-- No factor is cut off: there are at most 31 doublings. -/
theorem factor_eq (level : Nat) :
    min (2 ^ min (level - 1) doublings) greatestFactor = 2 ^ min (level - 1) doublings := by
  refine min_eq_left (le_trans (Nat.pow_le_pow_right (by decide) (min_le_right _ _)) ?_)
  decide

/-- **The arithmetic of split spans is exact**, also where a product does not fit. -/
theorem span_splitSpanFor (base longest : SplitSpan) (level : Nat) :
    (splitSpanFor base longest level).span = (ofSplit base longest).spanFor level := by
  rcases Nat.eq_zero_or_pos level with rfl | hlevel
  · rw [splitSpanFor, if_pos rfl, SplitSpan.span_zero, spanFor_zero]
  · rw [spanFor_eq_min longest.span_le_greatest hlevel, splitSpanFor, factor_eq,
      if_neg (Nat.one_le_iff_ne_zero.mp hlevel), SplitSpan.span_shorter]
    cases hproduct : base.times? (2 ^ min (level - 1) doublings) with
    | some product =>
      rw [Option.getD_some, SplitSpan.span_of_times? hproduct]
      rfl
    | none =>
      have hlarge := SplitSpan.times?_eq_none_iff.mp hproduct
      have hle : longest.span ≤ base.span * 2 ^ min (level - 1) doublings :=
        longest.span_le_greatest.trans hlarge.le
      rw [Option.getD_none, min_self]
      exact (min_eq_right hle).symm

/-- Doubling goes on without an end exactly if the greatest length is reached within the doublings
that are counted, or if there is nothing to double. -/
theorem doubles_forever_iff (h : b.greatest ≤ Span.greatest) :
    (∀ level, 1 ≤ level → b.spanFor level = min (b.base * 2 ^ (level - 1)) b.greatest) ↔
      b.greatest ≤ b.base * 2 ^ doublings ∨ b.base = 0 := by
  constructor
  · intro hforever
    by_contra hshort
    obtain ⟨hlonger, hbase⟩ := not_or.mp hshort
    -- one level beyond those that are counted the base would be doubled once more
    have hsame : min (b.base * 2 ^ (doublings + 1)) b.greatest =
        min (b.base * 2 ^ doublings) b.greatest :=
      (hforever (doublings + 2) (by decide)).symm.trans (spanFor_eq_min h (by decide))
    have hpos : 0 < b.base * 2 ^ doublings :=
      Nat.mul_pos (Nat.pos_of_ne_zero hbase) (Nat.two_pow_pos _)
    have hmore : b.base * 2 ^ doublings < min (b.base * 2 ^ (doublings + 1)) b.greatest := by
      refine lt_min ?_ (Nat.lt_of_not_le hlonger)
      rw [Nat.pow_succ, ← Nat.mul_assoc, Nat.mul_two]
      exact Nat.lt_add_of_pos_right hpos
    rw [hsame] at hmore
    exact absurd hmore (not_lt.mpr (min_le_left _ _))
  · rintro hreached level hlevel
    rw [spanFor_eq_min h hlevel]
    rcases Nat.le_total (level - 1) doublings with hle | hge
    · rw [min_eq_left hle]
    · rw [min_eq_right hge]
      rcases hreached with hreached | hzero
      · have hgrows : b.base * 2 ^ doublings ≤ b.base * 2 ^ (level - 1) :=
          Nat.mul_le_mul_left _ (Nat.pow_le_pow_right (by decide) hge)
        rw [min_eq_right hreached, min_eq_right (hreached.trans hgrows)]
      · rw [hzero, Nat.zero_mul, Nat.zero_mul]

/-- What is promised of the policy with a first and a greatest length. -/
structure Doubling (base longest : SplitSpan) : Prop where
  /-- The base is doubled for every failure after the first, up to 31 times, as if all products
  fitted. -/
  spanFor_eq : ∀ level, 1 ≤ level → (ofSplit base longest).spanFor level =
    min (base.span * 2 ^ min (level - 1) 31) longest.span
  /-- So it is in the arithmetic of seconds and nanoseconds. -/
  split : ∀ level, (splitSpanFor base longest level).span = (ofSplit base longest).spanFor level
  spanFor_le : ∀ level, (ofSplit base longest).spanFor level ≤ longest.span
  monotone : Monotone (ofSplit base longest).spanFor
  /-- The number of doublings is noticed only if the greatest length is not reached within them. -/
  forever_iff : (∀ level, 1 ≤ level → (ofSplit base longest).spanFor level =
      min (base.span * 2 ^ (level - 1)) longest.span) ↔
    longest.span ≤ base.span * 2 ^ 31 ∨ base.span = 0

/-- **The length of suspensions**, to the nanosecond, for every policy. -/
theorem doubling (base longest : SplitSpan) : Doubling base longest where
  spanFor_eq _ hlevel := spanFor_eq_min longest.span_le_greatest hlevel
  split := span_splitSpanFor base longest
  spanFor_le := spanFor_le (b := ofSplit base longest) longest.span_le_greatest
  monotone := monotone_spanFor (b := ofSplit base longest) longest.span_le_greatest
  forever_iff := doubles_forever_iff (b := ofSplit base longest) longest.span_le_greatest

/-- The greatest span, doubled, does not fit. -/
example : (ofSplit ⟨Span.greatestSeconds, 999999999, by decide, by decide⟩
    ⟨Span.greatestSeconds, 999999999, by decide, by decide⟩).spanFor 2 = Span.greatest := by decide

end Backoff
end Biblio
