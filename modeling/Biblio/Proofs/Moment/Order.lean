import Biblio.Moment.Basic
import Mathlib.Data.Prod.Lex
import Mathlib.Order.Lattice

/-!
# The order of moments

`Moment.precedes` compares seconds and then nanoseconds, so it is the strict part of a linear
order, and everything that Mathlib says about linear orders holds of moments.

* `lt_iff_precedes` is the link, and `later_eq_max` says that the later of two moments is their
  maximum.
* `Moment.Counted` are the moments that the library can stand for, leap seconds included, and
  `Moment.Shown` those of them that a clock shows.  `Shown.add` keeps a suspension among them.
-/

set_option autoImplicit false

namespace Biblio
namespace Moment

/-! ## A linear order -/

/-- The key by which moments are compared. -/
def orderKey (m : Moment) : ℤ ×ₗ ℕ := toLex (m.seconds, m.nanos)

theorem orderKey_injective : Function.Injective orderKey := by
  intro a b h
  have h := toLex_inj.mp h
  cases a
  cases b
  rw [Prod.mk.injEq] at h
  rw [Moment.mk.injEq]
  exact h

instance : LinearOrder Moment := LinearOrder.lift' orderKey orderKey_injective

theorem lt_iff {a b : Moment} :
    a < b ↔ a.seconds < b.seconds ∨ a.seconds = b.seconds ∧ a.nanos < b.nanos :=
  Prod.Lex.toLex_lt_toLex

/-- The order is the one that the library decides. -/
theorem lt_iff_precedes {a b : Moment} : a < b ↔ a.precedes b = true := by
  rw [lt_iff, precedes]
  simp

theorem later_eq_max (a b : Moment) : a.later b = max a b := by
  rw [later]
  split
  · next h => exact (max_eq_left (lt_iff_precedes.mpr h).le).symm
  · next h => exact (max_eq_right (not_lt.mp fun hba => h (lt_iff_precedes.mp hba))).symm

/-- The greatest of some moments and one more. -/
theorem max?_snoc (ms : List Moment) (m : Moment) :
    (ms ++ [m]).max? = some (match ms.max? with
      | some current => m.later current
      | none => m) := by
  cases ms with
  | nil => rfl
  | cons x xs =>
    rw [List.cons_append, List.max?_cons', List.max?_cons', List.foldl_append]
    simp only [List.foldl_cons, List.foldl_nil, later_eq_max, max_comm]

/-! ## Adding a span

Outside a leap second a sum is carried in nanoseconds; a leap second is left only by a span that
leads out of it, and then it counts as the second before. -/

theorem leaveLeap_eq_self {m : Moment} {d : Span}
    (h : m.nanos < Span.second ∨ m.nanos + d < 2 * Span.second) : m.leaveLeap d = m := by
  rw [leaveLeap, if_neg]
  rintro ⟨hn, hd⟩
  rcases h with h | h
  · exact absurd hn (not_le.mpr h)
  · exact absurd hd (not_le.mpr h)

theorem plus_of_ordinary {m : Moment} (h : m.nanos < Span.second) (d : Span) :
    m.plus d = ⟨m.seconds + ((m.nanos + d) / Span.second : Nat), (m.nanos + d) % Span.second⟩ := by
  simp only [plus, leaveLeap_eq_self (.inl h), if_neg (not_le.mpr h)]

theorem plus_of_leap_stays {m : Moment} {d : Span} (h : Span.second ≤ m.nanos)
    (hd : m.nanos + d < 2 * Span.second) : m.plus d = ⟨m.seconds, m.nanos + d⟩ := by
  simp only [plus, leaveLeap_eq_self (.inr hd), if_pos h]

theorem leaveLeap_of_left {m : Moment} {d : Span} (h : Span.second ≤ m.nanos)
    (hd : 2 * Span.second ≤ m.nanos + d) :
    m.leaveLeap d = ⟨m.seconds, m.nanos - Span.second⟩ := by
  have hleft : Span.second ≤ m.nanos ∧ 2 * Span.second ≤ m.nanos + d := And.intro h hd
  rw [leaveLeap, if_pos hleft]

theorem plus_of_leap_left {m : Moment} {d : Span} (h : Span.second ≤ m.nanos)
    (hn : m.nanos - Span.second < Span.second) (hd : 2 * Span.second ≤ m.nanos + d) :
    m.plus d = plus ⟨m.seconds, m.nanos - Span.second⟩ d := by
  have hn : (⟨m.seconds, m.nanos - Span.second⟩ : Moment).nanos < Span.second := hn
  rw [plus_of_ordinary hn]
  simp only [plus, leaveLeap_of_left h hd, if_neg (not_le.mpr hn)]

/-! ## Moments that can be counted -/

/-- What a moment is made of: an instant between the first and the last that are counted, with
nanoseconds beyond a second only in the last second of a minute. -/
structure Counted (m : Moment) : Prop where
  /-- Not before the first moment that is counted. -/
  earliest_le : earliest.seconds ≤ m.seconds
  /-- Not after the last second that is counted. -/
  le_latest : m.seconds ≤ latest.seconds
  /-- A leap second ends with its minute. -/
  nanos_lt : m.nanos < Span.second ∨ m.nanos < 2 * Span.second ∧ m.seconds % 60 = 59

/-- The moments that a clock shows: none of them is before 1970. -/
structure Shown (m : Moment) : Prop extends Counted m where
  /-- Clocks begin with 1970. -/
  since : 0 ≤ m.seconds

theorem earliest_neg : earliest.seconds < 0 := by decide

theorem Shown.of_ordinary {m : Moment} (h0 : 0 ≤ m.seconds) (hhi : m.seconds ≤ latest.seconds)
    (hn : m.nanos < Span.second) : m.Shown :=
  ⟨⟨earliest_neg.le.trans h0, hhi, .inl hn⟩, h0⟩

/-- What is added to a moment of 1970 or later is shown if its seconds are counted. -/
theorem Shown.plus {m : Moment} (h : m.Shown) {d : Span}
    (hhi : (m.plus d).seconds ≤ latest.seconds) : (m.plus d).Shown := by
  have hpos : 0 < Span.second := by decide
  -- outside a leap second the seconds only grow
  have hcarry : ∀ n : Nat, 0 ≤ m.seconds + ((n / Span.second : Nat) : Int) := fun n =>
    Int.add_nonneg h.since (Int.natCast_nonneg _)
  rcases Nat.lt_or_ge m.nanos Span.second with hn | hn
  · rw [plus_of_ordinary hn] at hhi ⊢
    exact .of_ordinary (hcarry _) hhi (Nat.mod_lt _ hpos)
  · obtain ⟨hlt, hminute⟩ := h.nanos_lt.resolve_left (not_lt.mpr hn)
    rcases Nat.lt_or_ge (m.nanos + d) (2 * Span.second) with hd | hd
    · rw [plus_of_leap_stays hn hd]
      exact ⟨⟨h.earliest_le, h.le_latest, .inr ⟨hd, hminute⟩⟩, h.since⟩
    · have hleft : (⟨m.seconds, m.nanos - Span.second⟩ : Moment).nanos < Span.second := by
        rw [Nat.two_mul] at hlt
        exact Nat.sub_lt_left_of_lt_add hn hlt
      rw [plus_of_leap_left hn hleft hd, plus_of_ordinary hleft] at hhi ⊢
      exact .of_ordinary (hcarry _) hhi (Nat.mod_lt _ hpos)

/-- **A suspension that begins at a moment that is shown ends at one.** -/
theorem Shown.add {m : Moment} (h : m.Shown) (d : Span) : (m.add d).Shown := by
  rw [Moment.add]
  split
  · exact .of_ordinary (by decide) (le_refl _) (by decide)
  · next hle => exact h.plus (not_lt.mp hle)

end Moment
end Biblio
