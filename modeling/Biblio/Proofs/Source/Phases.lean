import Biblio.Source.Activity
import Mathlib

/-!
# The phases of a call

While time passes a call is active, or it is held back by at least one rate limit.

* `Activity.phases` are the stretches of a call that runs to its end, and `Activity.instant_run` says
  that the call takes as long as they do.
* `Phase.activeTime` is the active time of the whole call, and `Phase.activeWithin` that of its
  beginning.
* `Phase.heldBefore` is the time that a call is held back before it has been active for a span.
  `Phase.activeWithin_of_le` and `Phase.activeWithin_lt` say that with this time added the span is used
  up, and not before.
-/

set_option autoImplicit false

namespace Biblio

/-- A stretch of a call. -/
structure Phase where
  /-- At least one rate limit holds the call back. -/
  held : Bool
  span : Span
  deriving DecidableEq, Repr

namespace Activity

variable {W α : Type}

/-- The phases of a call, of which some waits are already in progress. -/
def phases (waits : Nat) (now : Instant) (w : W) : Activity W α → List Phase
  | .done _ => []
  | .look next => phases waits now w (next now w)
  | .change f next => phases waits now (f w) next
  | .hold next => phases (waits + 1) now w next
  | .release next => phases (waits - 1) now w next
  | .wait span next => ⟨0 < waits, span⟩ :: phases waits (now + span) w next

/-- A call takes as long as its phases do. -/
theorem instant_run (call : Activity W α) (waits : Nat) (now : Instant) (w : W) :
    (call.run now w).2.1 = now + ((call.phases waits now w).map Phase.span).sum := by
  induction call generalizing waits now w with
  | done a => rfl
  | look next ih => exact ih now w waits now w
  | change f next ih => exact ih waits now (f w)
  | hold next ih => exact ih (waits + 1) now w
  | release next ih => exact ih (waits - 1) now w
  | wait span next ih =>
    rw [phases, List.map_cons, List.sum_cons, ← Nat.add_assoc]
    exact ih waits (now + span) w

/-- No time is taken back. -/
theorem le_run (call : Activity W α) (now : Instant) (w : W) : now ≤ (call.run now w).2.1 := by
  rw [call.instant_run 0]
  exact Nat.le_add_right _ _

end Activity

namespace Phase

/-- The active time of a call. -/
def activeTime : List Phase → Span
  | [] => 0
  | phase :: later => (if phase.held then 0 else phase.span) + activeTime later

/-- Its active time within a span from its beginning. -/
def activeWithin : List Phase → Span → Span
  | [], _ => 0
  | phase :: later, d =>
    (if phase.held then 0 else min phase.span d) + activeWithin later (d - phase.span)

/-- The time that a call is held back before it has been active for a span. -/
def heldBefore : List Phase → Span → Span
  | [], _ => 0
  | phase :: later, a =>
    if phase.held then phase.span + heldBefore later a
    else if phase.span < a then heldBefore later (a - phase.span)
    else 0

section

variable (span : Span) (later : List Phase) (a : Span)

theorem activeTime_active : activeTime (⟨false, span⟩ :: later) = span + activeTime later := rfl

theorem activeTime_held : activeTime (⟨true, span⟩ :: later) = activeTime later := Nat.zero_add _

theorem activeWithin_active (d : Span) :
    activeWithin (⟨false, span⟩ :: later) d = min span d + activeWithin later (d - span) := rfl

theorem activeWithin_held (d : Span) :
    activeWithin (⟨true, span⟩ :: later) d = activeWithin later (d - span) := Nat.zero_add _

theorem heldBefore_held : heldBefore (⟨true, span⟩ :: later) a = span + heldBefore later a := rfl

end

theorem heldBefore_of_lt {span a : Span} (h : span < a) (later : List Phase) :
    heldBefore (⟨false, span⟩ :: later) a = heldBefore later (a - span) := if_pos h

theorem heldBefore_of_le {span a : Span} (h : a ≤ span) (later : List Phase) :
    heldBefore (⟨false, span⟩ :: later) a = 0 := if_neg (Nat.not_lt.mpr h)

theorem activeWithin_zero (phases : List Phase) : activeWithin phases 0 = 0 := by
  induction phases with
  | nil => rfl
  | cons phase later ih => rw [activeWithin, Nat.zero_sub, ih, Nat.min_zero, ite_self]

/-- **The span is used up** when it has passed in addition to the time of being held back. -/
theorem activeWithin_of_le {phases : List Phase} {a : Span} (h : a ≤ activeTime phases) :
    activeWithin phases (a + heldBefore phases a) = a := by
  induction phases generalizing a with
  | nil => exact (Nat.le_zero.mp h).symm
  | cons phase later ih =>
    obtain ⟨held, span⟩ := phase
    cases held with
    | true =>
      rw [activeTime_held] at h
      have hspan : a + (span + heldBefore later a) - span = a + heldBefore later a := by lia
      rw [heldBefore_held, activeWithin_held, hspan, ih h]
    | false =>
      rw [activeTime_active] at h
      rw [activeWithin_active]
      rcases Nat.lt_or_ge span a with hlt | hle
      · have hspan : a + heldBefore later (a - span) - span =
            a - span + heldBefore later (a - span) := by lia
        rw [heldBefore_of_lt hlt, hspan, ih (by lia)]
        lia
      · rw [heldBefore_of_le hle, Nat.add_zero, Nat.sub_eq_zero_of_le hle, activeWithin_zero]
        exact Nat.min_eq_right hle

/-- It is not used up before. -/
theorem activeWithin_lt {phases : List Phase} {a d : Span} (ha : 0 < a)
    (hd : d < a + heldBefore phases a) : activeWithin phases d < a := by
  induction phases generalizing a d with
  | nil => exact ha
  | cons phase later ih =>
    obtain ⟨held, span⟩ := phase
    cases held with
    | true =>
      rw [heldBefore_held] at hd
      rw [activeWithin_held]
      exact ih ha (by lia)
    | false =>
      rw [activeWithin_active]
      rcases Nat.lt_or_ge span a with hlt | hle
      · rw [heldBefore_of_lt hlt] at hd
        have hlater := ih (d := d - span) (Nat.sub_pos_of_lt hlt) (by lia)
        rcases Nat.le_total d span with hbefore | hafter
        · rw [Nat.sub_eq_zero_of_le hbefore, activeWithin_zero]
          lia
        · lia
      · rw [heldBefore_of_le hle, Nat.add_zero] at hd
        have hbefore : d ≤ span := Nat.le_trans (Nat.le_of_lt hd) hle
        rw [Nat.sub_eq_zero_of_le hbefore, activeWithin_zero, Nat.min_eq_right hbefore]
        exact hd

end Phase
end Biblio
