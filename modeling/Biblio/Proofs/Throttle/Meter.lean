import Biblio.Throttle.Meter

/-!
# Running meters

A meter runs while waits are in progress.

* `Meter.Sound` — a meter that has something to measure measures it.
* `Meter.Sound.reading_of_idle` and `Meter.Sound.reading_of_running` — time passes.
* `Meter.Sound.begin`, `Meter.Sound.finish`, `Meter.Sound.reading_begin` and `Meter.reading_finish` —
  a wait begins or ends, which takes no time.
* `NarrowMeter` counts with 32 bits.  `NarrowMeter.wide_begin` and `NarrowMeter.wide_finish` say when
  that makes no difference.
-/

set_option autoImplicit false

namespace Biblio
namespace Meter

variable {m : Meter} {now t : Instant}

/-- A meter is running while there are waits, and not otherwise. -/
structure Sound (m : Meter) (now : Instant) : Prop where
  idle : m.waiting = 0 → m.since = none
  running : m.waiting ≠ 0 → ∃ start, start ≤ now ∧ m.since = some start

theorem sound_new (now : Instant) : Sound {} now :=
  ⟨fun _ => rfl, fun hwaiting => absurd rfl hwaiting⟩

theorem Sound.mono (h : m.Sound now) (ht : now ≤ t) : m.Sound t where
  idle := h.idle
  running hwaiting := by
    obtain ⟨start, hstart, hsince⟩ := h.running hwaiting
    exact ⟨start, Nat.le_trans hstart ht, hsince⟩

/-- Without waits the meter stands still. -/
theorem Sound.reading_of_idle (h : m.Sound now) (hwaiting : m.waiting = 0) (t : Instant) :
    m.reading t = m.reading now := by
  simp only [reading, h.idle hwaiting]

/-- With waits it goes with the clock. -/
theorem Sound.reading_of_running (h : m.Sound now) (hwaiting : m.waiting ≠ 0) (ht : now ≤ t) :
    m.reading t = m.reading now + (t - now) := by
  obtain ⟨start, hstart, hsince⟩ := h.running hwaiting
  simp only [reading, hsince]
  lia

theorem Sound.begin (h : m.Sound now) : (m.begin now).Sound now where
  idle hwaiting := absurd hwaiting (Nat.succ_ne_zero m.waiting)
  running _ := by
    by_cases hwaiting : m.waiting = 0
    · exact ⟨now, Nat.le_refl now, if_pos hwaiting⟩
    · obtain ⟨start, hstart, hsince⟩ := h.running hwaiting
      exact ⟨start, hstart, (if_neg hwaiting).trans hsince⟩

theorem Sound.reading_begin (h : m.Sound now) : (m.begin now).reading now = m.reading now := by
  by_cases hwaiting : m.waiting = 0
  · simp only [reading, Meter.begin, hwaiting, if_true, h.idle hwaiting, Nat.sub_self, Nat.add_zero]
  · simp only [reading, Meter.begin, hwaiting, if_false]

/-- A wait that ends among others changes nothing else. -/
theorem finish_of_ne (h : m.waiting - 1 ≠ 0) (now : Instant) :
    m.finish now = { m with waiting := m.waiting - 1 } := by
  rw [finish, if_neg h]

/-- After the last one the time that was measured is kept. -/
theorem finish_of_eq (h : m.waiting - 1 = 0) (now : Instant) :
    m.finish now = ⟨0, none, m.reading now⟩ := by
  rw [finish, if_pos h, reading]
  cases m.since <;> rfl

theorem waiting_finish (m : Meter) (now : Instant) : (m.finish now).waiting = m.waiting - 1 := by
  by_cases hlast : m.waiting - 1 = 0
  · rw [finish_of_eq hlast, hlast]
  · rw [finish_of_ne hlast]

theorem reading_finish (m : Meter) (now : Instant) : (m.finish now).reading now = m.reading now := by
  by_cases hlast : m.waiting - 1 = 0
  · rw [finish_of_eq hlast]
    rfl
  · rw [finish_of_ne hlast]
    rfl

theorem Sound.finish (h : m.Sound now) : (m.finish now).Sound now := by
  by_cases hlast : m.waiting - 1 = 0
  · rw [finish_of_eq hlast]
    exact ⟨fun _ => rfl, fun hwaiting => absurd rfl hwaiting⟩
  · rw [finish_of_ne hlast]
    exact ⟨fun hwaiting => absurd hwaiting hlast, fun _ => h.running (by lia)⟩

end Meter

/-! ## Narrow counts -/

/-- A meter whose count of waits has 32 bits. -/
structure NarrowMeter where
  waiting : UInt32 := 0
  since : Option Instant := none
  total : Span := 0
  deriving DecidableEq, Repr

namespace NarrowMeter

/-- A wait begins; after the greatest count comes none. -/
def begin (m : NarrowMeter) (now : Instant) : NarrowMeter where
  waiting := m.waiting + 1
  since := if m.waiting = 0 then some now else m.since
  total := m.total

/-- One less, but not less than none. -/
def oneLess (n : UInt32) : UInt32 := if n = 0 then 0 else n - 1

/-- A wait ends. -/
def finish (m : NarrowMeter) (now : Instant) : NarrowMeter :=
  if oneLess m.waiting = 0 then
    match m.since with
    | some start => ⟨0, none, m.total + (now - start)⟩
    | none => ⟨0, none, m.total⟩
  else ⟨oneLess m.waiting, m.since, m.total⟩

/-- The meter that it stands for. -/
def wide (m : NarrowMeter) : Meter := ⟨m.waiting.toNat, m.since, m.total⟩

/-- The greatest number of waits that can be counted. -/
def greatestCount : Nat := 4294967295

theorem toNat_eq_zero_iff (n : UInt32) : n.toNat = 0 ↔ n = 0 := by
  rw [← UInt32.toNat_inj]
  rfl

/-- A wait is counted as long as there are not too many. -/
theorem wide_begin {m : NarrowMeter} (h : m.wide.waiting < greatestCount) (now : Instant) :
    (m.begin now).wide = m.wide.begin now := by
  have hcount : (m.waiting + 1).toNat = m.waiting.toNat + 1 := by
    rw [UInt32.toNat_add, UInt32.toNat_one]
    exact Nat.mod_eq_of_lt (Nat.succ_lt_succ h)
  simp only [wide, NarrowMeter.begin, Meter.begin, hcount, toNat_eq_zero_iff]

theorem toNat_oneLess (n : UInt32) : (oneLess n).toNat = n.toNat - 1 := by
  rw [oneLess]
  split
  · next hzero => rw [hzero]; rfl
  · next hpos =>
    have hone : (1 : UInt32) ≤ n :=
      UInt32.le_iff_toNat_le.mpr (Nat.pos_of_ne_zero (mt (toNat_eq_zero_iff n).mp hpos))
    exact UInt32.toNat_sub_of_le _ _ hone

theorem wide_finish (m : NarrowMeter) (now : Instant) :
    (m.finish now).wide = m.wide.finish now := by
  have hlast : m.waiting.toNat - 1 = 0 ↔ oneLess m.waiting = 0 := by
    rw [← toNat_oneLess, toNat_eq_zero_iff]
  simp only [NarrowMeter.finish, Meter.finish, wide, hlast]
  split
  · cases m.since <;> rfl
  · rw [toNat_oneLess]

end NarrowMeter
end Biblio
