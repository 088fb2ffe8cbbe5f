import Biblio.Proofs.Provider.Observed
import Biblio.Proofs.Source.Phases
import Biblio.Proofs.Throttle.Meter
import Biblio.Sample
import Mathlib

/-!
# The time limit counts active time

The deadline of a limit is put off whenever it is met too early, and a call may be held back again
after that, so no deadline says when the limit is up.

* `TimeLimit.Keeps` ties a limit to the time that its call has been active and held back.  The deadline
  is never later than the limit would be up if the call was not held back any more.
* `TimeLimit.pass_of_active` and `TimeLimit.pass_of_held` are the two kinds of phases.
* `TimeLimit.UsedUp` is a limit that is up at this very instant, while the call goes on because it is
  looked at first; `TimeLimit.run_of_usedUp` says how long.
* `TimeLimit.run_of_keeps` is the run, by induction on the call.
* `Limited` is what is promised of a call under a limit, and `limited_of_after` proves it.
* `not_limited_by_activeTime` — with a limit beyond the end of the clock no call is made, and a call that
  ends when its limit is up may come to its own end.
-/

set_option autoImplicit false

namespace Biblio

/-! ## Limits -/

namespace TimeLimit

variable {W α : Type} {l : TimeLimit} {now goal t : Instant} {held spent span : Span}

theorem deadline_le_of_not_precedes (h : ¬ l.Precedes goal) : l.deadline ≤ goal :=
  Nat.le_of_not_lt fun hlt => h (.inl hlt)

/-- **The deadline is put off only so often.** -/
theorem pass_eq_iterate (l : TimeLimit) (goal : Instant) :
    ∃ n, n ≤ goal + 1 - l.deadline ∧ (∀ i < n, (putOff^[i] l).deadline ≤ goal) ∧
      (l.pass goal = .passed (putOff^[n] l) ∨ l.pass goal = .expired (putOff^[n] l).deadline ∨
        l.pass goal = .overflow (putOff^[n] l).deadline) := by
  fun_induction l.pass goal with
  | case1 l hearly => exact ⟨0, Nat.zero_le _, fun _ hi => absurd hi (Nat.not_lt_zero _), .inl rfl⟩
  | case2 l hlate hspent =>
    exact ⟨0, Nat.zero_le _, fun _ hi => absurd hi (Nat.not_lt_zero _), .inr (.inl rfl)⟩
  | case3 l hlate hleft e hafter =>
    exact ⟨0, Nat.zero_le _, fun _ hi => absurd hi (Nat.not_lt_zero _), .inr (.inr rfl)⟩
  | case4 l hlate hleft u hafter ih =>
    obtain ⟨n, hn, hbefore, hpass⟩ := ih
    refine ⟨n + 1, ?_, ?_, hpass⟩
    · have hmet := deadline_le_of_not_precedes hlate
      simp only [putOff] at hn
      lia
    · intro i hi
      cases i with
      | zero => exact deadline_le_of_not_precedes hlate
      | succ i => exact hbefore i (Nat.lt_of_succ_lt_succ hi)

/-- **A call that is active** goes on up to the instant at which the limit is up, and is cut off there,
unless it is to go on at this very instant and is looked at first. -/
theorem pass_of_active (goal : Instant) (hmeter : ∀ u, l.deadline ≤ u → l.meter.reading u = held)
    (hstarted : l.started + held ≤ l.deadline)
    (hlate : l.deadline ≤ l.started + held + l.allowed)
    (hroom : Instant.after (l.started + held) l.allowed = .ok t) :
    (goal < t ∨ l.callFirst = true ∧ goal = t →
      ∃ d, l.pass goal = .passed { l with deadline := d } ∧ goal ≤ d ∧ d ≤ t) ∧
      (t ≤ goal → ¬ (l.callFirst = true ∧ goal = t) → l.pass goal = .expired t) := by
  obtain rfl := Instant.after_eq_ok hroom
  fun_induction l.pass goal with
  | case1 l hearly =>
    refine ⟨fun _ => ⟨l.deadline, rfl, hearly.le, hlate⟩, fun hgoal hnot => absurd ?_ hnot⟩
    rcases hearly with hlt | ⟨hfirst, rfl⟩
    · exact absurd (Nat.lt_of_lt_of_le hlt hlate) (Nat.not_lt.mpr hgoal)
    · exact ⟨hfirst, Nat.le_antisymm hlate hgoal⟩
  | case2 l hmet hspent =>
    rw [active, hmeter _ (Nat.le_refl _)] at hspent
    have hend : l.deadline = l.started + held + l.allowed := by lia
    rw [Precedes, hend] at hmet
    rw [hend]
    exact ⟨fun hgoal => absurd hgoal hmet, fun _ _ => rfl⟩
  | case3 l hmet hleft e hafter =>
    rw [active, hmeter _ (Nat.le_refl _)] at hafter
    have hok : Instant.after l.deadline (l.allowed - (l.deadline - l.started - held)) = .ok _ :=
      Instant.after_of_le hroom (by lia)
    cases hafter.symm.trans hok
  | case4 l hmet hleft u hafter ih =>
    -- the active time that is left leads to the very end of the limit
    have hend : l.putOff.deadline = l.started + held + l.allowed := by
      rw [putOff, active, hmeter _ (Nat.le_refl _)]
      lia
    refine ih (fun u hu => hmeter u (Nat.le_trans ?_ hu)) ?_ ?_ hroom
    · exact Nat.le_add_right _ _
    · rw [hend]
      exact Nat.le_add_right _ _
    · rw [hend]
      exact Nat.le_refl _

/-- **A call that is held back** goes on. -/
theorem pass_of_held (hmeter : ∀ u, now ≤ u → l.meter.reading u = held + (u - now))
    (hnow : now = l.started + held + spent) (hspent : spent < l.allowed) (hahead : now ≤ l.deadline)
    (hgoal : now ≤ goal) (hlate : l.deadline ≤ l.started + held + (goal - now) + l.allowed)
    (hroom : Instant.after (l.started + held + (goal - now)) l.allowed = .ok t) :
    ∃ d, l.pass goal = .passed { l with deadline := d } ∧ goal ≤ d ∧ d ≤ t := by
  obtain rfl := Instant.after_eq_ok hroom
  fun_induction l.pass goal with
  | case1 l hearly => exact ⟨l.deadline, rfl, hearly.le, hlate⟩
  | case2 l hmet hover =>
    rw [active, hmeter _ hahead] at hover
    lia
  | case3 l hmet hleft e hafter =>
    have hpast := deadline_le_of_not_precedes hmet
    rw [active, hmeter _ hahead] at hafter
    have hok : Instant.after l.deadline
        (l.allowed - (l.deadline - l.started - (held + (l.deadline - now)))) = .ok _ :=
      Instant.after_of_le hroom (by lia)
    cases hafter.symm.trans hok
  | case4 l hmet hleft u hafter ih =>
    have hpast := deadline_le_of_not_precedes hmet
    have hdeadline : l.putOff.deadline = l.deadline + (l.allowed - spent) := by
      rw [putOff, active, hmeter _ hahead]
      lia
    refine ih hmeter hnow hspent ?_ ?_ hroom
    · rw [hdeadline]
      exact Nat.le_trans hahead (Nat.le_add_right _ _)
    · rw [hdeadline]
      change _ ≤ l.started + held + (goal - now) + l.allowed
      lia

/-- A limit whose call has been active and held back for so long. -/
structure Keeps (l : TimeLimit) (now : Instant) (spent held : Span) : Prop where
  now_eq : now = l.started + held + spent
  sound : l.meter.Sound now
  reading : l.meter.reading now = held
  spent_lt : spent < l.allowed
  ahead : now ≤ l.deadline
  /-- Unless the call is held back again, the limit is not up before the deadline. -/
  not_late : l.deadline ≤ l.started + held + l.allowed

theorem keeps_of_start {callFirst : Bool} (hallowed : 0 < span)
    (hstart : start now span callFirst = .ok l) : l.Keeps now 0 0 := by
  rw [start] at hstart
  split at hstart
  · exact nomatch hstart
  · next deadline hafter =>
    obtain rfl := Except.ok.inj hstart
    obtain rfl := Instant.after_eq_ok hafter
    exact ⟨rfl, Meter.sound_new now, rfl, hallowed,
      Nat.le_add_right _ _, Nat.le_refl _⟩

theorem Keeps.begin (h : l.Keeps now spent held) :
    Keeps { l with meter := l.meter.begin now } now spent held :=
  ⟨h.now_eq, h.sound.begin, h.sound.reading_begin.trans h.reading, h.spent_lt, h.ahead, h.not_late⟩

theorem Keeps.finish (h : l.Keeps now spent held) :
    Keeps { l with meter := l.meter.finish now } now spent held :=
  ⟨h.now_eq, h.sound.finish, (l.meter.reading_finish now).trans h.reading, h.spent_lt, h.ahead,
    h.not_late⟩

/-! ### The instant at which the limit is up -/

/-- A limit that is up at this very instant, but the call is looked at first. -/
structure UsedUp (l : TimeLimit) (now : Instant) : Prop where
  deadline_eq : l.deadline = now
  callFirst : l.callFirst = true
  used : l.allowed ≤ l.active now
  sound : l.meter.Sound now

theorem UsedUp.begin (h : l.UsedUp now) : UsedUp { l with meter := l.meter.begin now } now where
  deadline_eq := h.deadline_eq
  callFirst := h.callFirst
  used := by
    rw [active, h.sound.reading_begin]
    exact h.used
  sound := h.sound.begin

theorem UsedUp.finish (h : l.UsedUp now) : UsedUp { l with meter := l.meter.finish now } now where
  deadline_eq := h.deadline_eq
  callFirst := h.callFirst
  used := by
    rw [active, l.meter.reading_finish now]
    exact h.used
  sound := h.sound.finish

/-- No more time passes. -/
theorem UsedUp.pass (h : l.UsedUp now) (hspan : 0 < span) : l.pass (now + span) = .expired now := by
  have hmet : ¬ l.Precedes (now + span) := by
    rw [Precedes, h.deadline_eq]
    lia
  rw [TimeLimit.pass, if_neg hmet, if_pos (h.deadline_eq.symm ▸ h.used), h.deadline_eq]

/-- **Such a call may still end**, at this instant and not later. -/
theorem run_of_usedUp (call : Activity W α) (w : W) (h : l.UsedUp now) :
    ((call.run now w).2.1 = now →
      l.run now w call = (.answered (call.run now w).1, (call.run now w).2)) ∧
    ((call.run now w).2.1 ≠ now → ∃ w', l.run now w call = (.expired, now, w')) := by
  induction call generalizing l w with
  | done a => exact ⟨fun _ => rfl, fun hne => absurd rfl hne⟩
  | look next ih => exact ih now w w h
  | change f next ih => exact ih (f w) h
  | hold next ih => exact ih w h.begin
  | release next ih => exact ih w h.finish
  | wait span next ih =>
    rw [run, Activity.run]
    rcases Nat.eq_zero_or_pos span with rfl | hspan
    · have hpass : l.pass (now + 0) = .passed l := by
        rw [TimeLimit.pass, if_pos (.inr ⟨h.callFirst, h.deadline_eq.symm⟩)]
      rw [hpass]
      exact ih w h
    · -- any time that passes is too much
      have hlater : now < (next.run (now + span) w).2.1 :=
        Nat.lt_of_lt_of_le (Nat.lt_add_of_pos_right hspan) (next.le_run (now + span) w)
      rw [h.pass hspan]
      exact ⟨fun heq => absurd heq (Nat.ne_of_gt hlater), fun _ => ⟨w, rfl⟩⟩

/-! ### Phases -/

/-- A phase in which the call is active. -/
theorem Keeps.pass_of_active (span : Span) (h : l.Keeps now spent held) (hwaiting : l.meter.waiting = 0)
    (hroom : Instant.after (l.started + held) l.allowed = .ok t) :
    (spent + span < l.allowed → ∃ d, l.pass (now + span) = .passed { l with deadline := d } ∧
      Keeps { l with deadline := d } (now + span) (spent + span) held) ∧
    (l.allowed = spent + span → l.callFirst = true →
      ∃ d, l.pass (now + span) = .passed { l with deadline := d } ∧
        UsedUp { l with deadline := d } (now + span)) ∧
    (l.allowed ≤ spent + span → ¬ (l.callFirst = true ∧ l.allowed = spent + span) →
      l.pass (now + span) = .expired t) := by
  have hmeter (u : Instant) : l.meter.reading u = held :=
    (h.sound.reading_of_idle hwaiting u).trans h.reading
  have hnow := h.now_eq
  have hstarted : l.started + held ≤ l.deadline := Nat.le_trans (by lia) h.ahead
  obtain ⟨hpassed, hexpired⟩ := TimeLimit.pass_of_active (now + span) (fun u _ => hmeter u) hstarted
    h.not_late hroom
  obtain rfl := Instant.after_eq_ok hroom
  refine ⟨fun hspent => ?_, fun hspent hfirst => ?_, fun hspent hnot => ?_⟩
  · obtain ⟨d, hpass, hahead, hlate⟩ := hpassed (.inl (by lia))
    exact ⟨d, hpass, by lia, h.sound.mono (Nat.le_add_right _ _), hmeter _, hspent, hahead, hlate⟩
  · obtain ⟨d, hpass, hahead, hlate⟩ := hpassed (.inr ⟨hfirst, by lia⟩)
    refine ⟨d, hpass, Nat.le_antisymm (by lia) hahead, hfirst, ?_, h.sound.mono (Nat.le_add_right _ _)⟩
    rw [active, hmeter]
    lia
  · exact hexpired (by lia) fun htie => hnot ⟨htie.1, by lia⟩

/-- A phase in which the call is held back. -/
theorem Keeps.pass_of_held (span : Span) (h : l.Keeps now spent held) (hwaiting : l.meter.waiting ≠ 0)
    (hroom : Instant.after (l.started + (held + span)) l.allowed = .ok t) :
    ∃ d, l.pass (now + span) = .passed { l with deadline := d } ∧
      Keeps { l with deadline := d } (now + span) spent (held + span) := by
  have hmeter (u : Instant) (hu : now ≤ u) : l.meter.reading u = held + (u - now) :=
    h.reading ▸ h.sound.reading_of_running hwaiting hu
  have hgoal : now + span - now = span := Nat.add_sub_cancel_left now span
  have hlate : l.deadline ≤ l.started + held + (now + span - now) + l.allowed := by
    have hnot_late := h.not_late
    lia
  obtain ⟨d, hpass, hahead, hd⟩ := TimeLimit.pass_of_held hmeter h.now_eq h.spent_lt
    h.ahead (Nat.le_add_right now span) hlate (by rwa [hgoal, Nat.add_assoc])
  obtain rfl := Instant.after_eq_ok hroom
  refine ⟨d, hpass, ?_, h.sound.mono (Nat.le_add_right _ _), ?_, h.spent_lt, hahead, hd⟩
  · rw [h.now_eq]
    lia
  · rw [hmeter _ (Nat.le_add_right now span), hgoal]

open Phase (activeTime heldBefore)

/-- **A call under a limit.**  What counts is how long it is active from now on, and if this is too long
whether it ends at the very instant at which the limit is up. -/
theorem run_of_keeps (call : Activity W α) (w : W) (h : l.Keeps now spent held)
    (hroom : Instant.after (l.started + (held +
      heldBefore (call.phases l.meter.waiting now w) (l.allowed - spent))) l.allowed = .ok t) :
    (spent + activeTime (call.phases l.meter.waiting now w) < l.allowed ∨
        l.callFirst = true ∧ (call.run now w).2.1 = t →
      l.run now w call = (.answered (call.run now w).1, (call.run now w).2)) ∧
    (l.allowed ≤ spent + activeTime (call.phases l.meter.waiting now w) →
      ¬ (l.callFirst = true ∧ (call.run now w).2.1 = t) →
        ∃ w', l.run now w call = (.expired, t, w')) := by
  induction call generalizing l now w spent held with
  | done a => exact ⟨fun _ => rfl, fun hle => absurd h.spent_lt (Nat.not_lt.mpr hle)⟩
  | look next ih => exact ih now w w h hroom
  | change f next ih => exact ih (f w) h hroom
  | hold next ih => exact ih w h.begin hroom
  | release next ih =>
    have hwaiting := l.meter.waiting_finish now
    rw [Activity.phases, ← hwaiting] at hroom ⊢
    exact ih w h.finish hroom
  | wait span next ih =>
    rw [Activity.phases] at hroom ⊢
    rw [run, Activity.run]
    by_cases hwaiting : l.meter.waiting = 0
    · have hheld : decide (0 < l.meter.waiting) = false := decide_eq_false (by lia)
      rw [hheld] at hroom ⊢
      rw [Phase.activeTime_active, ← Nat.add_assoc]
      rcases Nat.lt_or_ge span (l.allowed - spent) with hlt | hle
      · -- the phase ends before the limit is up
        rw [Phase.heldBefore_of_lt hlt, Nat.sub_sub] at hroom
        obtain ⟨d, hpass, hkeeps⟩ := (h.pass_of_active span hwaiting
          (Instant.after_of_le hroom (by lia))).1 (by lia)
        rw [hpass]
        exact ih w hkeeps hroom
      · rw [Phase.heldBefore_of_le hle] at hroom
        obtain ⟨-, htie, hcut⟩ := h.pass_of_active span hwaiting hroom
        have hnow := h.now_eq
        have hspent := h.spent_lt
        obtain rfl := Instant.after_eq_ok hroom
        by_cases hends : l.callFirst = true ∧ l.allowed = spent + span
        · -- the limit is up when the phase ends
          obtain ⟨d, hpass, hused⟩ := htie hends.2 hends.1
          have ht : l.started + (held + 0) + l.allowed = now + span := by lia
          obtain ⟨hanswered, hexpired⟩ := run_of_usedUp next w hused
          rw [hpass, ht]
          refine ⟨fun hown => hanswered (hown.elim (fun hlt => by lia) And.right), fun _ hnot => ?_⟩
          exact hexpired fun heq => hnot ⟨hends.1, heq⟩
        · have hlater := next.le_run (now + span) w
          rw [hcut (by lia) hends]
          refine ⟨fun hown => hown.elim (fun hlt => by lia) fun hown => absurd ?_ hends,
            fun _ _ => ⟨w, rfl⟩⟩
          exact ⟨hown.1, by lia⟩
    · have hheld : decide (0 < l.meter.waiting) = true := decide_eq_true (by lia)
      rw [hheld] at hroom ⊢
      rw [Phase.heldBefore_held, ← Nat.add_assoc held] at hroom
      obtain ⟨d, hpass, hkeeps⟩ := h.pass_of_held span hwaiting
        (Instant.after_of_le hroom (by lia))
      rw [Phase.activeTime_held, hpass]
      exact ih w hkeeps hroom

end TimeLimit

/-! ## The promise -/

section

variable {W α : Type} (p : Provider W) (call : Call W α) (s : State W)

/-- The phases of a call that is made in a state. -/
def State.phases : List Phase := call.phases 0 s.now s.world

open Phase (activeTime activeWithin heldBefore)

/-- A call comes to its own end, however long it is held back. -/
def OwnEnd : Prop :=
  (p.bounded call).eval s = (.ok (call.run s.now s.world).1,
    s.later (call.run s.now s.world).2.1 (call.run s.now s.world).2.2)

/-- A call is cut off after a span. -/
def CutOffAfter (d : Span) : Prop :=
  ∃ w, (p.bounded call).eval s =
    (.ok (.error (.timeout p.rules.callTimeout.wholeSeconds)), s.later (s.now + d) w)

/-- What is promised of a call that a provider makes in a state. -/
structure Limited : Prop where
  /-- A call that is active for less than the limit comes to its own end. -/
  answered : activeTime (s.phases call) < p.rules.callTimeout → OwnEnd p call s
  /-- Any other call has been active for so long at some instant, and not before.  There it is cut off,
  neither later nor before; only a call that ends at this very instant may be looked at first, and then
  comes to its own end. -/
  expired : p.rules.callTimeout ≤ activeTime (s.phases call) → ∃ d,
    activeWithin (s.phases call) d = p.rules.callTimeout ∧
    (∀ d' < d, activeWithin (s.phases call) d' < p.rules.callTimeout) ∧
    if s.runtime.callFirst s.now = true ∧ (call.run s.now s.world).2.1 = s.now + d then OwnEnd p call s
    else CutOffAfter p call s d
  /-- In no wait is a deadline put off for ever. -/
  ends : ∀ (l : TimeLimit) (goal : Instant), ∃ n, n ≤ goal + 1 - l.deadline ∧
    (∀ i < n, (TimeLimit.putOff^[i] l).deadline ≤ goal) ∧
    (l.pass goal = .passed (TimeLimit.putOff^[n] l) ∨
      l.pass goal = .expired (TimeLimit.putOff^[n] l).deadline ∨
      l.pass goal = .overflow (TimeLimit.putOff^[n] l).deadline)

/-- **The time limit counts active time**, as far as the clock goes. -/
theorem limited_of_after {t : Instant} (hlimit : 0 < p.rules.callTimeout)
    (hroom : Instant.after (s.now + heldBefore (s.phases call) p.rules.callTimeout)
      p.rules.callTimeout = .ok t) : Limited p call s := by
  have hafter : Instant.after s.now p.rules.callTimeout = .ok _ :=
    Instant.after_of_le hroom (Nat.add_le_add_right (Nat.le_add_right _ _) _)
  have hstart := Provider.limit_of_after hafter
  obtain ⟨hanswered, hexpired⟩ := TimeLimit.run_of_keeps call s.world
    (TimeLimit.keeps_of_start hlimit hstart) (by rw [Nat.zero_add]; exact hroom)
  rw [Nat.zero_add] at hanswered hexpired
  have hown (h : activeTime (s.phases call) < p.rules.callTimeout ∨
      s.runtime.callFirst s.now = true ∧ (call.run s.now s.world).2.1 = t) : OwnEnd p call s := by
    rw [OwnEnd, p.eval_bounded_of_start call hstart, Provider.ending, hstart]
    simp only [hanswered h]
  have ht : t = s.now + (p.rules.callTimeout + heldBefore (s.phases call) p.rules.callTimeout) := by
    rw [Instant.after_eq_ok hroom]
    lia
  constructor
  case answered => exact fun hactive => hown (.inl hactive)
  case expired =>
    intro hactive
    refine ⟨p.rules.callTimeout + heldBefore (s.phases call) p.rules.callTimeout,
      Phase.activeWithin_of_le hactive, fun d hd => Phase.activeWithin_lt hlimit hd, ?_⟩
    rw [← ht]
    split
    · next htie => exact hown (.inr htie)
    · next hnot =>
      obtain ⟨w, hrun⟩ := hexpired hactive hnot
      refine ⟨w, ?_⟩
      rw [p.eval_bounded_of_start call hstart, Provider.ending, hstart]
      simp only [hrun, ← ht]
  case ends => exact TimeLimit.pass_eq_iterate

end

/-- A provider that gives every call some time. -/
def providerWithLimit (allowed : Span) : Provider Unit where
  definition := Definition.new "first" "Mock"
  source := Sample.source "Mock"
  number := 0
  rules := { callTimeout := allowed }

/-- A call that two rate limits hold back, for some time both at once, and that is active before and
after that. -/
def callOfTwoWaits : Call Unit Nat :=
  .wait (Span.seconds 4) (.hold (.wait (Span.seconds 40) (.hold (.wait (Span.seconds 20)
    (.release (.wait (Span.seconds 10) (.release (.wait (Span.seconds 25) (.done (.ok 7))))))))))

/-- Of 30 seconds it needs 29, and it comes to its end after 99. -/
theorem limited_callOfTwoWaits :
    let p := providerWithLimit (Span.seconds 30)
    let s : State Unit := { world := () }
    0 < p.rules.callTimeout ∧
      Instant.after (s.now + Phase.heldBefore (s.phases callOfTwoWaits) p.rules.callTimeout)
        p.rules.callTimeout = .ok (Span.seconds 100) ∧
      Limited p callOfTwoWaits s ∧
      (p.bounded callOfTwoWaits).eval s = (.ok (.ok 7), { s with now := Span.seconds 99 }) := by
  intro p s
  have hlimit : 0 < p.rules.callTimeout := by decide
  have hroom : Instant.after (s.now + Phase.heldBefore (s.phases callOfTwoWaits) p.rules.callTimeout)
      p.rules.callTimeout = .ok (Span.seconds 100) :=
    (if_pos (by decide)).trans (congrArg Except.ok (by decide))
  have hlimited := limited_of_after p callOfTwoWaits s hlimit hroom
  have hrun : callOfTwoWaits.run s.now s.world = (.ok 7, Span.seconds 99, ()) :=
    Prod.ext rfl (Prod.ext (by decide) rfl)
  have hanswered := hlimited.answered (by decide)
  rw [OwnEnd, hrun] at hanswered
  exact ⟨hlimit, hroom, hlimited, hanswered⟩

/-- A call that is active for as long as it may be. -/
def callOfHalfAMinute : Call Unit Nat := .wait (Span.seconds 30) (.done (.ok 7))

/-- **Active time is not all that counts.**  With a limit beyond the end of the clock no call is made, not
even one that takes no time; and a call that ends when its limit is up is cut off or comes to its own
end, as chance has it. -/
theorem not_limited_by_activeTime :
    let endless := providerWithLimit (Span.seconds Span.greatestSeconds)
    let p := providerWithLimit (Span.seconds 30)
    let call : Call Unit Nat := .done (.ok 7)
    let s : State Unit := { world := () }
    let s' : State Unit := { s with runtime := { callFirst := fun _ => true } }
    (Phase.activeTime (s.phases call) < endless.rules.callTimeout ∧
        (call.run s.now s.world).1 = .ok 7 ∧ (endless.bounded call).eval s = (.error .beyondEnd, s)) ∧
      Phase.activeTime (s.phases callOfHalfAMinute) = p.rules.callTimeout ∧
        ((p.bounded callOfHalfAMinute).eval s).1 = .ok (.error (.timeout 30)) ∧
        ((p.bounded callOfHalfAMinute).eval s').1 = .ok (.ok 7) := by
  intro endless p call s s'
  have hcut : (TimeLimit.run ⟨s.now, p.rules.callTimeout, Span.seconds 30,
      s.runtime.callFirst s.now, {}⟩ s.now s.world callOfHalfAMinute).1 = .expired := by
    rw [callOfHalfAMinute, TimeLimit.run, TimeLimit.pass, if_neg (by decide), if_pos (by decide)]
  have hown : (TimeLimit.run ⟨s'.now, p.rules.callTimeout, Span.seconds 30,
      s'.runtime.callFirst s'.now, {}⟩ s'.now s'.world callOfHalfAMinute).1 = .answered (.ok 7) := by
    rw [callOfHalfAMinute, TimeLimit.run, TimeLimit.pass, if_pos (by decide)]
    rfl
  have hafter : Instant.after 0 p.rules.callTimeout = .ok (Span.seconds 30) :=
    (if_pos (by decide)).trans (congrArg Except.ok (by decide))
  have hlimit := Provider.limit_of_after (p := p) (s := s) hafter
  have hlimit' := Provider.limit_of_after (p := p) (s := s') hafter
  have hbeyond : Instant.after 0 endless.rules.callTimeout = .error .beyondEnd := if_neg (by decide)
  have hendless := Provider.limit_of_overflow (p := endless) (s := s) hbeyond
  refine ⟨⟨by decide, rfl, endless.eval_bounded_of_overflow call hendless⟩, by decide, ?_, ?_⟩
  · rw [p.eval_bounded, Provider.ending, hlimit]
    have hseconds : p.rules.callTimeout.wholeSeconds = 30 := by decide
    simp only [hcut, hseconds]
  · rw [p.eval_bounded, Provider.ending, hlimit']
    simp only [hown]

end Biblio
