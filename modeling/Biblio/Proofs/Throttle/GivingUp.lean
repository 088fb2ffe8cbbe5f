import Biblio.Proofs.Throttle.Schedule
import Mathlib.Order.Defs.LinearOrder

/-!
# Requests that are given up

A request that is given up while it waits leaves its turn to the next one, at an instant at which
nothing else has changed.  This file shows that nobody notices.

* `waitForSlot_eq_of_le` is the reason: whoever begins to wait while another already waits gets the
  same slot.
* `Limiter.Alike` says that two limiters treat every request from some instant on alike.  They may
  differ in the instant from which they are free, and `alike_serve_of_givenUp` is how they come to.
* `serveAll_eraseIdx` — without a request that was given up, all others are admitted when they were.
-/

set_option autoImplicit false

namespace Biblio
namespace Limiter

/-! ## Waiting for a slot -/

/-- **Waiting from later on.**  From every instant up to the one at which there is a slot, the slot
is the same. -/
theorem waitForSlot_eq_of_le {n : Nat} {t u : Instant} {admitted : List Instant} (htu : t ≤ u)
    (hu : u ≤ (waitForSlot n t admitted).1) : waitForSlot n u admitted = waitForSlot n t admitted := by
  induction admitted generalizing t with
  | nil =>
    rw [Nat.le_antisymm htu hu]
  | cons oldest rest ih =>
    rw [waitForSlot] at hu
    by_cases hgone : oldest + window ≤ t
    · rw [if_pos hgone] at hu
      rw [waitForSlot, waitForSlot, if_pos hgone, if_pos (Nat.le_trans hgone htu)]
      exact ih htu hu
    · rw [if_neg hgone] at hu
      by_cases hroom : (oldest :: rest).length < n
      · rw [if_pos hroom] at hu
        rw [Nat.le_antisymm htu hu]
      · rw [if_neg hroom] at hu
        rw [waitForSlot, waitForSlot, if_neg hgone, if_neg hroom]
        -- the oldest may or may not have left the window by `u`
        split
        · next hu' => exact ih hu' hu
        · rfl

/-! ## Serving one request -/

theorem turn_le_iff {l : Limiter} {a : Arrival} {t : Instant} :
    l.turn a ≤ t ↔ a.arrivedAt ≤ t ∧ l.freeAt ≤ t := Nat.max_le

theorem turn_mono {l : Limiter} {a b : Arrival} (h : a.arrivedAt ≤ b.arrivedAt) :
    l.turn a ≤ l.turn b :=
  turn_le_iff.mpr ⟨Nat.le_trans h (Nat.le_max_left _ _), Nat.le_max_right _ _⟩

/-- A request is admitted to its slot unless it is given up before. -/
theorem serve_fst_eq_none_iff {l : Limiter} (hl : l.perMinute ≠ 0) (a : Arrival) :
    (l.serve a).1 = none ↔ GivenUpBefore a (l.slot a).1 := by
  rw [serve, unlimited, if_neg (by simpa using hl)]
  cases hd : a.givenUpAt with
  | none => simp [GivenUpBefore, hd]
  | some deadline =>
    by_cases hle : (l.slot a).1 ≤ deadline
    · simp [GivenUpBefore, hd, hle]
    · have hlt : deadline < (l.slot a).1 := Nat.lt_of_not_le hle
      by_cases hturn : l.turn a ≤ deadline <;> simp [GivenUpBefore, hd, hle, hturn, hlt]

theorem serve_of_admitted {l : Limiter} (hl : l.perMinute ≠ 0) {a : Arrival} {s : Instant}
    (h : (l.serve a).1 = some s) : s = (l.slot a).1 ∧ (l.serve a).2 = l.grant a := by
  rw [serve, unlimited, if_neg (by simpa using hl)] at h ⊢
  cases hd : a.givenUpAt with
  | none =>
    rw [hd] at h
    exact ⟨(Option.some.inj h).symm, rfl⟩
  | some deadline =>
    rw [hd] at h
    simp only at h ⊢
    split_ifs at h ⊢
    exact ⟨(Option.some.inj h).symm, rfl⟩

/-- What a request leaves behind that is given up: at most the instant of that. -/
theorem serve_of_givenUp {l : Limiter} {a : Arrival} (h : (l.serve a).1 = none) :
    (l.serve a).2 = l ∨ ∃ deadline, l.turn a ≤ deadline ∧ deadline ≤ (l.slot a).1 ∧
      (l.serve a).2 = { l with freeAt := deadline } := by
  rw [serve] at h ⊢
  split_ifs at h ⊢
  cases hd : a.givenUpAt with
  | none => simp [hd] at h
  | some deadline =>
    rw [hd] at h
    simp only at h ⊢
    split_ifs at h ⊢ with hslot hturn
    · exact .inr ⟨deadline, hturn, Nat.le_of_not_le hslot, rfl⟩
    · exact .inl rfl

/-! ## Limiters that treat requests alike -/

/-- Two limiters treat every request alike that arrives at an instant or later: they have the same
admissions on record, and each request has the same slot. -/
structure Alike (x : Instant) (l m : Limiter) : Prop where
  /-- The limits are the same. -/
  perMinute : l.perMinute = m.perMinute
  /-- The admissions on record are the same. -/
  admitted : l.admitted = m.admitted
  /-- Requests from `x` on have the same slots. -/
  slot : ∀ a : Arrival, x ≤ a.arrivedAt → l.slot a = m.slot a

theorem Alike.refl (x : Instant) (l : Limiter) : Alike x l l := ⟨rfl, rfl, fun _ _ => rfl⟩

theorem Alike.symm {x : Instant} {l m : Limiter} (h : Alike x l m) : Alike x m l :=
  ⟨h.perMinute.symm, h.admitted.symm, fun a ha => (h.slot a ha).symm⟩

theorem Alike.trans {x : Instant} {l m k : Limiter} (h : Alike x l m) (h' : Alike x m k) :
    Alike x l k :=
  ⟨h.perMinute.trans h'.perMinute, h.admitted.trans h'.admitted,
    fun a ha => (h.slot a ha).trans (h'.slot a ha)⟩

theorem Alike.mono {x y : Instant} {l m : Limiter} (h : Alike x l m) (hxy : x ≤ y) :
    Alike y l m :=
  ⟨h.perMinute, h.admitted, fun a ha => h.slot a (Nat.le_trans hxy ha)⟩

/-- Being freed while a request waits makes no difference to those that come after it. -/
theorem alike_of_freeAt {l : Limiter} {a : Arrival} {d : Instant} (hturn : l.turn a ≤ d)
    (hslot : d ≤ (l.slot a).1) : Alike a.arrivedAt { l with freeAt := d } l := by
  refine ⟨rfl, rfl, fun b hb => ?_⟩
  have hfree : l.freeAt ≤ d := (turn_le_iff.mp hturn).2
  have hle : l.turn a ≤ l.turn b := turn_mono hb
  show waitForSlot l.perMinute (max b.arrivedAt d) l.admitted = l.slot b
  rcases Nat.le_total d b.arrivedAt with hd | hd
  · -- `b` comes after the one that was given up has gone
    rw [slot, turn, Nat.max_eq_left hd, Nat.max_eq_left (Nat.le_trans hfree hd)]
  · -- both wait for the slot that the one that was given up has waited for
    have hb : l.turn b ≤ d := turn_le_iff.mpr ⟨hd, hfree⟩
    rw [Nat.max_eq_right hd, slot, waitForSlot_eq_of_le hturn hslot,
      waitForSlot_eq_of_le hle (Nat.le_trans hb hslot)]

/-- **A request that is given up is not noticed** by those that come after it. -/
theorem alike_serve_of_givenUp {l : Limiter} {a : Arrival} (h : (l.serve a).1 = none) :
    Alike a.arrivedAt (l.serve a).2 l := by
  rcases serve_of_givenUp h with hl | ⟨d, hturn, hslot, hl⟩
  · rw [hl]
    exact .refl _ _
  · rw [hl]
    exact alike_of_freeAt hturn hslot

theorem Alike.unlimited {x : Instant} {l m : Limiter} (h : Alike x l m) :
    l.unlimited = m.unlimited := by
  rw [Limiter.unlimited, Limiter.unlimited, h.perMinute]

theorem Alike.serve_fst {x : Instant} {l m : Limiter} (h : Alike x l m) {a : Arrival}
    (hx : x ≤ a.arrivedAt) : (l.serve a).1 = (m.serve a).1 := by
  have hslot := h.slot a hx
  rw [serve, serve, h.unlimited, hslot]
  split
  · rfl
  · cases a.givenUpAt with
    | none => rfl
    | some deadline =>
      simp only
      split_ifs <;> rfl

theorem Alike.grant_eq {x : Instant} {l m : Limiter} (h : Alike x l m) {a : Arrival}
    (hx : x ≤ a.arrivedAt) : l.grant a = m.grant a := by
  rw [grant, grant, h.slot a hx, h.perMinute]

/-- Limiters that treat requests alike still do so after one of them. -/
theorem Alike.serve_snd {x : Instant} {l m : Limiter} (h : Alike x l m) {a : Arrival}
    (hx : x ≤ a.arrivedAt) : Alike a.arrivedAt (l.serve a).2 (m.serve a).2 := by
  have hfst := h.serve_fst hx
  by_cases hl : l.perMinute = 0
  · have hm : m.perMinute = 0 := h.perMinute ▸ hl
    rw [serve, serve, Limiter.unlimited, Limiter.unlimited, hl, hm]
    exact h.mono hx
  · have hm : m.perMinute ≠ 0 := h.perMinute ▸ hl
    cases hr : (l.serve a).1 with
    | none =>
      have hgone := alike_serve_of_givenUp hr
      have hgone' := alike_serve_of_givenUp (hfst ▸ hr)
      exact hgone.trans ((h.mono hx).trans hgone'.symm)
    | some s =>
      rw [(serve_of_admitted hl hr).2, (serve_of_admitted hm (hfst ▸ hr)).2, h.grant_eq hx]
      exact .refl _ _

/-! ## Many requests -/

theorem serveAll_cons (a : Arrival) (rest : List Arrival) (l : Limiter) :
    serveAll (a :: rest) l =
      ((l.serve a).1 :: (serveAll rest (l.serve a).2).1, (serveAll rest (l.serve a).2).2) := rfl

theorem length_serveAll (as : List Arrival) (l : Limiter) :
    (serveAll as l).1.length = as.length := by
  induction as generalizing l with
  | nil => rfl
  | cons a rest ih => rw [serveAll_cons, List.length_cons, List.length_cons, ih]

theorem serveAll_append (as bs : List Arrival) (l : Limiter) :
    serveAll (as ++ bs) l =
      ((serveAll as l).1 ++ (serveAll bs (serveAll as l).2).1,
        (serveAll bs (serveAll as l).2).2) := by
  induction as generalizing l with
  | nil => rfl
  | cons a rest ih => rw [List.cons_append, serveAll_cons, serveAll_cons, ih]; rfl

/-- Limiters that treat requests alike admit all of them at the same instants. -/
theorem Alike.serveAll_fst {x : Instant} {l m : Limiter} (h : Alike x l m) {as : List Arrival}
    (hx : ∀ a ∈ as, x ≤ a.arrivedAt) (has : InOrder as) :
    (serveAll as l).1 = (serveAll as m).1 := by
  induction as generalizing x l m with
  | nil => rfl
  | cons a rest ih =>
    obtain ⟨hfirst, hrest⟩ := List.pairwise_cons.mp has
    have ha : x ≤ a.arrivedAt := hx a List.mem_cons_self
    rw [serveAll_cons, serveAll_cons, h.serve_fst ha, ih (h.serve_snd ha) hfirst hrest]

/-- **A request that is given up leaves all others as they were.** -/
theorem serveAll_eraseIdx {before after : List Arrival} {a : Arrival} {l : Limiter}
    (has : InOrder (a :: after))
    (h : (serveAll (before ++ a :: after) l).1[before.length]? = some none) :
    (serveAll (before ++ after) l).1 =
      (serveAll (before ++ a :: after) l).1.eraseIdx before.length := by
  obtain ⟨hfirst, hrest⟩ := List.pairwise_cons.mp has
  have hwith := congrArg Prod.fst (serveAll_append before (a :: after) l)
  rw [serveAll_cons] at hwith
  rw [hwith, ← length_serveAll before l] at h ⊢
  have hnone : ((serveAll before l).2.serve a).1 = none := by
    simpa [List.getElem?_append_right] using h
  rw [serveAll_append, List.eraseIdx_append_of_length_le (Nat.le_refl _), Nat.sub_self,
    List.eraseIdx_zero, List.tail_cons,
    (alike_serve_of_givenUp hnone).serveAll_fst hfirst hrest]

end Limiter
end Biblio
