import Biblio.Proofs.Throttle.GivingUp

/-!
# The limiter keeps to the rule

A limiter keeps only the admissions that may still count, and while it waits it throws away those
that no longer do.  Its runs are compared with the rule of `Biblio/Proofs/Throttle/Schedule.lean`,
which knows all past admissions and keeps nothing else.

* `Recorded` relates what a limiter has kept to all that has been, and `waitForSlot_of_recorded`
  says that the wait leads to the same instant.
* `Served` is how those who come later find the limiter.  `Served.serve` is the step and
  `serveAll_eq_schedule` the run.
* `slidingWindow_of_inOrder` puts everything together.
-/

set_option autoImplicit false

namespace Biblio
namespace Limiter

/-! ## The record of a limiter -/

/-- A record of all past admissions but some that have left the window by the instant `t`. -/
def Recorded (t : Instant) (times kept : List Instant) : Prop :=
  ∃ gone, times = gone ++ kept ∧ ∀ d ∈ gone, d + window ≤ t

theorem Recorded.mono {t u : Instant} {times kept : List Instant} (h : Recorded t times kept)
    (htu : t ≤ u) : Recorded u times kept := by
  obtain ⟨gone, htimes, hgone⟩ := h
  exact ⟨gone, htimes, fun d hd => Nat.le_trans (hgone d hd) htu⟩

theorem Recorded.tail {t : Instant} {times kept : List Instant} {oldest : Instant}
    (h : Recorded t times (oldest :: kept)) (ht : oldest + window ≤ t) :
    Recorded t times kept := by
  obtain ⟨gone, htimes, hgone⟩ := h
  refine ⟨gone ++ [oldest], by rw [htimes, List.append_assoc, List.singleton_append], ?_⟩
  intro d hd
  rcases List.mem_append.mp hd with hd | hd
  · exact hgone d hd
  · rw [List.mem_singleton.mp hd]
    exact ht

theorem Recorded.snoc {t : Instant} {times kept : List Instant} (h : Recorded t times kept)
    (s : Instant) : Recorded t (times ++ [s]) (kept ++ [s]) := by
  obtain ⟨gone, htimes, hgone⟩ := h
  exact ⟨gone, by rw [htimes, List.append_assoc], hgone⟩

/-- With room on record there is room. -/
theorem Recorded.roomFrom_le {n : Nat} {t : Instant} {times kept : List Instant}
    (h : Recorded t times kept) (hn : kept.length < n) : roomFrom n times ≤ t := by
  obtain ⟨gone, rfl, hgone⟩ := h
  rw [roomFrom]
  split
  · next hle =>
    rw [List.length_append] at hle ⊢
    have hlt : gone.length + kept.length - n < gone.length := by omega
    rw [List.getElem?_append_left hlt, List.getElem?_eq_getElem hlt]
    exact hgone _ (List.getElem_mem hlt)
  · exact Nat.zero_le t

/-- With a full record the oldest admission on it is waited for. -/
theorem Recorded.roomFrom_eq {n : Nat} {t : Instant} {times kept : List Instant}
    {oldest : Instant} (h : Recorded t times (oldest :: kept))
    (hn : (oldest :: kept).length = n) : roomFrom n times = oldest + window := by
  obtain ⟨gone, rfl, -⟩ := h
  rw [roomFrom, List.length_append, hn, if_pos (Nat.le_add_left _ _), Nat.add_sub_cancel,
    List.getElem?_append_right (Nat.le_refl _), Nat.sub_self]
  rfl

/-- **Waiting by the record.**  From a record of at most `n` admissions the limiter finds the slot
that the whole past gives, and is left with a record that has room. -/
theorem waitForSlot_of_recorded {n : Nat} {t : Instant} {times kept : List Instant} (hn : 0 < n)
    (h : Recorded t times kept) (hkept : kept.length ≤ n) :
    (waitForSlot n t kept).1 = max t (roomFrom n times) ∧
      Recorded (waitForSlot n t kept).1 times (waitForSlot n t kept).2 ∧
      (waitForSlot n t kept).2.length < n := by
  induction kept generalizing t with
  | nil =>
    refine ⟨?_, h, hn⟩
    rw [Nat.max_eq_left (h.roomFrom_le hn)]
    rfl
  | cons oldest kept ih =>
    have hlt : kept.length < n := by rwa [List.length_cons, Nat.succ_le_iff] at hkept
    rw [waitForSlot]
    by_cases hgone : oldest + window ≤ t
    · rw [if_pos hgone]
      exact ih (h.tail hgone) (Nat.le_of_lt hlt)
    rw [if_neg hgone]
    by_cases hroom : (oldest :: kept).length < n
    · rw [if_pos hroom]
      exact ⟨(Nat.max_eq_left (h.roomFrom_le hroom)).symm, h, hroom⟩
    · rw [if_neg hroom]
      have hle : t ≤ oldest + window := Nat.le_of_not_le hgone
      have heq := h.roomFrom_eq (Nat.le_antisymm hkept (Nat.le_of_not_lt hroom))
      obtain ⟨hslot, hrecord⟩ :=
        ih ((h.mono hle).tail (Nat.le_refl _)) (Nat.le_of_lt hlt)
      refine ⟨?_, hrecord⟩
      rw [hslot, heq, Nat.max_self, Nat.max_eq_right hle]

/-! ## The limiter decides by the rule -/

/-- How those who arrive from `x` on find a limiter after admissions at the given instants: as one
that has been free since the last of them and has a record of at most `n`. -/
def Served (n : Nat) (x : Instant) (l : Limiter) (times : List Instant) : Prop :=
  ∃ m : Limiter, Alike x l m ∧ m.perMinute = n ∧ m.freeAt = times.getLast?.getD 0 ∧
    Recorded m.freeAt times m.admitted ∧ m.admitted.length ≤ n

/-- A limiter that has served nobody. -/
theorem served_fresh (n : Nat) : Served n 0 { perMinute := n } [] :=
  ⟨_, .refl _ _, rfl, rfl, ⟨[], rfl, fun _ h => nomatch h⟩, Nat.zero_le n⟩

/-- The slot for the next request, and what its admission leaves. -/
theorem Served.slot {n : Nat} {x : Instant} {l : Limiter} {times : List Instant} (hn : 0 < n)
    (h : Served n x l times) {a : Arrival} (hx : x ≤ a.arrivedAt) :
    (l.slot a).1 = dueAt n times a.arrivedAt ∧
      Served n a.arrivedAt (l.grant a) (times ++ [dueAt n times a.arrivedAt]) := by
  obtain ⟨m, halike, hm, hfree, hrecord, hlen⟩ := h
  have hturn : m.turn a = max a.arrivedAt (times.getLast?.getD 0) := by rw [turn, hfree]
  have hrecord : Recorded (m.turn a) times m.admitted :=
    hrecord.mono (Nat.le_max_right a.arrivedAt m.freeAt)
  obtain ⟨hslot, hafter, hroom⟩ := waitForSlot_of_recorded hn hrecord hlen
  have hdue : (m.slot a).1 = dueAt n times a.arrivedAt := by
    rw [Limiter.slot, hm, hslot, hturn, dueAt]
  rw [← hm, ← Limiter.slot] at hafter hroom
  refine ⟨by rw [halike.slot a hx, hdue], m.grant a, ?_, hm, ?_, ?_, ?_⟩
  · rw [halike.grant_eq hx]
    exact .refl _ _
  · rw [List.getLast?_append, ← hdue]
    rfl
  · rw [← hdue]
    exact hafter.snoc _
  · rw [grant, List.length_append, List.length_singleton, ← hm]
    exact hroom

/-- **The step.**  A request is admitted when it is due unless it is given up before, and then it
leaves no trace. -/
theorem Served.serve {n : Nat} {x : Instant} {l : Limiter} {times : List Instant} (hn : 0 < n)
    (h : Served n x l times) {a : Arrival} (hx : x ≤ a.arrivedAt) :
    if GivenUpBefore a (dueAt n times a.arrivedAt) then
      (l.serve a).1 = none ∧ Served n a.arrivedAt (l.serve a).2 times
    else
      (l.serve a).1 = some (dueAt n times a.arrivedAt) ∧
        Served n a.arrivedAt (l.serve a).2 (times ++ [dueAt n times a.arrivedAt]) := by
  obtain ⟨hslot, hgrant⟩ := h.slot hn hx
  obtain ⟨m, halike, hm, hrest⟩ := h
  have hl : l.perMinute ≠ 0 := by
    rw [halike.perMinute, hm]
    exact Nat.ne_of_gt hn
  have hnone := serve_fst_eq_none_iff hl a
  rw [hslot] at hnone
  split
  · next hgiven =>
    have hr := hnone.mpr hgiven
    exact ⟨hr, m, (alike_serve_of_givenUp hr).trans (halike.mono hx), hm, hrest⟩
  · next hgiven =>
    obtain ⟨s, hs⟩ := Option.ne_none_iff_exists'.mp (mt hnone.mp hgiven)
    obtain ⟨rfl, hafter⟩ := serve_of_admitted hl hs
    rw [hs, hafter, hslot]
    exact ⟨rfl, hgrant⟩

/-- **The run.**  A limiter decides about all requests by the rule. -/
theorem serveAll_eq_schedule {n : Nat} {x : Instant} {l : Limiter} {times : List Instant}
    (hn : 0 < n) (h : Served n x l times) {as : List Arrival} (has : InOrder as)
    (hx : ∀ a ∈ as, x ≤ a.arrivedAt) : (serveAll as l).1 = schedule n times as := by
  induction as generalizing x l times with
  | nil => rfl
  | cons a rest ih =>
    obtain ⟨ha, hrest⟩ := List.pairwise_cons.mp has
    have hstep := h.serve hn (hx a List.mem_cons_self)
    rw [serveAll_cons, schedule]
    split at hstep
    · next hgiven => rw [if_pos hgiven, hstep.1, ih hstep.2 hrest ha]
    · next hgiven => rw [if_neg hgiven, hstep.1, ih hstep.2 hrest ha]

/-! ## Runs -/

/-- What a fresh limiter makes of requests. -/
def outcomes (n : Nat) (as : List Arrival) : List (Option Instant) :=
  (serveAll as { perMinute := n }).1

/-- The requests that a fresh limiter admits, each with the instant of its admission. -/
def granted (n : Nat) (as : List Arrival) : List (Arrival × Instant) :=
  admissions as (outcomes n as)

/-- What a limiter of `n` requests a minute promises to requests in the order of their arrival, any
of which may be given up. -/
structure SlidingWindow (n : Nat) (as : List Arrival) : Prop where
  /-- Every request is decided about. -/
  length : (outcomes n as).length = as.length
  /-- The admissions take place in the order of arrival. -/
  order : ((granted n as).map Prod.fst).Sublist as ∧
    (timesOf (granted n as)).Pairwise (· ≤ ·)
  /-- Each admission takes place when it is due by those before it, and the request has been held
  back since its arrival. -/
  due : ∀ (k : Nat) (a : Arrival) (t : Instant), (granted n as)[k]? = some (a, t) →
    t = dueAt n ((timesOf (granted n as)).take k) a.arrivedAt ∧ a.arrivedAt + a.heldBack t = t
  /-- Only a request that is given up before it is due is not admitted. -/
  givenUp : ∀ (before : List Arrival) (a : Arrival) (after : List Arrival),
    as = before ++ a :: after →
      ((outcomes n as)[before.length]? = some none ↔
        GivenUpBefore a (dueAt n (timesOf (granted n before)) a.arrivedAt))
  /-- Without a request that is not admitted, the same becomes of all others. -/
  unnoticed : ∀ i : Nat, (outcomes n as)[i]? = some none →
    outcomes n (as.eraseIdx i) = (outcomes n as).eraseIdx i
  /-- Without all that are not admitted, all others are admitted at the same instants. -/
  alone : outcomes n ((granted n as).map Prod.fst) = (timesOf (granted n as)).map some
  /-- Every window has at most `n` admissions. -/
  atMost : ∀ T : Instant, (inWindow T (timesOf (granted n as))).length ≤ n

theorem outcomes_eq_schedule {n : Nat} (hn : 0 < n) {as : List Arrival} (has : InOrder as) :
    outcomes n as = schedule n [] as :=
  serveAll_eq_schedule hn (served_fresh n) has fun _ _ => Nat.zero_le _

/-- **The sliding window.**  A limiter keeps its promise to all requests. -/
theorem slidingWindow_of_inOrder {n : Nat} (hn : 0 < n) {as : List Arrival} (has : InOrder as) :
    SlidingWindow n as := by
  have hrun := outcomes_eq_schedule hn has
  have hspaced := (spaced_nil n).schedule hn as
  rw [← hrun, List.nil_append] at hspaced
  have hsub := admissions_sublist as (outcomes n as)
  refine ⟨length_serveAll as _, ⟨hsub, hspaced.sorted⟩, ?_, ?_, ?_, ?_, hspaced.atMost⟩
  · intro k a t h
    rw [granted, hrun] at h ⊢
    have hdue := eq_dueAt_of_mem_schedule h
    rw [List.nil_append] at hdue
    refine ⟨hdue, Nat.add_sub_of_le ?_⟩
    rw [hdue]
    exact le_dueAt n _ _
  · rintro before a after rfl
    have hbefore : InOrder before := (List.pairwise_append.mp has).1
    rw [hrun, schedule_eq_none_iff, granted, outcomes_eq_schedule hn hbefore, List.nil_append]
  · intro i h
    obtain ⟨hi, -⟩ := List.getElem?_eq_some_iff.mp h
    rw [outcomes, length_serveAll] at hi
    obtain ⟨before, a, after, rfl, rfl⟩ : ∃ before a after, as = before ++ a :: after ∧
        i = before.length :=
      ⟨as.take i, as[i], as.drop (i + 1), by simp, by simp [Nat.le_of_lt hi]⟩
    rw [List.eraseIdx_append_of_length_le (Nat.le_refl _), Nat.sub_self, List.eraseIdx_zero,
      List.tail_cons]
    exact serveAll_eraseIdx (List.pairwise_append.mp has).2.1 h
  · have halone := outcomes_eq_schedule hn (has.sublist hsub)
    rw [granted, halone, hrun]
    exact schedule_admissions n [] as

/-- Four requests for two places: the third is given up while it waits, and the fourth has its place
when the first has left the window. -/
theorem slidingWindow_two :
    (0 < 2 ∧ InOrder [⟨0, none⟩, ⟨5, none⟩, ⟨7, some 20⟩, ⟨9, none⟩]) ∧
      outcomes 2 [⟨0, none⟩, ⟨5, none⟩, ⟨7, some 20⟩, ⟨9, none⟩] =
        [some 0, some 5, none, some window] ∧
      SlidingWindow 2 [⟨0, none⟩, ⟨5, none⟩, ⟨7, some 20⟩, ⟨9, none⟩] := by
  have horder : InOrder [⟨0, none⟩, ⟨5, none⟩, ⟨7, some 20⟩, ⟨9, none⟩] := by
    simp [InOrder]
  exact ⟨⟨by decide, horder⟩, rfl, slidingWindow_of_inOrder (by decide) horder⟩

end Limiter
end Biblio
