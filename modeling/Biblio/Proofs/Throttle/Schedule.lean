import Biblio.Throttle.Limiter
import Mathlib.Data.List.Basic

/-!
# The rule of a limiter

Which requests are admitted, and when, by a rule that looks at all past admissions.

* `dueAt` is the rule: a request is due when it has arrived, when the admission before it has taken
  place, and when the last admission but `n` has left the window.
* `schedule` applies it to one request after another; a request that is given up before it is due is
  passed over.
* `Spaced` says that admissions are in order, with at most `n` of them in any window.
  `Spaced.schedule` is why a schedule has no more.

That the limiter keeps to the rule is shown in `Biblio/Proofs/Throttle/SlidingWindow.lean`.
-/

set_option autoImplicit false

namespace Biblio
namespace Limiter

/-! ## The rule -/

/-- The instant from which there is room for one more admission after those at the given instants:
the last but `n` has left the window. -/
def roomFrom (n : Nat) (times : List Instant) : Instant :=
  if n ≤ times.length then times[times.length - n]?.getD 0 + window else 0

/-- The instant at which a request is due that arrives at `t` after admissions at the given
instants. -/
def dueAt (n : Nat) (times : List Instant) (t : Instant) : Instant :=
  max (max t (times.getLast?.getD 0)) (roomFrom n times)

theorem le_dueAt (n : Nat) (times : List Instant) (t : Instant) : t ≤ dueAt n times t :=
  Nat.le_trans (Nat.le_max_left _ _) (Nat.le_max_left _ _)

/-- Whether a request is given up before an instant. -/
def GivenUpBefore (a : Arrival) (t : Instant) : Prop :=
  ∃ deadline, a.givenUpAt = some deadline ∧ deadline < t

instance (a : Arrival) (t : Instant) : Decidable (GivenUpBefore a t) :=
  decidable_of_iff (a.givenUpAt.any (· < t) = true)
    (by cases h : a.givenUpAt <;> simp [GivenUpBefore, h])

/-- What becomes of requests by the rule, after admissions at the given instants. -/
def schedule (n : Nat) (times : List Instant) : List Arrival → List (Option Instant)
  | [] => []
  | a :: rest =>
    if GivenUpBefore a (dueAt n times a.arrivedAt) then none :: schedule n times rest
    else some (dueAt n times a.arrivedAt) ::
      schedule n (times ++ [dueAt n times a.arrivedAt]) rest

/-- Requests in the order of their arrival. -/
def InOrder (as : List Arrival) : Prop := as.Pairwise fun a b => a.arrivedAt ≤ b.arrivedAt

/-- The requests that are admitted, each with the instant of its admission. -/
def admissions (as : List Arrival) (results : List (Option Instant)) : List (Arrival × Instant) :=
  (as.zip results).filterMap fun p => p.2.map (p.1, ·)

/-! ## The rule keeps admissions apart -/

/-- The admissions in the window that begins at an instant. -/
def inWindow (T : Instant) (times : List Instant) : List Instant :=
  times.filter fun t => T ≤ t ∧ t < T + window

theorem inWindow_append (T : Instant) (times later : List Instant) :
    inWindow T (times ++ later) = inWindow T times ++ inWindow T later := List.filter_append ..

theorem length_inWindow_le (T : Instant) (times : List Instant) :
    (inWindow T times).length ≤ times.length := List.length_filter_le ..

/-- What has left the window at one of its instants is older than the window. -/
theorem inWindow_eq_nil {T s : Instant} {times : List Instant} (hs : s < T + window)
    (h : ∀ d ∈ times, d + window ≤ s) : inWindow T times = [] := by
  refine List.filter_eq_nil_iff.mpr fun d hd hTd => ?_
  have hTd : T ≤ d := (of_decide_eq_true hTd).1
  exact absurd (Nat.lt_of_le_of_lt (h d hd) hs) (Nat.not_lt.mpr (Nat.add_le_add_right hTd window))

/-- Admissions that are in order, with at most `n` of them in any window. -/
structure Spaced (n : Nat) (times : List Instant) : Prop where
  /-- The admissions are in order. -/
  sorted : times.Pairwise (· ≤ ·)
  /-- No window has more than `n`. -/
  atMost : ∀ T : Instant, (inWindow T times).length ≤ n

theorem spaced_nil (n : Nat) : Spaced n [] := ⟨.nil, fun _ => Nat.zero_le n⟩

theorem le_getLast_of_sorted {times : List Instant} (h : times.Pairwise (· ≤ ·)) {d : Instant}
    (hd : d ∈ times) : d ≤ times.getLast?.getD 0 := by
  rcases List.eq_nil_or_concat times with rfl | ⟨init, last, rfl⟩
  · exact nomatch hd
  · rw [List.concat_eq_append] at h hd ⊢
    rw [List.getLast?_concat, Option.getD_some]
    rcases List.mem_append.mp hd with hd | hd
    · exact (List.pairwise_append.mp h).2.2 d hd last (List.mem_singleton.mpr rfl)
    · exact Nat.le_of_eq (List.mem_singleton.mp hd)

/-- All but the last `n - 1` admissions have left the window when there is room. -/
theorem add_window_le_roomFrom {n : Nat} {times : List Instant} (hn : 0 < n)
    (h : times.Pairwise (· ≤ ·)) {d : Instant} (hd : d ∈ times.take (times.length + 1 - n)) :
    d + window ≤ roomFrom n times := by
  obtain ⟨i, hi, rfl⟩ := List.mem_iff_getElem.mp hd
  rw [List.length_take, Nat.lt_min] at hi
  have hle : n ≤ times.length := by omega
  have hlt : times.length - n < times.length := by omega
  rw [roomFrom, if_pos hle, List.getElem_take, List.getElem?_eq_getElem hlt, Option.getD_some]
  refine Nat.add_le_add_right ?_ window
  rcases Nat.lt_or_eq_of_le (show i ≤ times.length - n by omega) with hi' | rfl
  · exact List.pairwise_iff_getElem.mp h i _ hi.2 hlt hi'
  · exact Nat.le_refl _

/-- **One admission more.**  Admissions stay apart if the next one comes when it is due. -/
theorem Spaced.snoc {n : Nat} {times : List Instant} (hn : 0 < n) (h : Spaced n times)
    (t : Instant) : Spaced n (times ++ [dueAt n times t]) := by
  have hlast : times.getLast?.getD 0 ≤ dueAt n times t :=
    Nat.le_trans (Nat.le_max_right _ _) (Nat.le_max_left _ _)
  have hroom : roomFrom n times ≤ dueAt n times t := Nat.le_max_right _ _
  generalize dueAt n times t = s at hlast hroom
  refine ⟨List.pairwise_append.mpr ⟨h.sorted, List.pairwise_singleton _ _, ?_⟩, fun T => ?_⟩
  · intro d hd e he
    rw [List.mem_singleton.mp he]
    exact Nat.le_trans (le_getLast_of_sorted h.sorted hd) hlast
  · rw [inWindow_append, List.length_append]
    by_cases hT : s < T + window
    · have hold : inWindow T (times.take (times.length + 1 - n)) = [] :=
        inWindow_eq_nil hT fun d hd =>
          Nat.le_trans (add_window_le_roomFrom hn h.sorted hd) hroom
      have hlen := length_inWindow_le T (times.drop (times.length + 1 - n))
      have hone := length_inWindow_le T [s]
      rw [List.length_drop] at hlen
      rw [← List.take_append_drop (times.length + 1 - n) times, inWindow_append, hold,
        List.nil_append]
      rw [List.length_singleton] at hone
      omega
    · have hnone : inWindow T [s] = [] := by
        rw [inWindow, List.filter_singleton, decide_eq_false fun h => hT h.2]
        rfl
      rw [hnone, List.length_nil, Nat.add_zero]
      exact h.atMost T

/-! ## The admissions of a schedule -/

/-- The instants of the admissions. -/
def timesOf (admitted : List (Arrival × Instant)) : List Instant := admitted.map Prod.snd

@[simp] theorem admissions_none (a : Arrival) (as : List Arrival)
    (results : List (Option Instant)) :
    admissions (a :: as) (none :: results) = admissions as results := rfl

@[simp] theorem admissions_some (a : Arrival) (t : Instant) (as : List Arrival)
    (results : List (Option Instant)) :
    admissions (a :: as) (some t :: results) = (a, t) :: admissions as results := rfl

/-- Requests are admitted in the order in which they came. -/
theorem admissions_sublist (as : List Arrival) (results : List (Option Instant)) :
    ((admissions as results).map Prod.fst).Sublist as := by
  induction as generalizing results with
  | nil => exact .slnil
  | cons a rest ih =>
    match results with
    | [] => exact List.nil_sublist _
    | none :: results => exact (ih results).cons a
    | some t :: results => exact (ih results).cons_cons a

theorem length_schedule (n : Nat) (times : List Instant) (as : List Arrival) :
    (schedule n times as).length = as.length := by
  induction as generalizing times with
  | nil => rfl
  | cons a rest ih =>
    rw [schedule]
    split <;> rw [List.length_cons, List.length_cons, ih]

theorem schedule_append (n : Nat) (times : List Instant) (as bs : List Arrival) :
    schedule n times (as ++ bs) = schedule n times as ++
      schedule n (times ++ timesOf (admissions as (schedule n times as))) bs := by
  induction as generalizing times with
  | nil => rw [List.nil_append, schedule, List.nil_append]; simp [admissions, timesOf]
  | cons a rest ih =>
    rw [List.cons_append, schedule, schedule]
    split
    · rw [ih, admissions_none, List.cons_append]
    · rw [ih, admissions_some, List.cons_append]
      simp only [timesOf, List.map_cons, List.append_assoc, List.singleton_append]

/-- Each request that is admitted is admitted when it is due. -/
theorem eq_dueAt_of_mem_schedule {n k : Nat} {times : List Instant} {as : List Arrival}
    {a : Arrival} {t : Instant} (h : (admissions as (schedule n times as))[k]? = some (a, t)) :
    t = dueAt n (times ++ (timesOf (admissions as (schedule n times as))).take k) a.arrivedAt := by
  induction as generalizing times k with
  | nil => simp [admissions] at h
  | cons b rest ih =>
    rw [schedule] at h ⊢
    split at h
    · next hgiven =>
      rw [if_pos hgiven]
      exact ih h
    · next hgiven =>
      rw [if_neg hgiven]
      rw [admissions_some] at h ⊢
      cases k with
      | zero =>
        obtain ⟨rfl, rfl⟩ := Prod.mk.inj (Option.some.inj h)
        rw [List.take_zero, List.append_nil]
      | succ k =>
        rw [timesOf, List.map_cons, List.take_succ_cons, ← List.singleton_append,
          ← List.append_assoc]
        exact ih h

/-- A request is not admitted if and only if it is given up before it is due. -/
theorem schedule_eq_none_iff {n : Nat} {times : List Instant} {before after : List Arrival}
    {a : Arrival} :
    (schedule n times (before ++ a :: after))[before.length]? = some none ↔
      GivenUpBefore a
        (dueAt n (times ++ timesOf (admissions before (schedule n times before))) a.arrivedAt) := by
  rw [schedule_append, ← length_schedule n times before,
    List.getElem?_append_right (Nat.le_refl _), Nat.sub_self, schedule]
  split
  · next hgiven => exact iff_of_true rfl hgiven
  · next hgiven => exact iff_of_false (fun h => nomatch Option.some.inj h) hgiven

/-- The schedule of the admitted requests alone. -/
theorem schedule_admissions (n : Nat) (times : List Instant) (as : List Arrival) :
    schedule n times ((admissions as (schedule n times as)).map Prod.fst) =
      (timesOf (admissions as (schedule n times as))).map some := by
  induction as generalizing times with
  | nil => simp [admissions, timesOf, schedule]
  | cons a rest ih =>
    rw [schedule]
    split
    · rw [admissions_none]
      exact ih times
    · next hgiven =>
      rw [admissions_some, List.map_cons, schedule, if_neg hgiven, ih]
      rfl

/-- The admissions of a schedule stay apart. -/
theorem Spaced.schedule {n : Nat} {times : List Instant} (hn : 0 < n) (h : Spaced n times)
    (as : List Arrival) :
    Spaced n (times ++ timesOf (admissions as (schedule n times as))) := by
  induction as generalizing times with
  | nil => simpa [admissions, timesOf] using h
  | cons a rest ih =>
    rw [Limiter.schedule]
    split
    · exact ih h
    · rw [admissions_some, timesOf, List.map_cons, ← List.singleton_append, ← List.append_assoc]
      exact ih (h.snoc hn a.arrivedAt)

end Limiter
end Biblio
