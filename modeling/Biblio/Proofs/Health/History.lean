import Biblio.Health.Basic
import Biblio.Proofs.Moment.Order
import Mathlib.Data.List.DropRight
import Mathlib.Data.List.TFAE
import Mathlib.Tactic.TFAE

/-!
# Health records in closed form

A health record is only ever changed by two transitions, so it is a function of the queries that
came before.  This file says which one, without the transitions.

* `Health.history` runs the transitions over a list of queries, oldest first.
* `Health.streak` are the failures since the last success, and `Health.summary` reads every field
  off the list of queries: the streak decides everything but the counts and the last success.
* `history_eq_summary_and_tfae` — the two agree on every list of queries, whatever their times and
  spans; in particular the four fields that tell of a streak are empty together.
-/

set_option autoImplicit false

namespace Biblio

/-- A query that has ended. -/
inductive Query where
  | succeeded (now : Moment)
  /-- The source is suspended for a span. -/
  | failed (now : Moment) (span : Span)
  deriving DecidableEq, Repr

namespace Query

/-- The time of a success. -/
def success? : Query → Option Moment
  | succeeded now => some now
  | failed _ _ => none

/-- The time of a failure, and the span of the suspension. -/
def failure? : Query → Option (Moment × Span)
  | succeeded _ => none
  | failed now span => some (now, span)

/-- Whether the query succeeded. -/
def isSuccess (q : Query) : Bool := q.success?.isSome

/-- Whether the query failed. -/
def isFailure (q : Query) : Bool := q.failure?.isSome

end Query

namespace Health

/-- The record after one more query. -/
def after (h : Health) : Query → Health
  | .succeeded now => h.succeed now
  | .failed now span => h.fail now span

/-- The record of a source after all queries that it was ever asked, oldest first. -/
def history (id : Int) (qs : List Query) : Health := qs.foldl after (fresh id)

theorem history_snoc (id : Int) (qs : List Query) (q : Query) :
    history id (qs ++ [q]) = (history id qs).after q := by
  rw [history, List.foldl_append]
  rfl

/-! ## The closed form -/

/-- The failures since the last success, oldest first. -/
def streak (qs : List Query) : List (Moment × Span) :=
  (qs.rtakeWhile Query.isFailure).filterMap Query.failure?

/-- The moments at which the suspensions for a number of failures end. -/
def ends (failures : List (Moment × Span)) : List Moment :=
  failures.map fun f => f.1.add f.2

/-- What the queries come to, without the transitions. -/
def summary (id : Int) (qs : List Query) : Health where
  providerId := id
  lastSuccess := (qs.filterMap Query.success?).getLast?
  successes := min (qs.countP Query.isSuccess) greatestQueries
  failures := min (qs.countP Query.isFailure) greatestQueries
  level := min (streak qs).length greatestLevel
  firstFailure := (streak qs).head?.map Prod.fst
  lastFailure := (streak qs).getLast?.map Prod.fst
  suspendedTill := (ends (streak qs)).max?

@[simp] theorem streak_succeeded (qs : List Query) (now : Moment) :
    streak (qs ++ [.succeeded now]) = [] := by
  rw [streak, List.rtakeWhile_concat_neg]
  · rfl
  · simp [Query.isFailure, Query.failure?]

@[simp] theorem streak_failed (qs : List Query) (now : Moment) (span : Span) :
    streak (qs ++ [.failed now span]) = streak qs ++ [(now, span)] := by
  rw [streak, List.rtakeWhile_concat_pos, List.filterMap_append]
  · rfl
  · rfl

/-- Counting on from a count that has stopped at the greatest one. -/
theorem min_succ_min (n greatest : Nat) : min (min n greatest + 1) greatest = min (n + 1) greatest := by
  omega

/-! ## The two agree -/

theorem summary_succeeded (id : Int) (qs : List Query) (now : Moment) :
    summary id (qs ++ [.succeeded now]) = (summary id qs).succeed now := by
  simp [summary, succeed, ends, Query.success?, Query.isSuccess, Query.isFailure, Query.failure?,
    min_succ_min]

theorem summary_failed (id : Int) (qs : List Query) (now : Moment) (span : Span) :
    summary id (qs ++ [.failed now span]) = (summary id qs).fail now span := by
  have hfirst : ((streak qs).head?.getD (now, span)).1 =
      ((streak qs).head?.map Prod.fst).getD now := by
    cases streak qs <;> rfl
  have htill := Moment.max?_snoc (ends (streak qs)) (now.add span)
  simp only [ends] at htill
  -- an end so far is compared with the new one, and none is not
  cases hmax : ((streak qs).map fun f => f.1.add f.2).max? with
  | none =>
    rw [hmax] at htill
    simp [summary, fail, streak_failed, ends, htill, hmax, Query.success?, Query.isSuccess,
      Query.isFailure, Query.failure?, min_succ_min, hfirst]
  | some current =>
    rw [hmax] at htill
    simp [summary, fail, streak_failed, ends, htill, hmax, Query.success?, Query.isSuccess,
      Query.isFailure, Query.failure?, min_succ_min, hfirst]

theorem history_eq_summary (id : Int) (qs : List Query) : history id qs = summary id qs := by
  induction qs using List.reverseRecOn with
  | nil => rfl
  | append_singleton qs q ih =>
    rw [history_snoc, ih]
    cases q with
    | succeeded now => exact (summary_succeeded id qs now).symm
    | failed now span => exact (summary_failed id qs now span).symm

/-- Each of the fields that tell of a streak is empty exactly if there is none. -/
theorem summary_tfae (id : Int) (qs : List Query) :
    [(summary id qs).level = 0, (summary id qs).firstFailure = none,
      (summary id qs).lastFailure = none, (summary id qs).suspendedTill = none].TFAE := by
  have hlevel : (summary id qs).level = 0 ↔ streak qs = [] := by
    simp only [summary, greatestLevel, ← List.length_eq_zero_iff]
    omega
  have hfirst : (summary id qs).firstFailure = none ↔ streak qs = [] := by simp [summary]
  have hlast : (summary id qs).lastFailure = none ↔ streak qs = [] := by simp [summary]
  have htill : (summary id qs).suspendedTill = none ↔ streak qs = [] := by simp [summary, ends]
  tfae_have 1 ↔ 2 := hlevel.trans hfirst.symm
  tfae_have 2 ↔ 3 := hfirst.trans hlast.symm
  tfae_have 3 ↔ 4 := hlast.trans htill.symm
  tfae_finish

/-- **The health record in closed form.**  Whatever the times and the spans, the record is the
summary of the queries, and the fields that tell of failures since the last success are empty
together or not at all. -/
theorem history_eq_summary_and_tfae (id : Int) (qs : List Query) :
    history id qs = summary id qs ∧
      [(history id qs).level = 0, (history id qs).firstFailure = none,
        (history id qs).lastFailure = none, (history id qs).suspendedTill = none].TFAE := by
  have h := history_eq_summary id qs
  rw [h]
  exact ⟨rfl, summary_tfae id qs⟩

end Health
end Biblio
