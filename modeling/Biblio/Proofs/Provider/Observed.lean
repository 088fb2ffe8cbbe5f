import Biblio.Proofs.Provider.Reply
import Biblio.Proofs.Service.Frame
import Biblio.Proofs.Source.Journal

/-!
# Calls that are kept track of

`Provider.observe` runs a call of the source and keeps track of it.

* `observe_eq` — the call comes first, and `Provider.track` is all that follows.
* `ignoresCaches_observe` — the caches have no part in it.
* `asked_observe` — the source is called, once, and no time is taken back.
-/

set_option autoImplicit false

namespace Biblio
namespace Provider

variable {W α : Type} (p : Provider W) (o : Operation)

/-! ## Keeping track -/

/-- Keeps track of what a call has come to, and passes it on. -/
def track (r : Except SourceError (Option α)) : Action W (Except SourceError (Option α)) := do
  Action.count (Metrics.providerDuration p.name o)
  p.record r
  Action.count (Metrics.providerRequest p.name o (outcomeLabel r))
  return r

theorem observe_eq (call : Call W α) :
    p.observe o call = p.bounded call >>= fun r => p.track o (outcome r) := rfl

theorem aside_recordSuccess : p.recordSuccess.Aside := by
  refine Action.aside_modify (fun s => ?_) (fun s cs => ?_)
  · split <;> exact ⟨rfl, rfl, rfl, rfl⟩
  · split <;> rfl

theorem aside_recordFailure (least : Span) : (p.recordFailure least).Aside := by
  refine Action.aside_modify (fun s => ?_) (fun s cs => ?_)
  · split <;> exact ⟨rfl, rfl, rfl, rfl⟩
  · split <;> rfl

theorem aside_record (r : Except SourceError (Option α)) : (p.record r).Aside := by
  cases r with
  | ok found => exact p.aside_recordSuccess
  | error e =>
    rw [record]
    split
    · exact Action.aside_pure _
    · exact p.aside_recordFailure _

theorem aside_track (r : Except SourceError (Option α)) : (p.track o r).Aside :=
  (Action.aside_count _).bind fun _ => (p.aside_record r).bind fun _ =>
    (Action.aside_count _).bind fun _ => Action.aside_pure r

/-! ## The call -/

/-- A call that runs under a limit. -/
theorem eval_bounded_of_start {s : State W} {limit : TimeLimit} (call : Call W α)
    (hstart : p.limit s = .ok limit) :
    (p.bounded call).eval s = (p.ending s call,
      s.later (limit.run s.now s.world call).2.1 (limit.run s.now s.world call).2.2) := by
  refine Prod.ext (p.eval_bounded s call) ?_
  rw [bounded, Action.eval_bind_of_ok (Action.eval_get s)]
  simp only [hstart]
  obtain ⟨ending, now, world⟩ := limit.run s.now s.world call
  cases ending <;> rfl

/-- Without room on the clock for a limit the call does not begin. -/
theorem eval_bounded_of_overflow {s : State W} {e : ClockOverflow} (call : Call W α)
    (hstart : p.limit s = .error e) :
    (p.bounded call).eval s = (.error e, s) := by
  rw [bounded, Action.eval_bind_of_ok (Action.eval_get s)]
  simp only [hstart]
  rfl

theorem ignoresCaches_bounded (call : Call W α) : (p.bounded call).IgnoresCaches := by
  intro s cs
  cases hstart : p.limit s with
  | error e =>
    rw [p.eval_bounded_of_overflow call hstart,
      p.eval_bounded_of_overflow (s := { s with caches := cs }) call hstart]
  | ok limit =>
    rw [p.eval_bounded_of_start call hstart,
      p.eval_bounded_of_start (s := { s with caches := cs }) call hstart]
    rfl

/-- **The caches have no part in it.** -/
theorem ignoresCaches_observe (call : Call W α) : (p.observe o call).IgnoresCaches :=
  (p.ignoresCaches_bounded call).bind fun r => (p.aside_track o (outcome r)).ignoresCaches

/-- A call under a limit is written down. -/
theorem asked_bounded {s : State (W × List Question)} {limit : TimeLimit}
    (p : Provider (W × List Question)) (q : Question) (call : Call W α)
    (hstart : p.limit s = .ok limit) :
    ((p.bounded (call.noted q)).eval s).2.asked = s.asked ++ [q] := by
  have hrun := limit.run_noted s.now s.world.1 s.world.2 q call
  rw [p.eval_bounded_of_start _ hstart]
  exact congrArg (fun r => r.2.2.2) hrun

/-- **The source is called.** -/
theorem asked_observe {s : State (W × List Question)} {limit : TimeLimit}
    (p : Provider (W × List Question)) (q : Question) (call : Call W α)
    (hstart : p.limit s = .ok limit) :
    ((p.observe o (call.noted q)).eval s).2.asked = s.asked ++ [q] ∧
      s.now ≤ ((p.observe o (call.noted q)).eval s).2.now := by
  have hsame := Action.world_bind (a := p.bounded (call.noted q))
    (fun r => (p.aside_track o (outcome r)).keepsWorld) s
  rw [← observe_eq] at hsame
  rw [State.asked, hsame.now, hsame.world]
  refine ⟨p.asked_bounded q call hstart, ?_⟩
  rw [p.eval_bounded_of_start _ hstart]
  exact limit.le_run _ _ _ (TimeLimit.le_deadline_of_start hstart)

/-- A call that comes to an answer ran under a limit. -/
theorem start_of_observe {call : Call W α} {s s' : State W} {r : Except SourceError (Option α)}
    (h : (p.observe o call).eval s = (.ok r, s')) :
    ∃ limit, p.limit s = .ok limit := by
  rw [observe_eq] at h
  obtain ⟨x, s₁, hbounded, -⟩ := Action.eval_bind_eq_ok.mp h
  cases hstart : p.limit s with
  | ok limit => exact ⟨limit, rfl⟩
  | error e =>
    rw [p.eval_bounded_of_overflow call hstart] at hbounded
    exact nomatch congrArg Prod.fst hbounded

end Provider
end Biblio
