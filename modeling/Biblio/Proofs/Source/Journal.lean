import Biblio.Provider.Lookup
import Biblio.Source.Script

/-!
# Sources that keep a journal

Whether a source is called cannot be seen from its answers.  It can if the source writes down what
it is asked, in a part of the world that nothing else touches.

* `Activity.noted` writes a question down and goes on as the call does; `TimeLimit.run_noted` says
  that the call notices nothing of that.
* `Source.journaled` and `Provider.journaled` do so for every question.
* `TimeLimit.le_run` — no time is taken back by a call.
-/

set_option autoImplicit false

namespace Biblio

variable {W J α : Type}

/-! ## Calls -/

namespace Activity

/-- A call that leaves a second part of the world alone. -/
def beside : Activity W α → Activity (W × J) α
  | .done a => .done a
  | .look next => .look fun now w => beside (next now w.1)
  | .change f next => .change (fun w => (f w.1, w.2)) (beside next)
  | .hold next => .hold (beside next)
  | .release next => .release (beside next)
  | .wait span next => .wait span (beside next)

/-- A call that writes a question down first. -/
def noted (q : Question) (call : Activity W α) : Activity (W × List Question) α :=
  .change (fun w => (w.1, w.2 ++ [q])) call.beside

end Activity

namespace TimeLimit

theorem run_beside (l : TimeLimit) (now : Instant) (w : W) (j : J) (call : Activity W α) :
    l.run now (w, j) call.beside =
      ((l.run now w call).1, (l.run now w call).2.1, ((l.run now w call).2.2, j)) := by
  induction call generalizing l now w with
  | done a => rfl
  | look next ih => exact ih now w l now w
  | change f next ih => exact ih l now (f w)
  | hold next ih => exact ih _ now w
  | release next ih => exact ih _ now w
  | wait span next ih =>
    simp only [Activity.beside, run]
    cases l.pass (now + span) with
    | passed l => exact ih l (now + span) w
    | expired t => rfl
    | overflow t => rfl

/-- **The call goes on as it would without the journal.** -/
theorem run_noted (l : TimeLimit) (now : Instant) (w : W) (asked : List Question) (q : Question)
    (call : Activity W α) : l.run now (w, asked) (call.noted q) =
      ((l.run now w call).1, (l.run now w call).2.1, ((l.run now w call).2.2, asked ++ [q])) :=
  run_beside l now w (asked ++ [q]) call

/-! ## Time passes -/

/-- A call does not go on beyond its deadline. -/
theorem Precedes.le {l : TimeLimit} {goal : Instant} (h : l.Precedes goal) : goal ≤ l.deadline :=
  h.elim Nat.le_of_lt fun htie => Nat.le_of_eq htie.2

/-- Time passes up to the goal, not beyond the deadline, or else up to the deadline or one that it was
put off to. -/
theorem pass_cases (l : TimeLimit) (goal : Instant) :
    (∃ l', l.pass goal = .passed l' ∧ goal ≤ l'.deadline) ∨
      ∃ t, l.deadline ≤ t ∧ (l.pass goal = .expired t ∨ l.pass goal = .overflow t) := by
  -- the deadline only moves forward, so a call that is cut off ends at the first one or later
  fun_induction l.pass goal with
  | case1 l hearly => exact .inl ⟨l, rfl, hearly.le⟩
  | case2 l hlate hspent => exact .inr ⟨l.deadline, Nat.le_refl _, .inl rfl⟩
  | case3 l hlate hleft e hafter => exact .inr ⟨l.deadline, Nat.le_refl _, .inr rfl⟩
  | case4 l hlate hleft u hafter ih =>
    refine ih.imp_right fun ⟨t, ht, hends⟩ => ⟨t, Nat.le_trans ?_ ht, hends⟩
    exact Nat.le_add_right _ _

/-- **No time is taken back**, as long as the deadline lies ahead. -/
theorem le_run (l : TimeLimit) (now : Instant) (w : W) (call : Activity W α)
    (hdeadline : now ≤ l.deadline) : now ≤ (l.run now w call).2.1 := by
  induction call generalizing l now w with
  | done a => exact Nat.le_refl now
  | look next ih => exact ih now w l now w hdeadline
  | change f next ih => exact ih l now (f w) hdeadline
  | hold next ih => exact ih _ now w hdeadline
  | release next ih => exact ih _ now w hdeadline
  | wait span next ih =>
    rw [run]
    rcases l.pass_cases (now + span) with ⟨l', hpass, hle⟩ | ⟨t, ht, hpass | hpass⟩
    · rw [hpass]
      exact Nat.le_trans (Nat.le_add_right now span) (ih l' (now + span) w hle)
    · rw [hpass]
      exact Nat.le_trans hdeadline ht
    · rw [hpass]
      exact Nat.le_trans hdeadline ht

/-- The deadline of a limit that starts lies ahead. -/
theorem le_deadline_of_start {now : Instant} {allowed : Span} {callFirst : Bool} {l : TimeLimit}
    (h : start now allowed callFirst = .ok l) : now ≤ l.deadline := by
  rw [start] at h
  cases hafter : Instant.after now allowed with
  | error e =>
    rw [hafter] at h
    exact nomatch h
  | ok deadline =>
    rw [hafter] at h
    rw [← Except.ok.inj h, Instant.after_eq_ok hafter]
    exact Nat.le_add_right now allowed

end TimeLimit

/-! ## Sources -/

/-- The source with a journal of what it is asked. -/
def Source.journaled (source : Source W) : Source (W × List Question) where
  name := source.name
  capabilities := source.capabilities
  suggestedPriority := source.suggestedPriority
  fetchAuthor id := (source.fetchAuthor id).noted (.author id)
  fetchBook id := (source.fetchBook id).noted (.book id)
  searchAuthors query := (source.searchAuthors query).noted (.authors query)
  searchBooks title author allEditions :=
    (source.searchBooks title author allEditions).noted (.books title author allEditions)
  searchIsbn isbn := (source.searchIsbn isbn).noted (.isbn isbn)
  searchAsin asin := (source.searchAsin asin).noted (.asin asin)
  changedAuthors since := (source.changedAuthors since).noted (.changes since)
  test := source.test.noted .test

/-- The provider with a journal of what its source is asked. -/
def Provider.journaled (p : Provider W) : Provider (W × List Question) where
  definition := p.definition
  source := p.source.journaled
  number := p.number
  rules := p.rules

/-- What the sources were asked, oldest first. -/
def State.asked (s : State (W × List Question)) : List Question := s.world.2

end Biblio
