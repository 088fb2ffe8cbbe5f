import Biblio.Service.State

/-!
# Runs of actions

`Action.eval` runs an action from a state, and the lemmas here say what becomes of the parts that
actions are made of, so that nothing else has to look at the transformers behind them.
-/

set_option autoImplicit false

namespace Biblio
namespace Action

variable {W α β : Type}

/-- Runs an action from a state: what it gives, or why it breaks off, and the state after it. -/
def eval (a : Action W α) (s : State W) : Except ClockOverflow α × State W := Id.run (a.run.run s)

@[simp] theorem eval_pure (x : α) (s : State W) : eval (pure x : Action W α) s = (.ok x, s) := rfl

@[simp] theorem eval_get (s : State W) : eval (get : Action W (State W)) s = (.ok s, s) := rfl

@[simp] theorem eval_set (s s' : State W) : eval (set s' : Action W PUnit) s = (.ok ⟨⟩, s') := rfl

@[simp] theorem eval_modify (f : State W → State W) (s : State W) :
    eval (modify f : Action W PUnit) s = (.ok ⟨⟩, f s) := rfl

@[simp] theorem eval_modifyGet (f : State W → α × State W) (s : State W) :
    eval (modifyGet f : Action W α) s = (.ok (f s).1, (f s).2) := rfl

@[simp] theorem eval_count (c : Series) (s : State W) :
    eval (count c) s = (.ok ⟨⟩, s.count [(c, 1)]) := rfl

/-- One action after another. -/
theorem eval_bind (a : Action W α) (f : α → Action W β) (s : State W) :
    eval (a >>= f) s =
      match eval a s with
      | (.ok x, s') => eval (f x) s'
      | (.error e, s') => (.error e, s') := by
  have hcont : eval (a >>= f) s = (ExceptT.bindCont f (eval a s).1).run (eval a s).2 := rfl
  rw [hcont]
  obtain ⟨r, s'⟩ := eval a s
  cases r <;> rfl

theorem eval_bind_of_ok {a : Action W α} {f : α → Action W β} {s s' : State W} {x : α}
    (h : eval a s = (.ok x, s')) : eval (a >>= f) s = eval (f x) s' := by
  rw [eval_bind, h]

theorem eval_bind_of_error {a : Action W α} {f : α → Action W β} {s s' : State W}
    {e : ClockOverflow} (h : eval a s = (.error e, s')) :
    eval (a >>= f) s = (.error e, s') := by
  rw [eval_bind, h]

/-- Two actions give something, one after the other, only if both do. -/
theorem eval_bind_eq_ok {a : Action W α} {f : α → Action W β} {s s'' : State W} {y : β} :
    eval (a >>= f) s = (.ok y, s'') ↔
      ∃ x s', eval a s = (.ok x, s') ∧ eval (f x) s' = (.ok y, s'') := by
  rw [eval_bind]
  constructor
  · intro h
    cases ha : eval a s with
    | mk r s' =>
      rw [ha] at h
      cases r with
      | error e => exact nomatch congrArg Prod.fst h
      | ok x => exact ⟨x, s', rfl, h⟩
  · rintro ⟨x, s', ha, h⟩
    rw [ha]
    exact h

/-- What an action gives may be changed afterwards. -/
theorem eval_map (f : α → β) (a : Action W α) (s : State W) :
    eval (f <$> a) s = ((eval a s).1.map f, (eval a s).2) := by
  rw [map_eq_pure_bind, eval_bind]
  obtain ⟨r, s'⟩ := eval a s
  cases r <;> rfl

theorem eval_map_eq_ok {f : α → β} {a : Action W α} {s s' : State W} {y : β} :
    eval (f <$> a) s = (.ok y, s') ↔ ∃ x, eval a s = (.ok x, s') ∧ f x = y := by
  rw [map_eq_pure_bind, eval_bind_eq_ok]
  constructor
  · rintro ⟨x, s₁, ha, h⟩
    obtain ⟨hy, rfl⟩ := Prod.mk.inj h
    exact ⟨x, ha, Except.ok.inj hy⟩
  · rintro ⟨x, ha, rfl⟩
    exact ⟨x, s', ha, rfl⟩

end Action
end Biblio
