import Biblio.Gathering.Search
import Biblio.Proofs.Gathering.Distinct
import Biblio.Proofs.Provider.Found

/-!
# All answers

Questions for results are put to all providers, one after the other, and what one of them comes to
does not keep the others from being asked.

* `Part` is one question to one provider, and `AskedAll` is the journal of asking: what each of them
  found, in successive states.
* `eval_askAll_of_asked` — the results are joined in the order of asking.
* `asked_or_overflow` — all are asked, unless the clock overflows while one of them is.
* `askAll_map` and `askAll_flatMap` bring searches of the service to this form.
-/

set_option autoImplicit false

namespace Biblio

variable {W T U P : Type}

/-! ## Questions -/

/-- One question to one provider. -/
structure Part (W T : Type) where
  ask : Action W (Except SourceError (List T))
  /-- What becomes of it, read off the state in which it is asked. -/
  found : State W → Except ClockOverflow (Found T)
  answer_of_ask : ∀ {s s' : State W} {a : Except SourceError (List T)},
    ask.eval s = (.ok a, s') → ∃ r, found s = .ok r ∧ r.answer = a

namespace Part

/-- A search. -/
def search (f : Search W T) (p : Provider W) : Part W T where
  ask := f.ask p
  found := p.found f
  answer_of_ask := Search.answer_of_ask

/-- A question whose results are read in another way. -/
def map (g : T → U) (part : Part W T) : Part W U where
  ask := Except.map (List.map g) <$> part.ask
  found := fun s => (part.found s).map (Found.map g)
  answer_of_ask := by
    intro s s' a h
    obtain ⟨a, hask, rfl⟩ := Action.eval_map_eq_ok.mp h
    obtain ⟨r, hfound, rfl⟩ := part.answer_of_ask hask
    exact ⟨r.map g, by simp only [hfound, Except.map], r.answer_map g⟩

end Part

/-! ## The journal -/

/-- Questions that are asked one after the other: what each of them finds, whatever the others
found. -/
inductive AskedAll : List (Part W T) → State W → List (Found T) → State W → Prop
  | nil (s : State W) : AskedAll [] s [] s
  | cons {part : Part W T} {rest : List (Part W T)} {s s₁ s₂ : State W} {r : Found T}
      {rs : List (Found T)} (found : part.found s = .ok r)
      (ask : part.ask.eval s = (.ok r.answer, s₁)) (others : AskedAll rest s₁ rs s₂) :
      AskedAll (part :: rest) s (r :: rs) s₂

/-- All questions, one after the other. -/
def askParts (parts : List (Part W T)) : Action W (List T) := askAll Part.ask parts

theorem askParts_cons (part : Part W T) (rest : List (Part W T)) :
    askParts (part :: rest) = (do
      let found ← part.ask
      let others ← askParts rest
      return found.toOption.getD [] ++ others) := rfl

/-- **All results, in the order of asking.** -/
theorem AskedAll.eval_askParts {parts : List (Part W T)} {s s' : State W} {rs : List (Found T)}
    (h : AskedAll parts s rs s') :
    (askParts parts).eval s = (.ok (rs.flatMap Found.results), s') := by
  induction h with
  | nil s => rfl
  | @cons part rest s s₁ s₂ r rs found ask others ih =>
    rw [askParts_cons, Action.eval_bind_of_ok ask, Action.eval_bind_of_ok ih, Action.eval_pure,
      Found.results_of_answer, List.flatMap_cons]

/-- **Every question is asked**, unless the clock overflows while one of them is; then all before it
were asked. -/
theorem asked_or_overflow (parts : List (Part W T)) (s : State W) :
    (∃ rs s', AskedAll parts s rs s') ∨
    ∃ pre part post rs s₁ e s₂, parts = pre ++ part :: post ∧ AskedAll pre s rs s₁ ∧
      part.ask.eval s₁ = (.error e, s₂) ∧ (askParts parts).eval s = (.error e, s₂) := by
  induction parts generalizing s with
  | nil => exact .inl ⟨[], s, .nil s⟩
  | cons part rest ih =>
    cases hask : part.ask.eval s with
    | mk a s₁ =>
      cases a with
      | error e =>
        refine .inr ⟨[], part, rest, [], s, e, s₁, rfl, .nil s, hask, ?_⟩
        rw [askParts_cons, Action.eval_bind_of_error hask]
      | ok a =>
        -- whatever the first one answers, the others are asked next
        obtain ⟨r, hfound, rfl⟩ := part.answer_of_ask hask
        rcases ih s₁ with ⟨rs, s', hrest⟩ |
          ⟨pre, last, post, rs, s₂, e, s₃, rfl, hpre, hlast, hbreaks⟩
        · exact .inl ⟨r :: rs, s', .cons hfound hask hrest⟩
        · refine .inr ⟨part :: pre, last, post, r :: rs, s₂, e, s₃, rfl, .cons hfound hask hpre,
            hlast, ?_⟩
          rw [askParts_cons, Action.eval_bind_of_ok hask, Action.eval_bind_of_error hbreaks]

/-! ## Searches of the service -/

theorem askParts_append (ps qs : List (Part W T)) :
    askParts (ps ++ qs) = (do
      let found ← askParts ps
      let others ← askParts qs
      return found ++ others) := by
  induction ps with
  | nil => exact (bind_pure (askParts qs)).symm
  | cons part rest ih =>
    simp only [List.cons_append, askParts_cons, ih, bind_assoc, pure_bind, List.append_assoc]

theorem askAll_map (ask : P → Action W (Except SourceError (List T))) (part : P → Part W T)
    (h : ∀ p, (part p).ask = ask p) (ps : List P) : askAll ask ps = askParts (ps.map part) := by
  induction ps with
  | nil => rfl
  | cons p rest ih => rw [List.map_cons, askParts_cons, askAll, ih, h]

theorem askAll_flatMap (gather : P → Action W (List T)) (parts : P → List (Part W T))
    (h : ∀ p, gather p = askParts (parts p)) (ps : List P) :
    askAll (fun p => Except.ok <$> gather p) ps = askParts (ps.flatMap parts) := by
  induction ps with
  | nil => rfl
  | cons p rest ih =>
    rw [List.flatMap_cons, askParts_append, askAll, ih, h, bind_map_left]
    rfl

end Biblio
