import Biblio.Proofs.Provider.Reply

/-!
# The first answer

Providers are asked in turn until one of them brings an entity.

* `Asked` is the journal of asking: who was asked in which state, and what each of them replied.
* `eval_tryEach_of_reply` is the step.  `eval_tryEach_of_found` and `eval_tryEach_of_inVain` follow
  the loop to its end, and `asked_cases` says that there is no other way for it to end, but for an
  overflow of the clock while one of the providers is asked.
-/

set_option autoImplicit false

namespace Biblio

variable {W T : Type}

/-! ## The journal -/

/-- The state after a failover was counted, when the providers before were asked in vain. -/
def State.failover (s : State W) (o : Operation) (tried : Nat) : State W :=
  if 0 < tried then s.count [(Metrics.failover o, 1)] else s

/-- A provider that is asked after a number of others: the state before, what it replies, and the
state after. -/
structure Replies (f : Fetch W T) (k : Nat) (p : Provider W) (s : State W) (r : Reply T)
    (s' : State W) : Prop where
  reply : p.reply f (s.failover f.operation k) = .ok r
  ask : (f.ask p).eval (s.failover f.operation k) = (.ok r.answer, s')

/-- Providers that are asked one after the other, after a number of others. -/
inductive Asked (f : Fetch W T) :
    Nat → List (Provider W) → State W → List (Reply T) → State W → Prop
  | nil (k : Nat) (s : State W) : Asked f k [] s [] s
  | cons {k : Nat} {p : Provider W} {rest : List (Provider W)} {s s₁ s₂ : State W} {r : Reply T}
      {rs : List (Reply T)} (first : Replies f k p s r s₁) (others : Asked f (k + 1) rest s₁ rs s₂) :
      Asked f k (p :: rest) s (r :: rs) s₂

/-- Replies that bring no entity. -/
def InVain [Keyed T] (rs : List (Reply T)) : Prop := ∀ r ∈ rs, r.entity? = none

/-- The last failure among replies. -/
def lastFailure (rs : List (Reply T)) : Option SourceError := (rs.filterMap Reply.failure?).getLast?

theorem lastFailure_cons (r : Reply T) (rs : List (Reply T)) :
    lastFailure (r :: rs) = (lastFailure rs).or r.failure? := by
  rw [lastFailure, List.filterMap_cons]
  cases r.failure? with
  | none => rw [Option.or_none, lastFailure]
  | some e =>
    simp only [List.getLast?_cons]
    rw [← lastFailure]
    cases lastFailure rs <;> rfl

/-! ## The loop -/

section Loop

variable [Keyed T] {f : Fetch W T} {p : Provider W} {rest : List (Provider W)} {k : Nat}
  {cause : Option SourceError} {s s' : State W}

/-- A provider is asked after the failover was counted. -/
theorem eval_tryEach_cons : (tryEach f.operation f.ask (p :: rest) ⟨k, cause⟩).eval s =
    (f.ask p >>= fun a => match a with
      | .ok found =>
        match wellFormed? found with
        | some t => pure (.ok t)
        | none => tryEach f.operation f.ask rest ⟨k + 1, cause⟩
      | .error e => tryEach f.operation f.ask rest ⟨k + 1, laterCause cause e⟩ :
        Action W (Except Failure T)).eval (s.failover f.operation k) := by
  rw [tryEach]
  by_cases hk : 0 < k
  · have hstate : s.failover f.operation k = s.count [(Metrics.failover f.operation, 1)] := if_pos hk
    rw [hstate]
    exact congrArg (fun a : Action W _ => a.eval s) (if_pos hk)
  · have hstate : s.failover f.operation k = s := if_neg hk
    rw [hstate]
    exact congrArg (fun a : Action W _ => a.eval s) (if_neg hk)

/-- **The step.**  A reply that brings an entity ends the loop, any other is passed over, and the
last failure is kept. -/
theorem eval_tryEach_of_replies {r : Reply T} (h : Replies f k p s r s') :
    (tryEach f.operation f.ask (p :: rest) ⟨k, cause⟩).eval s =
      match r.entity? with
      | some t => (.ok (.ok t), s')
      | none => (tryEach f.operation f.ask rest ⟨k + 1, r.failure?.or cause⟩).eval s' := by
  rw [eval_tryEach_cons, Action.eval_bind_of_ok h.ask]
  cases hanswer : r.answer with
  | ok found =>
    obtain ⟨hfound, hfailure⟩ := Reply.of_answer_ok hanswer
    simp only [hfound, hfailure, Option.none_or]
    cases r.entity? <;> rfl
  | error e =>
    obtain ⟨hfound, hcause⟩ := Reply.of_answer_error hanswer cause
    simp only [hfound, hcause]

/-- The loop breaks off when asking a provider does. -/
theorem eval_tryEach_of_error {e : ClockOverflow}
    (h : (f.ask p).eval (s.failover f.operation k) = (.error e, s')) :
    (tryEach f.operation f.ask (p :: rest) ⟨k, cause⟩).eval s = (.error e, s') := by
  rw [eval_tryEach_cons, Action.eval_bind_of_error h]

end Loop

variable [Keyed T] {f : Fetch W T}

/-- Replies that bring nothing are passed over, with the last failure among them. -/
theorem eval_tryEach_append {k : Nat} {pre rest : List (Provider W)} {s s' : State W}
    {rs : List (Reply T)} (h : Asked f k pre s rs s') (hvain : InVain rs)
    (cause : Option SourceError) :
    (tryEach f.operation f.ask (pre ++ rest) ⟨k, cause⟩).eval s =
      (tryEach f.operation f.ask rest ⟨k + pre.length, (lastFailure rs).or cause⟩).eval s' := by
  induction h generalizing cause with
  | nil => rfl
  | @cons k p rest s s₁ s₂ r rs first others ih =>
    rw [List.cons_append, eval_tryEach_of_replies first, hvain r List.mem_cons_self]
    simp only
    rw [ih (fun r' hr' => hvain r' (List.mem_cons_of_mem r hr')), List.length_cons,
      lastFailure_cons, Option.or_assoc, Nat.add_right_comm, Nat.add_assoc]

/-- **How the loop ends.**  Some provider brings an entity and all before it do not, or none does, or
the clock overflows while one of them is asked. -/
theorem asked_cases (f : Fetch W T) (k : Nat) (ps : List (Provider W)) (s : State W) :
    (∃ pre p post rs r t s₁ s₂, ps = pre ++ p :: post ∧ Asked f k pre s rs s₁ ∧ InVain rs ∧
      Replies f (k + pre.length) p s₁ r s₂ ∧ r.entity? = some t) ∨
    (∃ rs s₁, Asked f k ps s rs s₁ ∧ InVain rs) ∨
    ∃ pre p post rs s₁ e s₂, ps = pre ++ p :: post ∧ Asked f k pre s rs s₁ ∧ InVain rs ∧
      (f.ask p).eval (s₁.failover f.operation (k + pre.length)) = (.error e, s₂) := by
  have hnone : InVain ([] : List (Reply T)) := fun _ h => nomatch h
  induction ps generalizing k s with
  | nil => exact .inr (.inl ⟨[], s, .nil k s, hnone⟩)
  | cons p rest ih =>
    cases hask : (f.ask p).eval (s.failover f.operation k) with
    | mk a s₁ =>
      cases a with
      | error e => exact .inr (.inr ⟨[], p, rest, [], s, e, s₁, rfl, .nil k s, hnone, hask⟩)
      | ok a =>
        obtain ⟨r, hreply, rfl⟩ := Fetch.answer_of_ask hask
        have first : Replies f k p s r s₁ := ⟨hreply, hask⟩
        cases hentity : r.entity? with
        | some t =>
          exact .inl ⟨[], p, rest, [], r, t, s, s₁, rfl, .nil k s, hnone, first, hentity⟩
        | none =>
          have hcons : ∀ {rs : List (Reply T)}, InVain rs → InVain (r :: rs) := fun hrs =>
            List.forall_mem_cons.mpr ⟨hentity, hrs⟩
          have hlen : ∀ pre : List (Provider W), k + (p :: pre).length = k + 1 + pre.length :=
            fun pre => by rw [List.length_cons]; omega
          rcases ih (k + 1) s₁ with ⟨pre, q, post, rs, r', t, s₂, s₃, rfl, hasked, hrs, hq, ht⟩ |
            ⟨rs, s₂, hasked, hrs⟩ | ⟨pre, q, post, rs, s₂, e, s₃, rfl, hasked, hrs, hq⟩
          · exact .inl ⟨p :: pre, q, post, r :: rs, r', t, s₂, s₃, rfl, .cons first hasked,
              hcons hrs, hlen pre ▸ hq, ht⟩
          · exact .inr (.inl ⟨r :: rs, s₂, .cons first hasked, hcons hrs⟩)
          · exact .inr (.inr ⟨p :: pre, q, post, r :: rs, s₂, e, s₃, rfl, .cons first hasked,
              hcons hrs, hlen pre ▸ hq⟩)

/-! ## The answer -/

/-- The answer is the end of the loop, put into the words of the caller. -/
theorem eval_firstAnswer (category : Category) (f : Fetch W T) (id : String)
    {ps : List (Provider W)} (hps : ps ≠ []) (s : State W) :
    (firstAnswer category f.operation id f.ask ps).eval s =
      (tryEach f.operation f.ask ps ⟨0, none⟩ >>= fun result => match result with
        | .ok t => pure (.ok t)
        | .error fail => pure (.error (.nothingFound category id fail.tried fail.cause)) :
        Action W (Except GatherError T)).eval s := by
  have hempty : ps.isEmpty = false := by simpa using hps
  rw [firstAnswer, hempty]
  rfl

theorem eval_firstAnswer_nil (category : Category) (f : Fetch W T) (id : String) (s : State W) :
    (firstAnswer category f.operation id f.ask []).eval s =
      (.ok (.error (.noProviders category)), s) := rfl

/-- **An entity is found.** -/
theorem eval_firstAnswer_of_found (category : Category) (id : String) {pre post : List (Provider W)}
    {p : Provider W} {s s₁ s₂ : State W} {rs : List (Reply T)} {r : Reply T} {t : T}
    (h : Asked f 0 pre s rs s₁) (hvain : InVain rs) (hp : Replies f pre.length p s₁ r s₂)
    (ht : r.entity? = some t) :
    (firstAnswer category f.operation id f.ask (pre ++ p :: post)).eval s = (.ok (.ok t), s₂) := by
  have hloop : (tryEach f.operation f.ask (pre ++ p :: post) ⟨0, none⟩).eval s =
      (.ok (.ok t), s₂) := by
    rw [eval_tryEach_append h hvain, Nat.zero_add, eval_tryEach_of_replies hp, ht]
  rw [eval_firstAnswer _ _ _ (by simp), Action.eval_bind_of_ok hloop]
  rfl

/-- **Nothing is found.** -/
theorem eval_firstAnswer_of_inVain (category : Category) (id : String) {ps : List (Provider W)}
    (hps : ps ≠ []) {s s₁ : State W} {rs : List (Reply T)} (h : Asked f 0 ps s rs s₁)
    (hvain : InVain rs) :
    (firstAnswer category f.operation id f.ask ps).eval s =
      (.ok (.error (.nothingFound category id ps.length (lastFailure rs))), s₁) := by
  have hloop : (tryEach f.operation f.ask ps ⟨0, none⟩).eval s =
      (.ok (.error ⟨ps.length, lastFailure rs⟩), s₁) := by
    have happend : (tryEach f.operation f.ask (ps ++ []) ⟨0, none⟩).eval s = _ :=
      eval_tryEach_append h hvain none
    rw [List.append_nil, Nat.zero_add, Option.or_none] at happend
    exact happend
  rw [eval_firstAnswer _ _ _ hps, Action.eval_bind_of_ok hloop]
  rfl

/-- The clock overflows. -/
theorem eval_firstAnswer_of_error (category : Category) (id : String) {pre post : List (Provider W)}
    {p : Provider W} {s s₁ s₂ : State W} {rs : List (Reply T)} {e : ClockOverflow}
    (h : Asked f 0 pre s rs s₁) (hvain : InVain rs)
    (hp : (f.ask p).eval (s₁.failover f.operation pre.length) = (.error e, s₂)) :
    (firstAnswer category f.operation id f.ask (pre ++ p :: post)).eval s = (.error e, s₂) := by
  have hloop : (tryEach f.operation f.ask (pre ++ p :: post) ⟨0, none⟩).eval s = (.error e, s₂) := by
    rw [eval_tryEach_append h hvain, Nat.zero_add, eval_tryEach_of_error hp]
  rw [eval_firstAnswer _ _ _ (by simp), Action.eval_bind_of_error hloop]

end Biblio
