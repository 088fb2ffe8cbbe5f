import Biblio.Gathering.Failover
import Biblio.Proofs.Service.Frame
import Biblio.Provider.Lookup
import Mathlib

/-!
# What a provider replies

A provider that is asked for an entity refuses, finds it in its cache, or calls its source.

* `Fetch` is such a question, and `Fetch.ask` puts it to a provider.
* `Provider.ending` is how the call of the source ends, and `Provider.reply` what becomes of the
  question; both are read off the state in which the provider is asked.
* `Fetch.answer_of_ask` — what is passed on is the answer of the reply.
-/

set_option autoImplicit false

namespace Biblio

variable {W T : Type}

/-- A question for one entity. -/
structure Fetch (W T : Type) where
  operation : Operation
  /-- The cache that is looked into first, if any. -/
  shelf : Option (Shelf T)
  key : String
  /-- The call of the source. -/
  call : Provider W → Call W (Option T)

namespace Fetch

/-- Asks for an author by identifier. -/
def author (id : String) (useCache : Bool) : Fetch W Author where
  operation := .getAuthor
  shelf := if useCache then some Shelf.authors else none
  key := id
  call := fun p => p.source.fetchAuthor id

/-- Asks for a book by identifier. -/
def book (id : String) : Fetch W BookInfo where
  operation := .getBook
  shelf := some Shelf.books
  key := id
  call := fun p => p.source.fetchBook id

/-- Asks a provider. -/
def ask (f : Fetch W T) (p : Provider W) : Action W (Except SourceError (Option T)) :=
  p.ifSupported f.operation
    (match f.shelf with
    | some shelf => p.throughEntity shelf f.key (p.entity f.operation (f.call p))
    | none => p.entity f.operation (f.call p))

theorem ask_author (id : String) (useCache : Bool) (p : Provider W) :
    (author id useCache).ask p = p.fetchAuthor id useCache := by
  cases useCache <;> rfl

/-- What the cache of a provider has. -/
def find (f : Fetch W T) (p : Provider W) (s : State W) : Except ClockOverflow (Option T) :=
  match f.shelf with
  | some shelf => ((shelf.get (s.cachesOf p)).get s.now f.key).map Prod.fst
  | none => .ok none

end Fetch

/-- What becomes of a question. -/
inductive Reply (T : Type) where
  /-- The source does not support the operation; it is not called. -/
  | refused (source : String) (operation : Operation)
  /-- The entity is in the cache; the source is not called. -/
  | cached (entity : T)
  /-- The source is called. -/
  | called (ending : Except SourceError (Option T))

namespace Reply

/-- What is passed on. -/
def answer : Reply T → Except SourceError (Option T)
  | .refused source operation => .error (.notSupported source operation)
  | .cached t => .ok (some t)
  | .called (.ok found) => .ok found
  | .called (.error e) => if e.isNotFound then .ok none else .error e

/-- The entity that a reply brings: one that carries an identifier. -/
def entity? [Keyed T] : Reply T → Option T
  | .cached t => if Keyed.foreignId t = "" then none else some t
  | .called (.ok (some t)) => if Keyed.foreignId t = "" then none else some t
  | _ => none

/-- The failure that is remembered: any but that there is nothing or that the source does not
support the operation. -/
def failure? : Reply T → Option SourceError
  | .called (.error e) => if e.isNotFound || e.isNotSupported then none else some e
  | _ => none

/-- An answer that is passed on brings the entity of the reply, and no failure. -/
theorem of_answer_ok [Keyed T] {r : Reply T} {found : Option T} (h : r.answer = .ok found) :
    wellFormed? found = r.entity? ∧ r.failure? = none := by
  cases r with
  | refused source operation => exact nomatch h
  | cached t =>
    rw [← Except.ok.inj h]
    exact ⟨rfl, rfl⟩
  | called ending =>
    cases ending with
    | ok t =>
      rw [← Except.ok.inj h]
      cases t <;> exact ⟨rfl, rfl⟩
    | error e =>
      rw [answer] at h
      split at h
      · next hnotFound =>
        rw [← Except.ok.inj h, failure?, hnotFound]
        exact ⟨rfl, rfl⟩
      · exact nomatch h

/-- An error that is passed on brings no entity, and is kept as the failure of the reply. -/
theorem of_answer_error [Keyed T] {r : Reply T} {e : SourceError} (h : r.answer = .error e)
    (cause : Option SourceError) :
    r.entity? = none ∧ laterCause cause e = r.failure?.or cause := by
  cases r with
  | refused source operation =>
    rw [← Except.error.inj h]
    exact ⟨rfl, rfl⟩
  | cached t => exact nomatch h
  | called ending =>
    cases ending with
    | ok t => exact nomatch h
    | error e' =>
      rw [answer] at h
      split at h
      · exact nomatch h
      · next hnotFound =>
        rw [← Except.error.inj h, laterCause, failure?, Bool.eq_false_iff.mpr hnotFound,
          Bool.false_or]
        refine ⟨rfl, ?_⟩
        split <;> rfl

end Reply

namespace Provider

/-- How a call of the source ends that begins in a state: with what the source says, or because its
time is up. -/
def ending {α : Type} (p : Provider W) (s : State W) (call : Call W α) :
    Except ClockOverflow (Except SourceError α) :=
  match p.limit s with
  | .error e => .error e
  | .ok limit =>
    match (limit.run s.now s.world call).1 with
    | .answered r => .ok r
    | .expired => .ok (.error (.timeout p.rules.callTimeout.wholeSeconds))
    | .overflow => .error .beyondEnd

/-- What becomes of a question to a provider in a state. -/
def reply (p : Provider W) (f : Fetch W T) (s : State W) : Except ClockOverflow (Reply T) :=
  if p.supports f.operation then
    match f.find p s with
    | .error e => .error e
    | .ok (some t) => .ok (.cached t)
    | .ok none => (p.ending s (f.call p)).map .called
  else .ok (.refused p.name f.operation)

/-! ## Calls of the source -/

theorem eval_bounded {α : Type} (p : Provider W) (s : State W) (call : Call W α) :
    ((p.bounded call).eval s).1 = p.ending s call := by
  rw [bounded, Action.eval_bind_of_ok (Action.eval_get s), ending]
  cases p.limit s with
  | error e => rfl
  | ok limit =>
    simp only
    obtain ⟨ending, now, world⟩ := limit.run s.now s.world call
    cases ending <;> rfl

/-- A limit needs room on the clock. -/
theorem limit_eq (p : Provider W) (s : State W) : p.limit s =
    (s.now.after p.rules.callTimeout).map fun deadline =>
      { started := s.now
        allowed := p.rules.callTimeout
        deadline := deadline
        callFirst := s.runtime.callFirst s.now } := by
  rw [limit, TimeLimit.start]
  cases s.now.after p.rules.callTimeout <;> rfl

theorem limit_of_after {p : Provider W} {s : State W} {deadline : Instant}
    (h : s.now.after p.rules.callTimeout = .ok deadline) :
    p.limit s = .ok ⟨s.now, p.rules.callTimeout, deadline, s.runtime.callFirst s.now, {}⟩ := by
  rw [limit_eq, h]
  rfl

theorem limit_of_overflow {p : Provider W} {s : State W} {e : ClockOverflow}
    (h : s.now.after p.rules.callTimeout = .error e) : p.limit s = .error e := by
  rw [limit_eq, h]
  rfl

theorem limit_congr (p : Provider W) {s s' : State W} (h : s.SameWorld s') : p.limit s' = p.limit s := by
  rw [limit, limit, h.now, h.runtime]

/-- How a call ends depends on the clock, on the system and on the world. -/
theorem ending_congr {α : Type} (p : Provider W) {s s' : State W} (h : s.SameWorld s')
    (call : Call W α) : p.ending s' call = p.ending s call := by
  rw [ending, ending, p.limit_congr h, h.now, h.world]

theorem eval_record {α : Type} (p : Provider W) (r : Except SourceError (Option α)) (s : State W) :
    ∃ s', (p.record r).eval s = (.ok ⟨⟩, s') := by
  cases r with
  | ok found => exact ⟨_, rfl⟩
  | error e =>
    show ∃ s', (if e.isNotSupported then pure () else p.recordFailure e.leastSuspension :
      Action W Unit).eval s = (.ok ⟨⟩, s')
    split <;> exact ⟨_, rfl⟩

/-- Keeping track of a call does not change what it has come to. -/
theorem eval_observe_of_ok {α : Type} {p : Provider W} {o : Operation} {call : Call W α}
    {s s' : State W} {r : Except SourceError α} (h : (p.bounded call).eval s = (.ok r, s')) :
    ∃ s'', (p.observe o call).eval s = (.ok (outcome r), s'') := by
  rw [observe, Action.eval_bind_of_ok h]
  simp only
  rw [Action.eval_bind_of_ok (Action.eval_count _ _)]
  obtain ⟨s₁, h₁⟩ := eval_record p (outcome r) (s'.count [(Metrics.providerDuration p.name o, 1)])
  rw [Action.eval_bind_of_ok h₁, Action.eval_bind_of_ok (Action.eval_count _ _)]
  exact ⟨_, rfl⟩

/-- What a call that is kept track of has come to is how the call of the source ends. -/
theorem outcome_of_observe {α : Type} {p : Provider W} {o : Operation} {call : Call W α}
    {s s' : State W} {a : Except SourceError (Option α)}
    (h : (p.observe o call).eval s = (.ok a, s')) : ∃ r, p.ending s call = .ok r ∧ outcome r = a := by
  cases hbounded : (p.bounded call).eval s with
  | mk ending s₁ =>
    have hending := eval_bounded p s call
    rw [hbounded] at hending
    cases ending with
    | error e =>
      rw [observe, Action.eval_bind_of_error hbounded] at h
      exact nomatch congrArg Prod.fst h
    | ok r =>
      obtain ⟨s₂, hobserve⟩ := eval_observe_of_ok (o := o) hbounded
      rw [hobserve] at h
      exact ⟨r, hending.symm, Except.ok.inj (congrArg Prod.fst h)⟩

theorem answer_called (r : Except SourceError (Option T)) :
    (Reply.called r).answer = (outcome r).map Option.join := by
  cases r with
  | ok found => rfl
  | error e =>
    rw [Reply.answer, outcome]
    split <;> rfl

theorem entity_eq (p : Provider W) (o : Operation) (call : Call W (Option T)) :
    p.entity o call = Except.map Option.join <$> p.observe o call := by
  rw [entity, map_eq_pure_bind]
  refine bind_congr fun r => ?_
  cases r <;> rfl

/-- An entity is asked for by one call of the source. -/
theorem answer_of_entity {p : Provider W} {o : Operation} {call : Call W (Option T)}
    {s s' : State W} {a : Except SourceError (Option T)}
    (h : (p.entity o call).eval s = (.ok a, s')) :
    ∃ r, p.ending s call = .ok r ∧ (Reply.called r).answer = a := by
  rw [entity_eq] at h
  obtain ⟨tracked, hobserve, rfl⟩ := Action.eval_map_eq_ok.mp h
  obtain ⟨r, hending, rfl⟩ := outcome_of_observe hobserve
  exact ⟨r, hending, answer_called r⟩

/-! ## Caches -/

/-- Looking into a cache leaves the clocks, the system and the world alone. -/
theorem find_of_remembered {V : Type} {p : Provider W} {shelf : Shelf V} {key : String}
    {s s' : State W} {hit : Option V} (h : (p.remembered shelf key).eval s = (.ok hit, s')) :
    ((shelf.get (s.cachesOf p)).get s.now key).map Prod.fst = .ok hit ∧
      s.SameWorld s' := by
  rw [remembered, Action.eval_bind_of_ok (Action.eval_get s)] at h
  simp only at h
  cases hget : (shelf.get (s.cachesOf p)).get s.now key with
  | error e =>
    rw [hget] at h
    exact nomatch congrArg Prod.fst h
  | ok found =>
    obtain ⟨hit', cache⟩ := found
    rw [hget] at h
    simp only [Action.eval_bind_of_ok (Action.eval_set _ _),
      Action.eval_bind_of_ok (Action.eval_count _ _), Action.eval_pure, Prod.mk.injEq,
      Except.ok.injEq] at h
    obtain ⟨rfl, rfl⟩ := h
    exact ⟨rfl, rfl, rfl, rfl, rfl⟩

/-- An answer through a cache is what the cache has, or else what was asked for. -/
theorem answer_of_through {V α : Type} {p : Provider W} {shelf : Shelf V} {key : String}
    {shown : V → α} {worth : α → Option V} {go : Action W (Except SourceError α)} {s s' : State W}
    {a : Except SourceError α} (h : (p.through shelf key shown worth go).eval s = (.ok a, s')) :
    ∃ hit s₁, (p.remembered shelf key).eval s = (.ok hit, s₁) ∧
      match hit with
      | some v => a = .ok (shown v)
      | none => ∃ s₂, go.eval s₁ = (.ok a, s₂) := by
  obtain ⟨hit, s₁, hremembered, h⟩ := Action.eval_bind_eq_ok.mp h
  refine ⟨hit, s₁, hremembered, ?_⟩
  cases hit with
  | some v => exact (Except.ok.inj (congrArg Prod.fst h)).symm
  | none =>
    obtain ⟨r, s₂, hgo, h⟩ := Action.eval_bind_eq_ok.mp h
    refine ⟨s₂, ?_⟩
    rw [hgo]
    cases r with
    | error e => rw [← Except.ok.inj (congrArg Prod.fst h)]
    | ok found =>
      cases hworth : worth found with
      | none =>
        simp only [hworth] at h
        rw [← Except.ok.inj (congrArg Prod.fst h)]
      | some v =>
        simp only [hworth] at h
        obtain ⟨-, s₃, -, h⟩ := Action.eval_bind_eq_ok.mp h
        rw [← Except.ok.inj (congrArg Prod.fst h)]

end Provider

/-- **What is passed on is the answer of the reply.** -/
theorem Fetch.answer_of_ask {f : Fetch W T} {p : Provider W} {s s' : State W}
    {a : Except SourceError (Option T)} (h : (f.ask p).eval s = (.ok a, s')) :
    ∃ r, p.reply f s = .ok r ∧ r.answer = a := by
  rw [ask, Provider.ifSupported, Provider.gate] at h
  rw [Provider.reply]
  by_cases hsupports : p.supports f.operation = true
  · rw [if_pos hsupports] at h ⊢
    simp only at h
    rw [find]
    cases hshelf : f.shelf with
    | none =>
      rw [hshelf] at h
      obtain ⟨r, hending, hanswer⟩ := Provider.answer_of_entity h
      exact ⟨.called r, by simp only [hending, Except.map], hanswer⟩
    | some shelf =>
      rw [hshelf] at h
      obtain ⟨hit, s₁, hremembered, h⟩ := Provider.answer_of_through h
      obtain ⟨hfind, hsame⟩ := Provider.find_of_remembered hremembered
      simp only [hfind]
      cases hit with
      | some t => exact ⟨.cached t, rfl, h.symm⟩
      | none =>
        obtain ⟨s₂, h⟩ := h
        obtain ⟨r, hending, hanswer⟩ := Provider.answer_of_entity h
        rw [p.ending_congr hsame] at hending
        exact ⟨.called r, by simp only [hending, Except.map], hanswer⟩
  · rw [if_neg hsupports] at h ⊢
    exact ⟨_, rfl, Except.ok.inj (congrArg Prod.fst h)⟩

end Biblio
