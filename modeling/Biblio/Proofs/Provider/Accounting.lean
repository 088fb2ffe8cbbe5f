import Biblio.Proofs.Health.Suspension
import Biblio.Proofs.Provider.Mirror

/-!
# Calls that count

A call of the source that has ended is noted in the health record of its provider, once, and nothing
else that a provider does is.

* `Provider.counted` says how the end of a call counts, and `Provider.noting` what is noted of it.
* `Accounts` is what an action does for the calls that are made in it: the note in the store, and the
  error that is passed on.  It holds of a call that is kept track of and passes from there to what is
  made of its answer.
-/

set_option autoImplicit false

namespace Biblio

variable {W α β V : Type}

/-! ## Notes -/

/-- The health record of a provider after it was noted how a query went. -/
def Store.noted (b : Backoff) (s : Store) (id : Int) (now : Moment) : Outcome → Health
  | .succeeded => (s.noteSuccess now id).1
  | .failed least => (s.noteFailure b now id least).1

/-- Notes in the health record of a provider how a query went. -/
def Store.note (b : Backoff) (s : Store) (id : Int) (now : Moment) (outcome : Outcome) : Store :=
  s.keepHealth (s.noted b id now outcome)

namespace Store

theorem providerId_noted (b : Backoff) (s : Store) (id : Int) (now : Moment) (o : Outcome) :
    (s.noted b id now o).providerId = id := by
  cases o with
  | succeeded => exact s.providerId_health id
  | failed least => exact s.providerId_health id

theorem health_note {s : Store} (hs : s.healthFault = none) (b : Backoff) (id : Int) (now : Moment)
    (o : Outcome) :
    (s.note b id now o).health id = HealthRow.read (HealthRow.write (s.noted b id now o)) := by
  have hself := health_keepHealth_self hs (s.noted b id now o)
  rw [providerId_noted] at hself
  exact hself

end Store

/-- The error that there is instead of an answer. -/
def errorOf : Except SourceError α → Option SourceError
  | .ok _ => none
  | .error e => some e

theorem errorOf_eq_some {r : Except SourceError α} {e : SourceError} :
    errorOf r = some e ↔ r = .error e := by
  cases r with
  | ok x => exact iff_of_false (fun h => nomatch h) fun h => nomatch h
  | error x =>
    constructor
    · exact fun h => congrArg Except.error (Option.some.inj h)
    · exact fun h => congrArg some (Except.error.inj h)

/-- An error is passed on unless it only says that there is nothing. -/
theorem errorOf_outcome_eq_some {r : Except SourceError α} {e : SourceError} :
    errorOf (Provider.outcome r) = some e ↔ r = .error e ∧ e.isNotFound = false := by
  rw [errorOf_eq_some]
  cases r with
  | ok x => exact iff_of_false (by rintro ⟨⟩) (by rintro ⟨⟨⟩, -⟩)
  | error x =>
    rw [Provider.outcome]
    cases hnotFound : x.isNotFound with
    | true =>
      refine iff_of_false (by rintro ⟨⟩) ?_
      rintro ⟨h, hfound⟩
      obtain rfl := Except.error.inj h
      exact absurd (hfound.symm.trans hnotFound) Bool.false_ne_true
    | false =>
      constructor
      · intro h
        obtain rfl := Except.error.inj h
        exact ⟨rfl, hnotFound⟩
      · rintro ⟨h, -⟩
        exact congrArg Except.error (Except.error.inj h)

theorem isNotFound_of_isNotSupported {e : SourceError} (h : e.isNotSupported = true) :
    e.isNotFound = false := by
  cases e <;> first | rfl | exact nomatch h

namespace Provider

/-- How the end of a call counts.  That the source has nothing is a success; that it does not support
what it was asked does not count. -/
def counted : Except SourceError α → Option Outcome
  | .ok _ => some .succeeded
  | .error e =>
    if e.isNotFound then some .succeeded
    else if e.isNotSupported then none
    else some (.failed e.leastSuspension)

/-- How a call ends that is made in a state, if it comes to an end. -/
def told (p : Provider W) (s : State W) (call : Call W α) : Option (Except SourceError Unit) :=
  (p.ending s call).toOption.map (Except.map fun _ => ())

/-- Notes how a query went, if it counts and the provider is stored. -/
def noting (p : Provider W) (store : Store) (now : Moment) : Option Outcome → Store
  | none => store
  | some outcome =>
    if p.definition.stored then store.note p.rules.backoff p.id now outcome else store

theorem told_congr (p : Provider W) {s s' : State W} (h : s.SameWorld s') (call : Call W α) :
    p.told s' call = p.told s call := by
  rw [told, told, p.ending_congr h]

/-! ## Calls that are kept track of -/

/-- A call with a result has ended. -/
theorem isSome_told_of_bounded {p : Provider W} {s : State W} {call : Call W α}
    {r : Except SourceError α} (h : ((p.bounded call).eval s).1 = .ok r) :
    (p.told s call).isSome = true := by
  rw [told, ← p.eval_bounded, h]
  rfl

/-- A call that has ended was made under a limit. -/
theorem start_of_told {p : Provider W} {s : State W} {call : Call W α}
    {ending : Except SourceError Unit} (h : p.told s call = some ending) :
    ∃ limit, p.limit s = .ok limit := by
  rw [told, Provider.ending] at h
  cases hstart : p.limit s with
  | ok limit => exact ⟨limit, rfl⟩
  | error overflow =>
    rw [hstart] at h
    cases h

theorem keepsStore_bounded (p : Provider W) (call : Call W α) : (p.bounded call).KeepsStore := by
  intro s
  cases hstart : p.limit s with
  | error e => rw [p.eval_bounded_of_overflow call hstart]
  | ok limit =>
    rw [p.eval_bounded_of_start call hstart]
    rfl

theorem eval_recordSuccess (p : Provider W) (s : State W) :
    p.recordSuccess.eval s = (.ok ⟨⟩, { s with store := p.noting s.store s.wall (some .succeeded) }) := by
  rw [recordSuccess, Action.eval_modify, noting]
  split <;> rfl

theorem eval_recordFailure (p : Provider W) (least : Span) (s : State W) :
    (p.recordFailure least).eval s =
      (.ok ⟨⟩, { s with store := p.noting s.store s.wall (some (.failed least)) }) := by
  rw [recordFailure, Action.eval_modify, noting]
  split <;> rfl

/-- What is recorded of a call is what counts of it. -/
theorem eval_record_outcome (p : Provider W) (r : Except SourceError α) (s : State W) :
    (p.record (outcome r)).eval s = (.ok ⟨⟩, { s with store := p.noting s.store s.wall (counted r) }) := by
  cases r with
  | ok x => exact p.eval_recordSuccess s
  | error e =>
    rw [outcome, counted]
    cases e.isNotFound with
    | true => exact p.eval_recordSuccess s
    | false =>
      simp only [Bool.false_eq_true, if_false, record]
      cases e.isNotSupported with
      | true => rfl
      | false => exact p.eval_recordFailure e.leastSuspension s

theorem eval_track (p : Provider W) (o : Operation) (r : Except SourceError α) (s : State W) :
    ∃ s', (p.track o (outcome r)).eval s = (.ok (outcome r), s') ∧
      s'.store = p.noting s.store s.wall (counted r) ∧ s'.wall = s.wall := by
  rw [track, Action.eval_bind_of_ok (Action.eval_count _ _),
    Action.eval_bind_of_ok (p.eval_record_outcome r _), Action.eval_bind_of_ok (Action.eval_count _ _)]
  exact ⟨_, rfl, rfl, rfl⟩

end Provider

/-! ## Actions that keep accounts -/

/-- The error with which an action ends. -/
def errorAfter (error? : α → Option SourceError) (a : Action W α) (s : State W) : Option SourceError :=
  (a.eval s).1.toOption.bind error?

theorem errorAfter_map {error? : α → Option SourceError} {other? : β → Option SourceError} {f : α → β}
    (hf : ∀ x, other? (f x) = error? x) (a : Action W α) (s : State W) :
    errorAfter other? (f <$> a) s = errorAfter error? a s := by
  rw [errorAfter, errorAfter, Action.eval_map]
  cases (a.eval s).1 with
  | error overflow => rfl
  | ok x => exact hf x

/-- What an action does in a state, in which one call of the source comes to an end or none: this is
noted, at the time that the wall clock then shows, and an error is passed on, unless it only says that
there is nothing. -/
structure Accounts (p : Provider W) (s : State W) (told : Option (Except SourceError Unit))
    (error? : α → Option SourceError) (a : Action W α) : Prop where
  store : (a.eval s).2.store = p.noting s.store (a.eval s).2.wall (told.bind Provider.counted)
  error : errorAfter error? a s = told.bind fun r => errorOf (Provider.outcome r)
  /-- There is no result before the end of the call. -/
  ended : ∀ x, (a.eval s).1 = .ok x → told.isSome = true

section Accounts

variable {p : Provider W} {s : State W} {told : Option (Except SourceError Unit)}
  {error? : α → Option SourceError} {a : Action W α}

theorem Accounts.map {other? : β → Option SourceError} (h : Accounts p s told error? a) {f : α → β}
    (hf : ∀ x, other? (f x) = error? x) : Accounts p s told other? (f <$> a) where
  store := by
    rw [Action.eval_map]
    exact h.store
  error := (errorAfter_map hf a s).trans h.error
  ended y hy := by
    rw [Action.eval_map] at hy
    cases hresult : (a.eval s).1 with
    | error overflow =>
      rw [hresult] at hy
      exact nomatch hy
    | ok x => exact h.ended x hresult

/-- The action breaks off before the call has ended. -/
theorem Accounts.of_error {overflow : ClockOverflow} {s₁ : State W}
    (heval : a.eval s = (.error overflow, s₁)) (hstore : s₁.store = s.store) :
    Accounts p s none error? a where
  store := by
    rw [heval]
    exact hstore
  error := by
    rw [errorAfter, heval]
    rfl
  ended x hx := by
    rw [heval] at hx
    exact nomatch hx

/-- From another state in which the call would be the same. -/
theorem Accounts.congr {b : Action W α} {s₁ : State W} (h : Accounts p s₁ told error? a)
    (heval : b.eval s = a.eval s₁) (hstore : s₁.store = s.store) : Accounts p s told error? b where
  store := by
    rw [heval, h.store, hstore]
  error := by
    rw [← h.error, errorAfter, errorAfter, heval]
  ended x hx := h.ended x (heval ▸ hx)

/-- **A call that is kept track of.** -/
theorem accounts_observe (p : Provider W) (s : State W) (o : Operation) (call : Call W α) :
    Accounts p s (p.told s call) errorOf (p.observe o call) := by
  have hending := p.eval_bounded s call
  have hstore := p.keepsStore_bounded call s
  cases hbounded : (p.bounded call).eval s with
  | mk ending s₁ =>
    rw [hbounded] at hending hstore
    cases ending with
    | error overflow =>
      have htold : p.told s call = none := by rw [Provider.told, ← hending]; rfl
      have heval := Action.eval_bind_of_error (f := fun r => p.track o (Provider.outcome r)) hbounded
      rw [htold, p.observe_eq]
      exact .of_error heval hstore
    | ok r =>
      have htold : p.told s call = some (r.map fun _ => ()) := by rw [Provider.told, ← hending]; rfl
      obtain ⟨s₂, htrack, hnoted, hwall⟩ := p.eval_track o r s₁
      have heval : (p.observe o call).eval s = (.ok (Provider.outcome r), s₂) := by
        rw [p.observe_eq, Action.eval_bind_of_ok hbounded, htrack]
      have hcounted : Provider.counted (r.map fun _ => ()) = Provider.counted r := by cases r <;> rfl
      rw [htold]
      refine ⟨?_, ?_, fun _ _ => rfl⟩
      · rw [heval, hnoted, hstore, hwall, Option.bind_some, hcounted]
      · rw [errorAfter, heval]
        cases r with
        | ok x => rfl
        | error e =>
          simp only [Except.map, Option.bind_some, Provider.outcome, Except.toOption]
          cases e.isNotFound <;> rfl

end Accounts

/-! ## Through a cache -/

namespace Provider

variable {p : Provider W} {shelf : Shelf V} {key : String} {s : State W} {shown : V → α}
  {worth : α → Option V}

theorem keepsStore_keep (v : V) : (p.keep shelf key v).KeepsStore := by
  intro s
  cases hafter : s.now.after (shelf.get (s.cachesOf p)).expiry.window with
  | error e =>
    rw [eval_keep_of_overflow hafter]
  | ok till =>
    rw [eval_keep_of_after hafter]
    rfl

theorem keepsStore_shelve (worth : α → Option V) (r : Except SourceError α) :
    (p.shelve shelf key worth r).KeepsStore := by
  cases r with
  | error e => exact Action.keepsStore_pure _
  | ok a =>
    rw [shelve]
    cases worth a with
    | none => exact Action.keepsStore_pure _
    | some v => exact (keepsStore_keep v).bind fun _ => Action.keepsStore_pure _

/-- An error is passed on, and nothing else becomes one. -/
theorem errorAfter_shelve (r : Except SourceError α) :
    errorAfter errorOf (p.shelve shelf key worth r) s = errorOf r := by
  cases hshelve : (p.shelve shelf key worth r).eval s with
  | mk result s' =>
    rw [errorAfter, hshelve]
    cases result with
    | ok r' =>
      obtain ⟨rfl, -⟩ := shelve_cases hshelve
      rfl
    | error overflow =>
      cases r with
      | ok a => rfl
      | error e => exact nomatch congrArg Prod.fst hshelve

end Provider

section Through

variable {p : Provider W} {shelf : Shelf V} {key : String} {s : State W} {shown : V → α}
  {worth : α → Option V} {told : Option (Except SourceError Unit)} {go : Action W (Except SourceError α)}

/-- What is found may be stored. -/
theorem Accounts.shelve (shelf : Shelf V) (key : String) (worth : α → Option V)
    (h : Accounts p s told errorOf go) :
    Accounts p s told errorOf (go >>= p.shelve shelf key worth) := by
  have hstore := Action.store_bind (a := go) (f := p.shelve shelf key worth)
    (fun r => Provider.keepsStore_shelve worth r) s
  have hsame := Action.world_bind (a := go) (f := p.shelve shelf key worth)
    (fun r => Provider.keepsWorld_shelve worth r) s
  refine ⟨?_, ?_, fun x hx => ?_⟩
  · rw [hstore, h.store, hsame.wall]
  · rw [← h.error, errorAfter, errorAfter, Action.eval_bind]
    obtain ⟨result, s'⟩ := go.eval s
    cases result with
    | error overflow => rfl
    | ok r => exact Provider.errorAfter_shelve r
  · obtain ⟨r, s₁, hgo, -⟩ := Action.eval_bind_eq_ok.mp (Prod.ext hx rfl)
    exact h.ended r (congrArg Prod.fst hgo)

/-- Nothing has changed but the caches and the measurements. -/
structure Quiet (s s' : State W) : Prop where
  sameWorld : s.SameWorld s'
  store : s'.store = s.store

/-- After a look into the cache there is the question, or there is what was found. -/
theorem eval_through_of_get (shown : V → α) (worth : α → Option V)
    (go : Action W (Except SourceError α)) {hit : Option V} {c : Cache V}
    (hget : (shelf.get (s.cachesOf p)).get s.now key = .ok (hit, c)) :
    ∃ s₁, Quiet s s₁ ∧ (p.through shelf key shown worth go).eval s =
      (hit.elim (go >>= p.shelve shelf key worth) fun v => pure (.ok (shown v))).eval s₁ := by
  refine ⟨(s.setCaches p (shelf.set c (s.cachesOf p))).count
    [(Metrics.cacheLookup shelf.name hit.isSome, 1)], ⟨⟨rfl, rfl, rfl, rfl⟩, rfl⟩, ?_⟩
  rw [p.through_eq, Action.eval_bind_of_ok (Provider.eval_remembered_of_get hget)]

/-- **Without a live value the call counts** as it does without the cache. -/
theorem Accounts.through (hlive : (shelf.get (s.cachesOf p)).live s.now key = none)
    (h : ∀ s₁, Quiet s s₁ → Accounts p s₁ told errorOf go) :
    Accounts p s told errorOf (p.through shelf key shown worth go) := by
  obtain ⟨c, hget, -⟩ := Cache.get_of_not_live hlive
  obtain ⟨s₁, hquiet, heval⟩ := eval_through_of_get shown worth go hget
  exact ((h s₁ hquiet).shelve shelf key worth).congr heval hquiet.store

/-- **A live value is given**, and no source is called. -/
theorem quiet_through {v : V} (hlive : (shelf.get (s.cachesOf p)).live s.now key = some v) :
    Quiet s ((p.through shelf key shown worth go).eval s).2 ∧
      errorAfter errorOf (p.through shelf key shown worth go) s = none := by
  rw [errorAfter]
  cases hget : (shelf.get (s.cachesOf p)).get s.now key with
  | error overflow =>
    rw [p.through_eq, Action.eval_bind_of_error (Provider.eval_remembered_of_error hget)]
    exact ⟨⟨⟨rfl, rfl, rfl, rfl⟩, rfl⟩, rfl⟩
  | ok found =>
    obtain ⟨hit, c⟩ := found
    obtain rfl := (Cache.answer_of_get hget).trans hlive
    obtain ⟨s₁, hquiet, heval⟩ := eval_through_of_get shown worth go hget
    rw [heval]
    exact ⟨hquiet, rfl⟩

end Through

end Biblio
