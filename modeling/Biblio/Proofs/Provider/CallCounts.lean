import Biblio.Proofs.Provider.Requests
import Biblio.Sample

/-!
# Counts of calls

A provider carries out one request after another.  What its health record says afterwards is what the
calls of its source came to that ended on the way.

* `EndedCall` is a call that has ended, and `Provider.recordEnd` notes it.
* `Tally.of_recordEnd` is what one of them adds to the two counts of a record, and
  `Tally.of_foldl_recordEnd` what all of them add.
* `Answered` is what is promised of one request: what the source is called for, and when the error says
  that something is not supported.
* `RequestRun` is what a provider did, and `Accounted` what is promised of it;
  `accounted_of_requestRun` proves it.
-/

set_option autoImplicit false

namespace Biblio

variable {W : Type}

/-! ## Calls that have ended -/

/-- A call of the source that has ended. -/
structure EndedCall where
  request : ProviderRequest
  ending : Except SourceError Unit
  /-- The time of the wall clock when it had ended. -/
  wall : Moment

namespace EndedCall

/-- The call counts, and its source gave something or said that there is nothing. -/
def isSuccess (e : EndedCall) : Bool :=
  e.request.counts && match e.ending with
    | .ok _ => true
    | .error x => x.isNotFound

/-- The call counts, and it ended in any other way than a success, except that the source does not support
what it was asked. -/
def isFailure (e : EndedCall) : Bool :=
  e.request.counts && match e.ending with
    | .ok _ => false
    | .error x => !x.isNotFound && !x.isNotSupported

/-- What counts of the call. -/
def outcome? (e : EndedCall) : Option Outcome :=
  if e.request.counts then Provider.counted e.ending else none

/-- A call counts once or not at all. -/
theorem outcome?_cases (e : EndedCall) :
    (e.outcome? = some .succeeded ∧ e.isSuccess = true ∧ e.isFailure = false) ∨
      (∃ least, e.outcome? = some (.failed least) ∧ e.isSuccess = false ∧ e.isFailure = true) ∨
      (e.outcome? = none ∧ e.isSuccess = false ∧ e.isFailure = false) := by
  rw [outcome?, isSuccess, isFailure]
  cases e.request.counts with
  | false => exact .inr (.inr ⟨rfl, rfl, rfl⟩)
  | true =>
    cases e.ending with
    | ok _ => exact .inl ⟨rfl, rfl, rfl⟩
    | error x =>
      simp only [Provider.counted, Bool.true_and, if_true]
      cases x.isNotFound with
      | true => exact .inl ⟨rfl, rfl, rfl⟩
      | false =>
        cases x.isNotSupported with
        | true => exact .inr (.inr ⟨rfl, rfl, rfl⟩)
        | false => exact .inr (.inl ⟨_, rfl, rfl, rfl⟩)

end EndedCall

/-- The call of the source that ends on a request, if one does. -/
def ProviderRequest.endedCall? (p : Provider W) (s : State W) (r : ProviderRequest) : Option EndedCall :=
  (r.told p s).map fun ending => ⟨r, ending, ((r.perform p).eval s).2.wall⟩

/-- Notes what counts of a call. -/
def Provider.recordEnd (p : Provider W) (store : Store) (e : EndedCall) : Store :=
  p.noting store e.wall e.outcome?

theorem ProviderRequest.noting_note? (p : Provider W) (s : State W) (r : ProviderRequest) :
    p.noting s.store ((r.perform p).eval s).2.wall (r.note? p s) =
      (r.endedCall? p s).toList.foldl p.recordEnd s.store := by
  rw [note?, endedCall?]
  cases r.told p s with
  | none =>
    rw [Option.bind_none, ite_self]
    rfl
  | some ending => rfl

/-! ## Calls in the store -/

namespace Provider

variable {p : Provider W} {store : Store} {e : EndedCall}

theorem recordEnd_of_none (p : Provider W) (store : Store) (h : e.outcome? = none) :
    p.recordEnd store e = store := by
  rw [recordEnd, h]
  rfl

theorem recordEnd_of_some (p : Provider W) (store : Store) {o : Outcome} (h : e.outcome? = some o) :
    p.recordEnd store e =
      if p.definition.stored then store.note p.rules.backoff p.id e.wall o else store := by
  rw [recordEnd, h]
  rfl

theorem sameBut_recordEnd (p : Provider W) (store : Store) (e : EndedCall) :
    store.SameBut p.id (p.recordEnd store e) := by
  cases houtcome : e.outcome? with
  | none =>
    rw [p.recordEnd_of_none store houtcome]
    exact .refl _ _
  | some o =>
    rw [p.recordEnd_of_some store houtcome]
    split
    · have hkeep := store.sameBut_keepHealth (store.noted p.rules.backoff p.id e.wall o)
      rw [Store.providerId_noted] at hkeep
      exact hkeep
    · exact .refl _ _

theorem sameBut_foldl_recordEnd (p : Provider W) (store : Store) (es : List EndedCall) :
    store.SameBut p.id (es.foldl p.recordEnd store) := by
  induction es generalizing store with
  | nil => exact .refl _ _
  | cons e rest ih => exact (p.sameBut_recordEnd store e).trans (ih _)

/-- Of a provider that is not stored nothing is noted. -/
theorem foldl_recordEnd_of_not_stored (h : p.definition.stored = false) (store : Store)
    (es : List EndedCall) :
    es.foldl p.recordEnd store = store := by
  induction es generalizing store with
  | nil => rfl
  | cons e rest ih =>
    have hrecord : p.recordEnd store e = store := by
      cases houtcome : e.outcome? with
      | none => exact p.recordEnd_of_none store houtcome
      | some o => rw [p.recordEnd_of_some store houtcome, h, if_neg Bool.false_ne_true]
    rw [List.foldl_cons, hrecord, ih]

/-- The record after a call that counts. -/
theorem health_recordEnd (hstored : p.definition.stored = true) (hfault : store.healthFault = none)
    {o : Outcome} (h : e.outcome? = some o) : (p.recordEnd store e).health p.id =
      HealthRow.read (HealthRow.write (store.noted p.rules.backoff p.id e.wall o)) := by
  rw [p.recordEnd_of_some store h, if_pos hstored]
  exact Store.health_note hfault p.rules.backoff p.id e.wall o

end Provider

/-! ## Counts -/

/-- One of the two counts of a health record. -/
inductive Tally where
  | successes
  | failures

namespace Tally

/-- The count in a record. -/
def of : Tally → Health → Nat
  | .successes => Health.successes
  | .failures => Health.failures

/-- Whether an entry adds to the count. -/
def counts : Tally → EndedCall → Bool
  | .successes => EndedCall.isSuccess
  | .failures => EndedCall.isFailure

variable {p : Provider W} {store : Store} {e : EndedCall} (t : Tally)

/-- A column keeps the count as long as it has room for it. -/
theorem of_read_write {h : Health} (hbound : t.of h < 2 ^ 63) :
    t.of (HealthRow.read (HealthRow.write h)) = t.of h := by
  cases t with
  | successes => exact toNat_signedCount hbound
  | failures => exact toNat_signedCount hbound

theorem counts_of_none (h : e.outcome? = none) : t.counts e = false := by
  rcases e.outcome?_cases with ⟨h', -⟩ | ⟨least, h', -⟩ | ⟨-, hsuccess, hfailure⟩
  · exact nomatch h.symm.trans h'
  · exact nomatch h.symm.trans h'
  · cases t with
    | successes => exact hsuccess
    | failures => exact hfailure

/-- What is noted is one more, or as many as before. -/
theorem of_noted {o : Outcome} (h : e.outcome? = some o) (b : Backoff) (id : Int)
    (hbound : t.of (store.health id) + (t.counts e).toNat < 2 ^ 63) :
    t.of (store.noted b id e.wall o) = t.of (store.health id) + (t.counts e).toNat := by
  have hmore {n : Nat} (h : n + 1 < 2 ^ 63) : min (n + 1) greatestQueries = n + 1 :=
    Nat.min_eq_left (by rw [greatestQueries]; omega)
  rcases e.outcome?_cases with ⟨h', hsuccess, hfailure⟩ | ⟨least, h', hsuccess, hfailure⟩ | ⟨h', -⟩
  · obtain rfl := Option.some.inj (h.symm.trans h')
    cases t with
    | successes =>
      rw [counts, hsuccess] at hbound ⊢
      exact hmore hbound
    | failures =>
      rw [counts, hfailure]
      rfl
  · obtain rfl := Option.some.inj (h.symm.trans h')
    cases t with
    | successes =>
      rw [counts, hsuccess]
      rfl
    | failures =>
      rw [counts, hfailure] at hbound ⊢
      exact hmore hbound
  · exact nomatch h.symm.trans h'

/-- **The step**: the count in the store grows by an entry that adds to it. -/
theorem of_recordEnd (hstored : p.definition.stored = true) (hfault : store.healthFault = none)
    (hbound : t.of (store.health p.id) + (t.counts e).toNat < 2 ^ 63) :
    t.of ((p.recordEnd store e).health p.id) = t.of (store.health p.id) + (t.counts e).toNat := by
  cases houtcome : e.outcome? with
  | none =>
    rw [t.counts_of_none houtcome, p.recordEnd_of_none store houtcome]
    rfl
  | some o =>
    have hnoted := t.of_noted houtcome p.rules.backoff p.id hbound
    rw [Provider.health_recordEnd hstored hfault houtcome, t.of_read_write (hnoted ▸ hbound), hnoted]

/-- **The count in the store grows by the number of entries that add to it.** -/
theorem of_foldl_recordEnd (hstored : p.definition.stored = true) (hfault : store.healthFault = none)
    {es : List EndedCall} (hbound : t.of (store.health p.id) + es.countP t.counts < 2 ^ 63) :
    t.of ((es.foldl p.recordEnd store).health p.id) =
      t.of (store.health p.id) + es.countP t.counts := by
  induction es generalizing store with
  | nil => rfl
  | cons e rest ih =>
    have hcons : (e :: rest).countP t.counts = rest.countP t.counts + (t.counts e).toNat := by
      rw [List.countP_cons]
      cases t.counts e <;> rfl
    rw [hcons] at hbound ⊢
    have hrecord := t.of_recordEnd hstored hfault (e := e) (by omega)
    have hfault' := (p.sameBut_recordEnd store e).healthFault_eq.trans hfault
    rw [List.foldl_cons, ih hfault' (by omega), hrecord]
    omega

end Tally

/-! ## The journal -/

namespace ProviderRequest

variable {p : Provider W}

/-- The provider does the same without a journal. -/
theorem mirrors_perform (p : Provider W) (r : ProviderRequest) :
    Action.Mirrors (r.perform p) (r.perform p.journaled) := by
  have hreach : Action.Mirrors p.checkReachable p.journaled.checkReachable :=
    p.mirrors_bounded .test p.source.test
  cases r with
  | inquire q => exact (q.mirrors_ask p).map _
  | changes since =>
    exact (p.mirrors_ifSupported .changedAuthors
      (p.mirrors_results .changedAuthors (.changes since) (p.source.changedAuthors since))).map _
  | reach => exact hreach.map _
  | test =>
    refine Action.Mirrors.map (hreach.bind fun x => ?_) _
    cases x <;> exact Action.mirrors_pure _
  | purge => exact fun _ => rfl

variable {s : State (W × List Question)} {ending : Except SourceError Unit}

theorem asked_inquire {q : Inquiry} (h : (ProviderRequest.inquire q).told p.journaled s = some ending) :
    ((q.ask p.journaled).eval s).2.asked = s.asked ++ [q.question] := by
  have hidle := not_idle_of_told h
  obtain ⟨hrefused, hremembered⟩ := Bool.or_eq_false_iff.mp hidle
  have hsupports : p.supports q.operation = true := supports_of_not_refused hrefused rfl
  rw [told_inquire hidle] at h
  have hstart : ∃ limit, p.journaled.limit s = .ok limit := by
    cases q <;> exact Provider.start_of_told h
  obtain ⟨limit, hstart⟩ := hstart
  cases hslot : q.slot? with
  | none => exact (Inquiry.asked_of_slot?_eq_none hslot hsupports hstart).1
  | some slot =>
    obtain ⟨A, f, call, hf, hoperation, hcall, hask⟩ := Inquiry.exists_consultation p hslot
    have hlive : f.slot.live (s.cachesOf p.journaled) s.now = none := by
      rw [remembered, hslot, Option.any_some] at hremembered
      rw [hf]
      exact Option.not_isSome_iff_eq_none.mp (Bool.eq_false_iff.mp hremembered)
    rw [hask]
    exact (Consultation.asked_ask_of_not_live hcall (hoperation ▸ hsupports) hlive hstart).1

theorem asked_changes {since : Moment}
    (h : (ProviderRequest.changes since).told p.journaled s = some ending) :
    ((p.journaled.changedAuthors since).eval s).2.asked = s.asked ++ [.changes since] := by
  have hidle := not_idle_of_told h
  have hrefused := (Bool.or_eq_false_iff.mp hidle).1
  have hgate : p.journaled.gate .changedAuthors = .ok () :=
    if_pos (supports_of_not_refused hrefused rfl)
  rw [told_changes hidle] at h
  obtain ⟨limit, hstart⟩ := Provider.start_of_told h
  rw [Provider.changedAuthors, Provider.ifSupported, hgate, Provider.results_eq, Action.eval_map]
  exact (p.journaled.asked_observe .changedAuthors (.changes since)
    (p.source.changedAuthors since) hstart).1

theorem asked_reach (h : ProviderRequest.reach.told p.journaled s = some ending) :
    (p.journaled.checkReachable.eval s).2.asked = s.asked ++ [.test] := by
  have htold : p.journaled.told s p.journaled.source.test = some ending := h
  obtain ⟨limit, hstart⟩ := Provider.start_of_told htold
  exact p.journaled.asked_bounded .test p.source.test hstart

/-- After a check that is made, the test only says what came of it. -/
theorem asked_test (p : Provider (W × List Question)) :
    (p.test.eval s).2.asked = (p.checkReachable.eval s).2.asked := by
  rw [Provider.test]
  refine congrArg Prod.snd (Action.world_bind (a := p.checkReachable) (fun x => ?_) s).world
  cases x <;> exact Action.keepsWorld_pure _

/-- Only one request has nothing to do with the source. -/
theorem asked_of_question?_eq_none {r : ProviderRequest} (h : r.question? = none) :
    ((r.perform p.journaled).eval s).2.asked = s.asked := by
  cases r with
  | inquire q => exact nomatch h
  | changes since => exact nomatch h
  | reach => exact nomatch h
  | test => exact nomatch h
  | purge => rfl

/-- **A call that has ended is in the journal**, once. -/
theorem asked_perform {r : ProviderRequest} (h : r.told p.journaled s = some ending) :
    ∃ q, r.question? = some q ∧ ((r.perform p.journaled).eval s).2.asked = s.asked ++ [q] := by
  cases r with
  | inquire q =>
    refine ⟨q.question, rfl, ?_⟩
    rw [perform, Action.eval_map]
    exact asked_inquire h
  | changes since =>
    refine ⟨.changes since, rfl, ?_⟩
    rw [perform, Action.eval_map]
    exact asked_changes h
  | reach =>
    refine ⟨.test, rfl, ?_⟩
    rw [perform, Action.eval_map]
    exact asked_reach h
  | test =>
    refine ⟨.test, rfl, ?_⟩
    rw [perform, Action.eval_map]
    exact (asked_test p.journaled).trans (asked_reach h)
  | purge => cases h

end ProviderRequest

/-! ## One request -/

/-- What is promised of one request of a provider. -/
structure Answered (p : Provider W) (s : State (W × List Question)) (r : ProviderRequest) : Prop where
  /-- The journal has no part in it: the provider does the same without one. -/
  mirrored : (r.perform p).eval s.forget =
    (((r.perform p.journaled).eval s).1, ((r.perform p.journaled).eval s).2.forget)
  /-- The store changes by the call that has ended on it, if there is one. -/
  store : ((r.perform p.journaled).eval s).2.store =
    (r.endedCall? p.journaled s).toList.foldl p.recordEnd s.store
  /-- If a call has ended, the source was asked this once. -/
  called : ∀ ending, r.told p.journaled s = some ending →
    ∃ q, r.question? = some q ∧ ((r.perform p.journaled).eval s).2.asked = s.asked ++ [q]
  /-- A result without the end of a call comes without a call. -/
  uncalled : ∀ x, ((r.perform p.journaled).eval s).1 = .ok x → r.told p.journaled s = none →
    ((r.perform p.journaled).eval s).2.asked = s.asked
  /-- If it is refused or answered from a cache, the source is not called and nothing counts. -/
  idle : (r.refused p || r.remembered p.journaled s) = true →
    ((r.perform p.journaled).eval s).2.asked = s.asked ∧
      ((r.perform p.journaled).eval s).2.store = s.store
  /-- Neither does it count whether the source can be reached. -/
  uncounted : r.counts = false → ((r.perform p.journaled).eval s).2.store = s.store
  /-- It comes back as not supported exactly if the source does not support it or says so itself. -/
  unsupported_iff : r ≠ .test →
    ((∃ e, errorAfter Result.error? (r.perform p.journaled) s = some e ∧ e.isNotSupported = true) ↔
      r.refused p = true ∨
        ∃ e, r.told p.journaled s = some (.error e) ∧ e.isNotSupported = true)

/-- **What is promised of one request.** -/
theorem answered (p : Provider W) (s : State (W × List Question)) (r : ProviderRequest) :
    Answered p s r := by
  have hperformed := performed p.journaled s r
  have hstore := hperformed.store.trans (r.noting_note? p.journaled s)
  refine ⟨r.mirrors_perform p s, hstore, fun ending => r.asked_perform, fun x hx htold => ?_,
    fun hidle => ?_, fun hcounts => ?_, hperformed.unsupported_iff⟩
  · cases hidle : r.refused p.journaled || r.remembered p.journaled s with
    | true => exact congrArg Prod.snd (hperformed.quiet hidle).sameWorld.world
    | false =>
      cases hquestion : r.question? with
      | none => exact r.asked_of_question?_eq_none hquestion
      | some q =>
        have htold' := hperformed.ended hidle (by rw [hquestion]; rfl) x hx
        rw [htold] at htold'
        exact nomatch htold'
  · have hquiet := hperformed.quiet hidle
    exact ⟨congrArg Prod.snd hquiet.sameWorld.world, hquiet.store⟩
  · rw [hperformed.store, ProviderRequest.note?, hcounts]
    rfl

/-! ## Runs -/

/-- What a provider did from a state on, one request after the other, and the calls that ended on the way,
oldest first.  In between anything may happen that leaves the store alone. -/
inductive RequestRun (p : Provider W) (start : State (W × List Question)) :
    List EndedCall → State (W × List Question) → Prop
  | start : RequestRun p start [] start
  | request {es : List EndedCall} {s : State (W × List Question)} (before : RequestRun p start es s)
      (r : ProviderRequest) :
      RequestRun p start (es ++ (r.endedCall? p.journaled s).toList) ((r.perform p.journaled).eval s).2
  | meanwhile {es : List EndedCall} {s s' : State (W × List Question)} (before : RequestRun p start es s)
      (store : s'.store = s.store) : RequestRun p start es s'

/-- What is promised of a run. -/
structure Accounted (p : Provider W) (start : State (W × List Question)) (es : List EndedCall)
    (s : State (W × List Question)) : Prop where
  /-- The calls were noted in their order, and nothing else was. -/
  store : s.store = es.foldl p.recordEnd start.store
  /-- The store is the same but for the health records of the provider. -/
  sameBut : start.store.SameBut p.id s.store
  /-- Nothing is noted of a provider that is not stored. -/
  unstored : p.definition.stored = false → s.store = start.store
  /-- The successes are counted. -/
  successes : p.definition.stored = true → start.store.healthFault = none →
    (start.store.health p.id).successes + es.countP EndedCall.isSuccess < 2 ^ 63 →
      (s.store.health p.id).successes =
        (start.store.health p.id).successes + es.countP EndedCall.isSuccess
  /-- The failures are counted. -/
  failures : p.definition.stored = true → start.store.healthFault = none →
    (start.store.health p.id).failures + es.countP EndedCall.isFailure < 2 ^ 63 →
      (s.store.health p.id).failures =
        (start.store.health p.id).failures + es.countP EndedCall.isFailure
  /-- And so on with whatever comes next. -/
  next : ∀ r, Answered p s r

section RequestRun

variable {p : Provider W} {start s : State (W × List Question)} {es : List EndedCall}

theorem RequestRun.store_eq (h : RequestRun p start es s) :
    s.store = es.foldl p.recordEnd start.store := by
  induction h with
  | start => rfl
  | request before r ih => rw [(answered p _ r).store, List.foldl_append, ← ih]
  | meanwhile before store ih => exact store.trans ih

/-- **Health accounting is exact.** -/
theorem accounted_of_requestRun (h : RequestRun p start es s) : Accounted p start es s where
  store := h.store_eq
  sameBut := h.store_eq ▸ p.sameBut_foldl_recordEnd start.store es
  unstored hstored := h.store_eq.trans (Provider.foldl_recordEnd_of_not_stored hstored start.store es)
  successes hstored hfault hbound := by
    rw [h.store_eq]
    exact Tally.successes.of_foldl_recordEnd hstored hfault hbound
  failures hstored hfault hbound := by
    rw [h.store_eq]
    exact Tally.failures.of_foldl_recordEnd hstored hfault hbound
  next := answered p s

end RequestRun

/-- A stored provider whose source finds every author, and no book because something is wrong with it. -/
def storedProvider : Provider Unit where
  definition := { Definition.new "first" "Mock" with id := 1 }
  source := { Sample.source "Mock" with
    fetchAuthor := fun id => .done (.ok (some (Sample.author id "Ann")))
    fetchBook := fun _ => .done (.error (.transport "reset")) }
  number := 0
  rules := { callTimeout := Span.seconds 30 }

/-- The state after an author was asked for twice, then a book. -/
def stateAfterThree : State (Unit × List Question) :=
  [ProviderRequest.inquire (.author "1" true), .inquire (.author "1" true), .inquire (.book "2")].foldl
    (fun s r => ((r.perform storedProvider.journaled).eval s).2) { world := ((), []) }

/-- The author is found once and then remembered; the book is a failure. -/
def callsOfThree : List EndedCall :=
  [⟨.inquire (.author "1" true), .ok (), ⟨0, 0⟩⟩,
    ⟨.inquire (.book "2"), .error (.transport "reset"), ⟨0, 0⟩⟩]

/-- One success and one failure are counted. -/
theorem accounted_stateAfterThree :
    RequestRun storedProvider { world := ((), []) } callsOfThree stateAfterThree ∧
      Accounted storedProvider { world := ((), []) } callsOfThree stateAfterThree ∧
      (stateAfterThree.store.health 1).successes = 1 ∧
      (stateAfterThree.store.health 1).failures = 1 := by
  have hrun : RequestRun storedProvider { world := ((), []) } callsOfThree stateAfterThree :=
    ((RequestRun.start.request (.inquire (.author "1" true))).request
      (.inquire (.author "1" true))).request (.inquire (.book "2"))
  have haccounted := accounted_of_requestRun hrun
  exact ⟨hrun, haccounted, haccounted.successes rfl rfl (by decide),
    haccounted.failures rfl rfl (by decide)⟩

/-- If the table of health records cannot be used, a success is not counted. -/
theorem uncounted_diskOnFire :
    ¬ ∀ (start : State (Unit × List Question)) (es : List EndedCall) (s : State (Unit × List Question)),
      RequestRun storedProvider start es s →
        (start.store.health 1).successes + es.countP EndedCall.isSuccess < 2 ^ 63 →
          (s.store.health 1).successes =
            (start.store.health 1).successes + es.countP EndedCall.isSuccess := by
  intro hexact
  have hrun : RequestRun storedProvider
      { world := ((), []), store := { healthFault := some "disk on fire" } }
      [⟨.inquire (.author "1" true), .ok (), ⟨0, 0⟩⟩] _ :=
    RequestRun.start.request (.inquire (.author "1" true))
  exact absurd (hexact _ _ _ hrun (by decide)) (by decide)

end Biblio
