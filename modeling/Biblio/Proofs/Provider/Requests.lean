import Biblio.Proofs.Provider.Accounting

/-!
# Requests

All that a provider can be asked to do, and which call of the source counts for it.

* `ProviderRequest` lists the things, and `ProviderRequest.perform` does one of them.
* `ProviderRequest.told` is how the call of the source ends that is made for a request.  None is made
  for one that is refused or that is answered from a cache.
* `ProviderRequest.note?` is what counts of it: no call counts that only tries whether the source can be
  reached.
* `Performed` is what a request comes to, and `performed` proves it of all of them.
-/

set_option autoImplicit false

namespace Biblio

variable {W A : Type}

/-! ## Requests and what comes of them -/

/-- What a provider can be asked to do. -/
inductive ProviderRequest where
  | inquire (q : Inquiry)
  | changes (since : Moment)
  | reach
  | test
  | purge
  deriving DecidableEq

/-- The error that is told instead of an answer. -/
def Answer.error? : Answer → Option SourceError
  | .author found => errorOf found
  | .book found => errorOf found
  | .authors found => errorOf found
  | .books found => errorOf found

/-- What comes of a request. -/
inductive Result where
  | answer (a : Answer)
  | changes (found : Except SourceError (List String))
  | reached (r : Except SourceError Unit)
  | tested (v : Validation)
  | purged (count : Nat)

/-- The error that comes of a request; a test has its own way to show it. -/
def Result.error? : Result → Option SourceError
  | .answer a => a.error?
  | .changes found => errorOf found
  | .reached r => errorOf r
  | .tested _ => none
  | .purged _ => none

/-- How the call for an inquiry ends, if it is made. -/
def Inquiry.told (p : Provider W) (s : State W) : Inquiry → Option (Except SourceError Unit)
  | .author id _ => p.told s (p.source.fetchAuthor id)
  | .book id => p.told s (p.source.fetchBook id)
  | .authors query => p.told s (p.source.searchAuthors query)
  | .books title author? allEditions => p.told s (p.source.searchBooks title author? allEditions)
  | .isbn number => p.told s (p.source.searchIsbn (Text.isbnKey number))
  | .asin number => p.told s (p.source.searchAsin (Text.asinKey number))

namespace ProviderRequest

/-- Carries out a request. -/
def perform (p : Provider W) : ProviderRequest → Action W Result
  | .inquire q => .answer <$> q.ask p
  | .changes since => .changes <$> p.changedAuthors since
  | .reach => .reached <$> p.checkReachable
  | .test => .tested <$> p.test
  | .purge => .purged <$> p.purge

/-- What the source is asked. -/
def question? : ProviderRequest → Option Question
  | .inquire q => some q.question
  | .changes since => some (.changes since)
  | .reach => some .test
  | .test => some .test
  | .purge => none

/-- The operation that the source has to support. -/
def operation? : ProviderRequest → Option Operation
  | .inquire q => some q.operation
  | .changes _ => some .changedAuthors
  | _ => none

/-- The source does not support the operation. -/
def refused (p : Provider W) (r : ProviderRequest) : Bool := r.operation?.any fun o => !p.supports o

/-- There is an answer in a cache that is still live. -/
def remembered (p : Provider W) (s : State W) : ProviderRequest → Bool
  | .inquire q => q.slot?.any fun slot => (slot.live (s.cachesOf p) s.now).isSome
  | _ => false

/-- How the call of the source ends, if one is made. -/
def told (p : Provider W) (s : State W) (r : ProviderRequest) : Option (Except SourceError Unit) :=
  if r.refused p || r.remembered p s then none
  else
    match r with
    | .inquire q => q.told p s
    | .changes since => p.told s (p.source.changedAuthors since)
    | .reach => p.told s p.source.test
    | .test => p.told s p.source.test
    | .purge => none

/-- Whether calls for the request count. -/
def counts : ProviderRequest → Bool
  | .inquire _ => true
  | .changes _ => true
  | _ => false

/-- What counts of the call. -/
def note? (p : Provider W) (s : State W) (r : ProviderRequest) : Option Outcome :=
  if r.counts then (r.told p s).bind Provider.counted else none

end ProviderRequest

/-- What a request comes to. -/
structure Performed (p : Provider W) (s : State W) (r : ProviderRequest) : Prop where
  /-- The call that counts is noted when it has ended, and nothing else. -/
  store : ((r.perform p).eval s).2.store =
    p.noting s.store ((r.perform p).eval s).2.wall (r.note? p s)
  /-- There is no result before the end of the call. -/
  ended : (r.refused p || r.remembered p s) = false → r.question?.isSome = true →
    ∀ x, ((r.perform p).eval s).1 = .ok x → (r.told p s).isSome = true
  /-- Nothing happens to the source or the store if it is refused or answered from a cache. -/
  quiet : (r.refused p || r.remembered p s) = true → Quiet s ((r.perform p).eval s).2
  /-- It is refused with the error that says so. -/
  refused : ∀ o, r.operation? = some o → p.supports o = false →
    errorAfter Result.error? (r.perform p) s = some (.notSupported p.name o)
  /-- Any other error is that of the call; where calls count it is none if the source has nothing. -/
  error : r.refused p = false → r ≠ .test → errorAfter Result.error? (r.perform p) s =
    (r.told p s).bind fun ending =>
      if r.counts then errorOf (Provider.outcome ending) else errorOf ending

/-! ## Inquiries -/

section Inquiries

variable {p : Provider W} {s : State W}

theorem errorOf_map {B : Type} (f : A → B) (r : Except SourceError A) :
    errorOf (r.map f) = errorOf r := by
  cases r <;> rfl

namespace Consultation

variable {k : ShelfName} (f : Consultation W k A)

/-- **Without a live answer the call counts.** -/
theorem accounts_ask (htell : ∀ r, (f.tell r).error? = errorOf r)
    (hsupports : p.supports f.operation = true) (hlive : f.slot.live (s.cachesOf p) s.now = none) :
    Accounts p s (p.told s f.call) Answer.error? (f.ask p) := by
  have hgate : p.gate f.operation = .ok () := if_pos hsupports
  rw [live_slot, Option.map_eq_none_iff] at hlive
  rw [ask, Provider.ifSupported, hgate]
  refine (Accounts.through hlive fun s₁ hquiet => ?_).map htell
  rw [← p.told_congr hquiet.sameWorld]
  exact (accounts_observe p s₁ f.operation f.call).map (errorOf_map f.settle)

/-- **With one no source is called.** -/
theorem quiet_ask (htell : ∀ r, (f.tell r).error? = errorOf r)
    (hsupports : p.supports f.operation = true) {a : Answer}
    (hlive : f.slot.live (s.cachesOf p) s.now = some a) :
    Quiet s ((f.ask p).eval s).2 ∧ errorAfter Answer.error? (f.ask p) s = none := by
  have hgate : p.gate f.operation = .ok () := if_pos hsupports
  rw [live_slot] at hlive
  obtain ⟨v, hv, -⟩ := Option.map_eq_some_iff.mp hlive
  rw [ask, Provider.ifSupported, hgate, errorAfter_map htell, Action.eval_map]
  exact quiet_through hv

end Consultation

namespace Inquiry

/-- Every inquiry with a slot is a consultation, and an error is told as it is. -/
theorem exists_telling (p : Provider W) {q : Inquiry} {slot : Slot} (h : q.slot? = some slot) :
    ∃ (A : Type) (f : Consultation W slot.name A), f.slot = slot ∧ f.operation = q.operation ∧
      q.ask p = f.ask p ∧ (∀ s, p.told s f.call = q.told p s) ∧
        ∀ r, (f.tell r).error? = errorOf r := by
  cases q with
  | author id useCache =>
    cases useCache with
    | false => exact nomatch h
    | true =>
      obtain rfl := Option.some.inj h
      exact ⟨_, .author p id, rfl, rfl, ask_author p id, fun _ => rfl, fun _ => rfl⟩
  | book id =>
    obtain rfl := Option.some.inj h
    exact ⟨_, .book p id, rfl, rfl, ask_book p id, fun _ => rfl, fun _ => rfl⟩
  | authors query =>
    obtain rfl := Option.some.inj h
    exact ⟨_, .authors p query, rfl, rfl, ask_authors p query, fun _ => rfl, fun _ => rfl⟩
  | books title author? allEditions =>
    obtain rfl := Option.some.inj h
    exact ⟨_, .books p title author? allEditions, rfl, rfl, ask_books p _ _ _, fun _ => rfl,
      fun _ => rfl⟩
  | isbn number =>
    obtain rfl := Option.some.inj h
    exact ⟨_, .isbn p number, rfl, rfl, ask_isbn p number, fun _ => rfl, fun _ => rfl⟩
  | asin number =>
    obtain rfl := Option.some.inj h
    exact ⟨_, .asin p number, rfl, rfl, ask_asin p number, fun _ => rfl, fun _ => rfl⟩

variable {q : Inquiry}

/-- What the source does not support is refused with the error that says so. -/
theorem eval_ask_of_refused (h : p.supports q.operation = false) (s : State W) :
    ∃ a, (q.ask p).eval s = (.ok a, s) ∧ a.error? = some (.notSupported p.name q.operation) := by
  cases hslot : q.slot? with
  | none =>
    obtain ⟨id, rfl⟩ := eq_author_of_slot?_eq_none hslot
    have hgate : p.gate .getAuthor = .error (.notSupported p.name .getAuthor) :=
      if_neg (Bool.eq_false_iff.mp h)
    rw [ask_author_false, Provider.ifSupported, hgate]
    exact ⟨_, rfl, rfl⟩
  | some slot =>
    obtain ⟨A, f, -, hoperation, hask, -, htell⟩ := exists_telling p hslot
    rw [hask, ← hoperation]
    exact ⟨_, f.eval_ask_of_unsupported (hoperation ▸ h) s, htell _⟩

/-- **What is asked of the source counts.** -/
theorem accounts_ask (hsupports : p.supports q.operation = true)
    (hlive : ∀ slot, q.slot? = some slot → slot.live (s.cachesOf p) s.now = none) :
    Accounts p s (q.told p s) Answer.error? (q.ask p) := by
  cases hslot : q.slot? with
  | none =>
    obtain ⟨id, rfl⟩ := eq_author_of_slot?_eq_none hslot
    have hgate : p.gate .getAuthor = .ok () := if_pos hsupports
    rw [ask_author_false, Provider.ifSupported, hgate]
    exact ((accounts_observe p s _ _).map (errorOf_map Option.join)).map fun _ => rfl
  | some slot =>
    obtain ⟨A, f, hf, hoperation, hask, htold, htell⟩ := exists_telling p hslot
    have hnone := hlive slot hslot
    rw [← hf] at hnone
    rw [hask, ← htold]
    exact f.accounts_ask htell (hoperation ▸ hsupports) hnone

/-- **What is remembered is not.** -/
theorem quiet_ask (hsupports : p.supports q.operation = true) {slot : Slot}
    (hslot : q.slot? = some slot) {a : Answer} (hlive : slot.live (s.cachesOf p) s.now = some a) :
    Quiet s ((q.ask p).eval s).2 ∧ errorAfter Answer.error? (q.ask p) s = none := by
  obtain ⟨A, f, hf, hoperation, hask, -, htell⟩ := exists_telling p hslot
  rw [← hf] at hlive
  rw [hask]
  exact f.quiet_ask htell (hoperation ▸ hsupports) hlive

end Inquiry

end Inquiries

/-! ## All requests -/

section Performed

variable {p : Provider W} {s : State W} {r : ProviderRequest}

namespace ProviderRequest

theorem supports_of_not_refused (h : r.refused p = false) {o : Operation} (ho : r.operation? = some o) :
    p.supports o = true := by
  rw [refused, ho, Option.any_some] at h
  exact Bool.not_eq_eq_eq_not.mp h

theorem told_of_idle (h : (r.refused p || r.remembered p s) = true) : r.told p s = none := if_pos h

/-- A call is made only if there is no other answer. -/
theorem not_idle_of_told {ending : Except SourceError Unit} (h : r.told p s = some ending) :
    (r.refused p || r.remembered p s) = false := by
  rw [Bool.eq_false_iff]
  intro hidle
  rw [r.told_of_idle hidle] at h
  exact nomatch h

theorem told_inquire {q : Inquiry}
    (h : ((ProviderRequest.inquire q).refused p ||
      (ProviderRequest.inquire q).remembered p s) = false) :
    (ProviderRequest.inquire q).told p s = q.told p s := if_neg (Bool.eq_false_iff.mp h)

theorem told_changes {since : Moment}
    (h : ((ProviderRequest.changes since).refused p ||
      (ProviderRequest.changes since).remembered p s) = false) :
    (ProviderRequest.changes since).told p s = p.told s (p.source.changedAuthors since) :=
  if_neg (Bool.eq_false_iff.mp h)

theorem note?_of_idle (h : (r.refused p || r.remembered p s) = true) : r.note? p s = none := by
  rw [note?, r.told_of_idle h]
  exact ite_self none

/-- What cannot be refused is not remembered either. -/
theorem not_idle_of_operation?_eq_none (h : r.operation? = none) :
    (r.refused p || r.remembered p s) = false := by
  cases r with
  | inquire q => exact nomatch h
  | changes since => exact nomatch h
  | reach => rfl
  | test => rfl
  | purge => rfl

end ProviderRequest

/-- A request that is refused. -/
theorem Performed.of_refused {o : Operation} (ho : r.operation? = some o)
    (hsupports : p.supports o = false) {x : Result} (heval : (r.perform p).eval s = (.ok x, s))
    (herror : x.error? = some (.notSupported p.name o)) : Performed p s r := by
  have hrefused : r.refused p = true := by
    rw [ProviderRequest.refused, ho, Option.any_some, hsupports]
    rfl
  have hidle : (r.refused p || r.remembered p s) = true := by rw [hrefused]; rfl
  refine ⟨?_, fun hbusy => ?_, fun _ => ?_, fun o' ho' _ => ?_, fun hnot => ?_⟩
  · rw [heval, r.note?_of_idle hidle]
    rfl
  · exact absurd (hbusy.symm.trans hidle) Bool.false_ne_true
  · rw [heval]
    exact ⟨⟨rfl, rfl, rfl, rfl⟩, rfl⟩
  · obtain rfl := Option.some.inj (ho.symm.trans ho')
    rw [errorAfter, heval]
    exact herror
  · exact absurd (hnot.symm.trans hrefused) Bool.false_ne_true

/-- A request that is answered from a cache. -/
theorem Performed.of_remembered (hrefused : r.refused p = false) (hremembered : r.remembered p s = true)
    (hquiet : Quiet s ((r.perform p).eval s).2)
    (herror : errorAfter Result.error? (r.perform p) s = none) : Performed p s r := by
  have hidle : (r.refused p || r.remembered p s) = true := by rw [hremembered, Bool.or_true]
  refine ⟨?_, fun hbusy => ?_, fun _ => hquiet, fun o ho hsupports => ?_, fun _ _ => ?_⟩
  · rw [hquiet.store, r.note?_of_idle hidle]
    rfl
  · exact absurd (hbusy.symm.trans hidle) Bool.false_ne_true
  · have hsupported := r.supports_of_not_refused hrefused ho
    exact absurd (hsupports.symm.trans hsupported) Bool.false_ne_true
  · rw [herror, r.told_of_idle hidle]
    rfl

/-- A request that counts, and for which the source is called. -/
theorem Performed.of_accounts (hidle : (r.refused p || r.remembered p s) = false)
    (hcounts : r.counts = true) (h : Accounts p s (r.told p s) Result.error? (r.perform p)) :
    Performed p s r where
  store := by rw [h.store, ProviderRequest.note?, if_pos hcounts]
  ended _ _ := h.ended
  quiet hquiet := absurd (hidle.symm.trans hquiet) Bool.false_ne_true
  refused o ho hsupports := by
    have hsupported := r.supports_of_not_refused (Bool.or_eq_false_iff.mp hidle).1 ho
    exact absurd (hsupports.symm.trans hsupported) Bool.false_ne_true
  error _ _ := by
    rw [h.error, hcounts]
    rfl

/-- A request that does not count. -/
theorem Performed.of_keepsStore (hnone : r.operation? = none) (hcounts : r.counts = false)
    (h : (r.perform p).KeepsStore)
    (hended : r.question?.isSome = true →
      ∀ x, ((r.perform p).eval s).1 = .ok x → (r.told p s).isSome = true)
    (herror : r ≠ .test → errorAfter Result.error? (r.perform p) s = (r.told p s).bind errorOf) :
    Performed p s r where
  store := by
    rw [h s, ProviderRequest.note?, hcounts]
    rfl
  ended _ := hended
  quiet hquiet := absurd ((r.not_idle_of_operation?_eq_none hnone).symm.trans hquiet) Bool.false_ne_true
  refused o ho _ := nomatch hnone.symm.trans ho
  error _ htest := by
    rw [herror htest, hcounts]
    rfl

theorem performed_inquire (p : Provider W) (s : State W) (q : Inquiry) : Performed p s (.inquire q) := by
  cases hsupports : p.supports q.operation with
  | false =>
    obtain ⟨a, heval, herror⟩ := Inquiry.eval_ask_of_refused hsupports s
    refine .of_refused (x := .answer a) rfl hsupports ?_ herror
    rw [ProviderRequest.perform, Action.eval_map, heval]
    rfl
  | true =>
    have hrefused : (ProviderRequest.inquire q).refused p = false := by
      rw [ProviderRequest.refused, ProviderRequest.operation?, Option.any_some, hsupports]
      rfl
    cases hremembered : (ProviderRequest.inquire q).remembered p s with
    | true =>
      obtain ⟨slot, hslot, hsome⟩ := Option.any_eq_true _ _ |>.mp hremembered
      obtain ⟨a, hlive⟩ := Option.isSome_iff_exists.mp hsome
      obtain ⟨hquiet, herror⟩ := Inquiry.quiet_ask hsupports hslot hlive
      refine .of_remembered hrefused hremembered ?_ ?_
      · rw [ProviderRequest.perform, Action.eval_map]
        exact hquiet
      · exact (errorAfter_map (fun _ => rfl) _ s).trans herror
    | false =>
      have hidle : ((ProviderRequest.inquire q).refused p ||
          (ProviderRequest.inquire q).remembered p s) = false := by
        rw [hrefused, hremembered]
        rfl
      refine .of_accounts hidle rfl ?_
      rw [ProviderRequest.told_inquire hidle]
      refine (Inquiry.accounts_ask hsupports fun slot hslot => ?_).map fun _ => rfl
      rw [ProviderRequest.remembered, hslot, Option.any_some] at hremembered
      exact Option.not_isSome_iff_eq_none.mp (Bool.eq_false_iff.mp hremembered)

theorem performed_changes (p : Provider W) (s : State W) (since : Moment) :
    Performed p s (.changes since) := by
  cases hsupports : p.supports .changedAuthors with
  | false =>
    have hgate : p.gate .changedAuthors = .error (.notSupported p.name .changedAuthors) :=
      if_neg (Bool.eq_false_iff.mp hsupports)
    refine .of_refused rfl hsupports (x := .changes (.error (.notSupported p.name .changedAuthors))) ?_ rfl
    rw [ProviderRequest.perform, Provider.changedAuthors, Provider.ifSupported, hgate]
    rfl
  | true =>
    have hgate : p.gate .changedAuthors = .ok () := if_pos hsupports
    have hidle : ((ProviderRequest.changes since).refused p ||
        (ProviderRequest.changes since).remembered p s) = false := by
      rw [ProviderRequest.refused, ProviderRequest.operation?, Option.any_some, hsupports]
      rfl
    refine .of_accounts hidle rfl ?_
    rw [ProviderRequest.told_changes hidle, ProviderRequest.perform, Provider.changedAuthors,
      Provider.ifSupported, hgate,
      Provider.results_eq]
    exact ((accounts_observe p s _ _).map (errorOf_map _)).map fun _ => rfl

theorem performed_reach (p : Provider W) (s : State W) : Performed p s .reach := by
  have hkeeps : (ProviderRequest.reach.perform p).KeepsStore := by
    rw [ProviderRequest.perform, map_eq_pure_bind]
    exact (p.keepsStore_bounded _).bind fun _ => Action.keepsStore_pure _
  refine .of_keepsStore rfl rfl hkeeps (fun _ x hx => ?_) fun _ => ?_
  · obtain ⟨r, hreach, -⟩ := Action.eval_map_eq_ok.mp (Prod.ext hx rfl)
    exact Provider.isSome_told_of_bounded (congrArg Prod.fst hreach)
  · have htold : ProviderRequest.reach.told p s = p.told s p.source.test := rfl
    have herror : errorAfter Result.error? (ProviderRequest.reach.perform p) s =
        errorAfter errorOf p.checkReachable s := errorAfter_map (fun _ => rfl) _ s
    rw [htold, herror, Provider.told, errorAfter, Provider.checkReachable, p.eval_bounded]
    cases p.ending s p.source.test with
    | error overflow => rfl
    | ok r => exact (errorOf_map _ r).symm

theorem performed_test (p : Provider W) (s : State W) : Performed p s .test := by
  have hkeeps : (ProviderRequest.test.perform p).KeepsStore := by
    rw [ProviderRequest.perform, map_eq_pure_bind, Provider.test]
    refine Action.KeepsStore.bind ?_ fun _ => Action.keepsStore_pure _
    refine (p.keepsStore_bounded _).bind fun r => ?_
    cases r <;> exact Action.keepsStore_pure _
  refine .of_keepsStore rfl rfl hkeeps (fun _ x hx => ?_) fun hne => absurd rfl hne
  obtain ⟨v, htest, -⟩ := Action.eval_map_eq_ok.mp (Prod.ext hx rfl)
  obtain ⟨r, s₁, hreach, -⟩ := Action.eval_bind_eq_ok.mp htest
  exact Provider.isSome_told_of_bounded (congrArg Prod.fst hreach)

theorem performed_purge (p : Provider W) (s : State W) : Performed p s .purge :=
  .of_keepsStore rfl rfl (fun _ => rfl) (fun h => nomatch h) fun _ => rfl

/-- **What every request comes to.** -/
theorem performed (p : Provider W) (s : State W) (r : ProviderRequest) : Performed p s r := by
  cases r with
  | inquire q => exact performed_inquire p s q
  | changes since => exact performed_changes p s since
  | reach => exact performed_reach p s
  | test => exact performed_test p s
  | purge => exact performed_purge p s

/-! ### What is not supported -/

/-- The error that is passed on says that something is not supported exactly if the call ended so. -/
theorem passed_iff_of_isNotSupported {e : SourceError} (h : e.isNotSupported = true) (counts : Bool)
    (told : Option (Except SourceError Unit)) :
    (told.bind fun ending =>
        if counts then errorOf (Provider.outcome ending) else errorOf ending) = some e ↔
      told = some (.error e) := by
  cases told with
  | none => exact iff_of_false (fun h => nomatch h) fun h => nomatch h
  | some ending =>
    rw [Option.bind_some, Option.some_inj]
    cases counts with
    | true => exact errorOf_outcome_eq_some.trans (and_iff_left (isNotFound_of_isNotSupported h))
    | false => exact errorOf_eq_some

theorem Performed.unsupported_iff {p : Provider W} {s : State W} {r : ProviderRequest}
    (h : Performed p s r)
    (hr : r ≠ .test) :
    (∃ e, errorAfter Result.error? (r.perform p) s = some e ∧ e.isNotSupported = true) ↔
      r.refused p = true ∨ ∃ e, r.told p s = some (.error e) ∧ e.isNotSupported = true := by
  cases hrefused : r.refused p with
  | true =>
    obtain ⟨o, ho, hsupports⟩ := (Option.any_eq_true _ _).mp hrefused
    refine iff_of_true ⟨_, h.refused o ho (Bool.not_eq_eq_eq_not.mp hsupports), rfl⟩ (.inl rfl)
  | false =>
    rw [h.error hrefused hr]
    refine Iff.trans ?_ (or_iff_right Bool.false_ne_true).symm
    exact exists_congr fun e => and_congr_left fun hnot => passed_iff_of_isNotSupported hnot _ _

end Performed

end Biblio
