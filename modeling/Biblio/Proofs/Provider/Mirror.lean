import Biblio.Proofs.Provider.Inquiry

/-!
# The journal changes nothing else

A provider that keeps a journal does what it does without one.

* `State.forget` is a state without the journal.
* `Action.Mirrors` says that one action does in the states without a journal what another does in those
  with one.
* `Inquiry.mirrors_ask` — so does every inquiry to a provider.
-/

set_option autoImplicit false

namespace Biblio

variable {W J α β V : Type}

/-- The state without the second part of the world. -/
def State.forget (s : State (W × J)) : State W where
  now := s.now
  wall := s.wall
  runtime := s.runtime
  world := s.world.1
  store := s.store
  metrics := s.metrics
  caches := s.caches
  built := s.built

/-- An action that does without the second part of the world what another one does with it. -/
def Action.Mirrors (a : Action W α) (b : Action (W × J) α) : Prop :=
  ∀ s, a.eval s.forget = ((b.eval s).1, (b.eval s).2.forget)

namespace Action

theorem mirrors_pure (x : α) : Mirrors (pure x : Action W α) (pure x : Action (W × J) α) :=
  fun _ => rfl

theorem mirrors_count (c : Series) :
    Mirrors (count c : Action W Unit) (count c : Action (W × J) Unit) :=
  fun _ => rfl

theorem Mirrors.bind {a : Action W α} {b : Action (W × J) α} {f : α → Action W β}
    {g : α → Action (W × J) β} (h : Mirrors a b) (hnext : ∀ x, Mirrors (f x) (g x)) :
    Mirrors (a >>= f) (b >>= g) := by
  intro s
  rw [eval_bind, eval_bind, h s]
  obtain ⟨r, s'⟩ := b.eval s
  cases r with
  | error e => rfl
  | ok x => exact hnext x s'

theorem Mirrors.map {a : Action W α} {b : Action (W × J) α} (h : Mirrors a b) (f : α → β) :
    Mirrors (f <$> a) (f <$> b) := by
  rw [map_eq_pure_bind, map_eq_pure_bind]
  exact h.bind fun x => mirrors_pure (f x)

end Action

namespace Provider

variable (p : Provider W) (o : Operation)

/-- A call is mirrored by the call with a journal. -/
theorem mirrors_bounded (q : Question) (call : Call W α) :
    Action.Mirrors (p.bounded call) (p.journaled.bounded (call.noted q)) := by
  intro s
  have hworld : s.world = (s.world.1, s.world.2) := rfl
  have hforget : p.limit s.forget = p.journaled.limit s := rfl
  cases hstart : p.journaled.limit s with
  | error e =>
    rw [p.eval_bounded_of_overflow call (hforget.trans hstart),
      p.journaled.eval_bounded_of_overflow (call.noted q) hstart]
  | ok limit =>
    have hrun := limit.run_noted s.now s.world.1 s.world.2 q call
    have hending : p.ending s.forget call = p.journaled.ending s (call.noted q) := by
      simp only [ending, hforget, hstart]
      rw [hworld, hrun]
      rfl
    rw [p.eval_bounded_of_start call (hforget.trans hstart),
      p.journaled.eval_bounded_of_start (call.noted q) hstart, hending]
    simp only [State.forget, State.later]
    rw [hworld, hrun]

theorem mirrors_record (r : Except SourceError (Option α)) :
    Action.Mirrors (p.record r) (p.journaled.record r) := by
  have hmodify {f : State W → State W} {g : State (W × List Question) → State (W × List Question)}
      (h : ∀ s, f s.forget = (g s).forget) : Action.Mirrors (modify f) (modify g) := by
    intro s
    rw [Action.eval_modify, Action.eval_modify, h]
  have hsuccess : Action.Mirrors p.recordSuccess p.journaled.recordSuccess := by
    refine hmodify fun s => ?_
    rw [apply_ite State.forget]
    rfl
  have hfailure (least : Span) :
      Action.Mirrors (p.recordFailure least) (p.journaled.recordFailure least) := by
    refine hmodify fun s => ?_
    rw [apply_ite State.forget]
    rfl
  cases r with
  | ok found => exact hsuccess
  | error e =>
    rw [record, record]
    split
    · exact Action.mirrors_pure _
    · exact hfailure _

theorem mirrors_observe (q : Question) (call : Call W α) :
    Action.Mirrors (p.observe o call) (p.journaled.observe o (call.noted q)) :=
  (p.mirrors_bounded q call).bind fun r => (Action.mirrors_count _).bind fun _ =>
    (p.mirrors_record (outcome r)).bind fun _ => (Action.mirrors_count _).bind fun _ =>
      Action.mirrors_pure _

theorem mirrors_remembered (shelf : Shelf V) (key : String) :
    Action.Mirrors (p.remembered shelf key) (p.journaled.remembered shelf key) := by
  intro s
  cases hget : (shelf.get (s.cachesOf p.journaled)).get s.now key with
  | error e =>
    rw [eval_remembered_of_error (s := s.forget) hget, eval_remembered_of_error hget]
  | ok found =>
    rw [eval_remembered_of_get (s := s.forget) hget, eval_remembered_of_get hget]
    rfl

theorem mirrors_keep (shelf : Shelf V) (key : String) (v : V) :
    Action.Mirrors (p.keep shelf key v) (p.journaled.keep shelf key v) := by
  intro s
  cases hafter : s.now.after (shelf.get (s.cachesOf p.journaled)).expiry.window with
  | error e => rw [eval_keep_of_overflow (s := s.forget) hafter, eval_keep_of_overflow hafter]
  | ok till =>
    rw [eval_keep_of_after (s := s.forget) hafter, eval_keep_of_after hafter]
    rfl

theorem mirrors_shelve (shelf : Shelf V) (key : String) (worth : α → Option V)
    (r : Except SourceError α) :
    Action.Mirrors (p.shelve shelf key worth r) (p.journaled.shelve shelf key worth r) := by
  cases r with
  | error e => exact Action.mirrors_pure _
  | ok a =>
    rw [shelve, shelve]
    cases worth a with
    | none => exact Action.mirrors_pure _
    | some v => exact (p.mirrors_keep shelf key v).bind fun _ => Action.mirrors_pure _

theorem mirrors_through (shelf : Shelf V) (key : String) (shown : V → α) (worth : α → Option V)
    {go : Action W (Except SourceError α)} {go' : Action (W × List Question) (Except SourceError α)}
    (h : Action.Mirrors go go') :
    Action.Mirrors (p.through shelf key shown worth go)
      (p.journaled.through shelf key shown worth go') := by
  rw [through_eq, through_eq]
  refine (p.mirrors_remembered shelf key).bind fun hit => ?_
  cases hit with
  | some v => exact Action.mirrors_pure _
  | none => exact h.bind fun r => p.mirrors_shelve shelf key worth r

theorem mirrors_ifSupported {go : Action W (Except SourceError α)}
    {go' : Action (W × List Question) (Except SourceError α)} (h : Action.Mirrors go go') :
    Action.Mirrors (p.ifSupported o go) (p.journaled.ifSupported o go') := by
  rw [ifSupported, ifSupported]
  have hgate : p.journaled.gate o = p.gate o := rfl
  rw [hgate]
  cases p.gate o with
  | error e => exact Action.mirrors_pure _
  | ok _ => exact h

theorem mirrors_entity (q : Question) (call : Call W (Option α)) :
    Action.Mirrors (p.entity o call) (p.journaled.entity o (call.noted q)) := by
  rw [entity_eq, entity_eq]
  exact (p.mirrors_observe o q call).map _

theorem mirrors_results (q : Question) (call : Call W (List α)) :
    Action.Mirrors (p.results o call) (p.journaled.results o (call.noted q)) := by
  rw [results_eq, results_eq]
  exact (p.mirrors_observe o q call).map _

end Provider

/-- **The provider does the same without a journal.** -/
theorem Inquiry.mirrors_ask (p : Provider W) (q : Inquiry) :
    Action.Mirrors (q.ask p) (q.ask p.journaled) := by
  cases q with
  | author id useCache =>
    refine Action.Mirrors.map (p.mirrors_ifSupported .getAuthor ?_) _
    have hask := p.mirrors_entity .getAuthor (.author id) (p.source.fetchAuthor id)
    cases useCache with
    | false => exact hask
    | true => exact p.mirrors_through Shelf.authors id some (fun found => found) hask
  | book id =>
    exact (p.mirrors_ifSupported .getBook (p.mirrors_through Shelf.books id some (fun found => found)
      (p.mirrors_entity .getBook (.book id) (p.source.fetchBook id)))).map _
  | authors query =>
    exact (p.mirrors_ifSupported .searchAuthors (p.mirrors_through _ _ _ _
      (p.mirrors_results .searchAuthors (.authors query) (p.source.searchAuthors query)))).map _
  | books title author? allEditions =>
    exact (p.mirrors_ifSupported .searchBooks (p.mirrors_through _ _ _ _
      (p.mirrors_results .searchBooks (.books title author? allEditions)
        (p.source.searchBooks title author? allEditions)))).map _
  | isbn number =>
    exact (p.mirrors_ifSupported .searchIsbn (p.mirrors_through _ _ _ _
      (p.mirrors_results .searchIsbn (.isbn (Text.isbnKey number))
        (p.source.searchIsbn (Text.isbnKey number))))).map _
  | asin number =>
    exact (p.mirrors_ifSupported .searchAsin (p.mirrors_through _ _ _ _
      (p.mirrors_results .searchAsin (.asin (Text.asinKey number))
        (p.source.searchAsin (Text.asinKey number))))).map _

end Biblio
