import Biblio.Proofs.Provider.Consultation

/-!
# Room on the clock

Asking a provider adds spans to the clock: the time limit of a call, and the windows of its caches.  The
clock has a last instant, and there is nothing else that a question to a provider breaks off for.

* `Provider.Cramped` — the clock has no room for one of the spans of a provider.
* `Action.StopsIn` — an action breaks off only in states of a kind.  It passes from the parts of an action
  to the whole.
* `TimeLimit.run_overflow` — where a deadline cannot be put off there is no room for the whole limit.
* `stopsIn_bounded`, `stopsIn_remembered` and `stopsIn_keep` are the three things that add to the clock;
  the questions that are made of them follow.
-/

set_option autoImplicit false

namespace Biblio

/-! ## Spans that do not fit -/

theorem Instant.after_of_error {t : Instant} {d d' : Span} {e : ClockOverflow}
    (h : t.after d = .error e) (hle : d ≤ d') : t.after d' = .error e := by
  cases hafter : t.after d' with
  | ok u => exact nomatch h.symm.trans (Instant.after_of_le hafter (Nat.add_le_add_left hle t))
  | error e' =>
    cases e
    cases e'
    rfl

/-- A read finds no room only for the window of the cache. -/
theorem Cache.after_of_get {V : Type} {c : Cache V} {now : Instant} {key : String} {e : ClockOverflow}
    (h : c.get now key = .error e) : now.after c.expiry.window = .error e := by
  unfold Cache.get at h
  split at h
  · simp at h
  · split at h
    · split at h
      · simp at h
      · next window hexpiry =>
        rw [hexpiry]
        show now.after window = .error e
        split at h
        · next hafter => rw [hafter, Except.error.inj h]
        · simp at h
    · simp at h

namespace TimeLimit

variable {W α : Type}

/-- The limit stays the same while its deadline is put off. -/
theorem allowed_of_pass {l l' : TimeLimit} {goal : Instant} (h : l.pass goal = .passed l') :
    l'.allowed = l.allowed := by
  fun_induction l.pass goal with
  | case1 l hearly => rw [Passage.passed.inj h]
  | case2 l hlate hspent => simp at h
  | case3 l hlate hleft e hafter => simp at h
  | case4 l hlate hleft u hafter ih => exact ih h

theorem after_of_pass {l : TimeLimit} {goal t : Instant} (h : l.pass goal = .overflow t) :
    t.after l.allowed = .error .beyondEnd := by
  fun_induction l.pass goal with
  | case1 l hearly => simp at h
  | case2 l hlate hspent => simp at h
  | case3 l hlate hleft e hafter =>
    obtain rfl := Passage.overflow.inj h
    cases e
    exact Instant.after_of_error hafter (Nat.sub_le l.allowed _)
  | case4 l hlate hleft u hafter ih => exact ih h

/-- **Where a deadline cannot be put off** there is no room for the whole limit. -/
theorem run_overflow {l : TimeLimit} {now : Instant} {w : W} {call : Activity W α}
    (h : (l.run now w call).1 = .overflow) :
    (l.run now w call).2.1.after l.allowed = .error .beyondEnd := by
  induction call generalizing l now w with
  | done a => simp [run] at h
  | look next ih => exact ih now w h
  | change f next ih => exact ih h
  | hold next ih => exact ih h
  | release next ih => exact ih h
  | wait span next ih =>
    rw [run] at h ⊢
    cases hpass : l.pass (now + span) with
    | passed l' =>
      rw [hpass] at h
      rw [← allowed_of_pass hpass]
      exact ih h
    | expired t => simp [hpass] at h
    | overflow t => exact after_of_pass hpass

end TimeLimit

/-! ## Actions that break off -/

namespace Action

variable {W α β : Type} {kind kind' : State W → Prop} {a : Action W α} {f : α → Action W β}

/-- An action breaks off only in states of a kind. -/
def StopsIn (kind : State W → Prop) (a : Action W α) : Prop :=
  ∀ s e, (a.eval s).1 = .error e → kind (a.eval s).2

theorem stopsIn_of_ok (h : ∀ s, ∃ x, (a.eval s).1 = .ok x) : a.StopsIn kind := by
  intro s e he
  obtain ⟨x, hx⟩ := h s
  exact nomatch he.symm.trans hx

theorem stopsIn_pure (x : α) : (pure x : Action W α).StopsIn kind := stopsIn_of_ok fun _ => ⟨x, rfl⟩

theorem stopsIn_count (c : Series) : (count c : Action W Unit).StopsIn kind :=
  stopsIn_of_ok fun _ => ⟨_, rfl⟩

theorem StopsIn.mono (h : a.StopsIn kind) (himp : ∀ s, kind s → kind' s) : a.StopsIn kind' :=
  fun s e he => himp _ (h s e he)

theorem StopsIn.bind (ha : a.StopsIn kind) (hf : ∀ x, (f x).StopsIn kind) :
    (a >>= f).StopsIn kind := by
  intro s e he
  rw [eval_bind] at he ⊢
  cases hrun : a.eval s with
  | mk r s' =>
    rw [hrun] at he
    cases r with
    | ok x => exact hf x s' e he
    | error e' =>
      have hstop := ha s e'
      rw [hrun] at hstop
      exact hstop rfl

/-- A first part that only some runs have. -/
theorem StopsIn.optional {c : Prop} [Decidable c] {first : Action W β} (hfirst : first.StopsIn kind)
    (ha : a.StopsIn kind) : (if c then first >>= fun _ => a else a).StopsIn kind := by
  split
  · exact hfirst.bind fun _ => ha
  · exact ha

theorem StopsIn.map (ha : a.StopsIn kind) (g : α → β) : (g <$> a).StopsIn kind := by
  rw [map_eq_pure_bind]
  exact ha.bind fun x => stopsIn_pure (g x)

end Action

/-! ## Providers -/

namespace Provider

variable {W α V : Type} {p : Provider W} {kind : State W → Prop}

/-- The clock has no room for a span of a provider: its time limit, or the window of one of its
caches. -/
def Cramped (p : Provider W) (s : State W) : Prop :=
  s.now.after p.rules.callTimeout = .error .beyondEnd ∨
    ∃ k : ShelfName, s.now.after (k.shelf.get (s.cachesOf p)).expiry.window = .error .beyondEnd

/-- Where a call breaks off there is no room for its time limit. -/
theorem after_of_eval_bounded {call : Call W α} {s : State W} {e : ClockOverflow}
    (h : ((p.bounded call).eval s).1 = .error e) :
    ((p.bounded call).eval s).2.now.after p.rules.callTimeout = .error .beyondEnd := by
  cases hafter : s.now.after p.rules.callTimeout with
  | error e' => rw [p.eval_bounded_of_overflow call (limit_of_overflow hafter), hafter]
  | ok deadline =>
    obtain ⟨limit, hlimit, hallowed⟩ :
        ∃ limit, p.limit s = .ok limit ∧ limit.allowed = p.rules.callTimeout :=
      ⟨_, limit_of_after hafter, rfl⟩
    rw [p.eval_bounded, ending, hlimit] at h
    rw [p.eval_bounded_of_start call hlimit]
    cases hending : (limit.run s.now s.world call).1 with
    | answered r => simp [hending] at h
    | expired => simp [hending] at h
    | overflow =>
      rw [← hallowed]
      exact TimeLimit.run_overflow hending

theorem stopsIn_bounded (call : Call W α) : (p.bounded call).StopsIn p.Cramped :=
  fun _ _ he => .inl (after_of_eval_bounded he)

theorem stopsIn_track (o : Operation) (r : Except SourceError (Option α)) :
    (p.track o r).StopsIn kind := by
  have hrecord : (p.record r).StopsIn kind := by
    refine Action.stopsIn_of_ok fun s => ?_
    obtain ⟨s', hs'⟩ := p.eval_record r s
    exact ⟨⟨⟩, by rw [hs']⟩
  exact (Action.stopsIn_count _).bind fun _ => hrecord.bind fun _ =>
    (Action.stopsIn_count _).bind fun _ => Action.stopsIn_pure r

theorem stopsIn_observe (o : Operation) (call : Call W α) :
    (p.observe o call).StopsIn p.Cramped := by
  rw [observe_eq]
  exact (stopsIn_bounded call).bind fun r => stopsIn_track o (outcome r)

theorem stopsIn_remembered (k : ShelfName) (key : String) :
    (p.remembered k.shelf key).StopsIn p.Cramped := by
  intro s e he
  cases hget : (k.shelf.get (s.cachesOf p)).get s.now key with
  | ok found =>
    rw [eval_remembered_of_get hget] at he
    exact nomatch he
  | error e' =>
    rw [eval_remembered_of_error hget]
    cases e'
    exact .inr ⟨k, Cache.after_of_get hget⟩

theorem stopsIn_keep (k : ShelfName) (key : String) (v : k.Value) :
    (p.keep k.shelf key v).StopsIn p.Cramped := by
  intro s e he
  cases hafter : s.now.after (k.shelf.get (s.cachesOf p)).expiry.window with
  | ok till =>
    rw [eval_keep_of_after hafter] at he
    exact nomatch he
  | error e' =>
    rw [eval_keep_of_overflow hafter]
    cases e'
    exact .inr ⟨k, hafter⟩

/-- **A question that goes through a cache.** -/
theorem stopsIn_through (k : ShelfName) (key : String) (shown : k.Value → α)
    (worth : α → Option k.Value) {go : Action W (Except SourceError α)}
    (hgo : go.StopsIn p.Cramped) : (p.through k.shelf key shown worth go).StopsIn p.Cramped := by
  have hshelve : ∀ r, (p.shelve k.shelf key worth r).StopsIn p.Cramped := by
    intro r
    cases r with
    | error e => exact Action.stopsIn_pure _
    | ok a =>
      rw [shelve]
      cases worth a with
      | none => exact Action.stopsIn_pure _
      | some v => exact (stopsIn_keep k key v).bind fun _ => Action.stopsIn_pure _
  rw [through_eq]
  refine (stopsIn_remembered k key).bind fun hit => ?_
  cases hit with
  | some v => exact Action.stopsIn_pure _
  | none => exact hgo.bind hshelve

theorem stopsIn_entity (o : Operation) (call : Call W (Option α)) :
    (p.entity o call).StopsIn p.Cramped := by
  rw [entity_eq]
  exact (stopsIn_observe o call).map _

theorem stopsIn_results (o : Operation) (call : Call W (List α)) :
    (p.results o call).StopsIn p.Cramped := by
  rw [results_eq]
  exact (stopsIn_observe o call).map _

theorem stopsIn_ifSupported (o : Operation) {go : Action W (Except SourceError α)}
    (hgo : go.StopsIn kind) : (p.ifSupported o go).StopsIn kind := by
  unfold ifSupported
  split
  · exact Action.stopsIn_pure _
  · exact hgo

/-! ## Questions -/

theorem stopsIn_fetchAuthor (id : String) (useCache : Bool) :
    (p.fetchAuthor id useCache).StopsIn p.Cramped := by
  have hask := stopsIn_entity (p := p) .getAuthor (p.source.fetchAuthor id)
  refine stopsIn_ifSupported _ ?_
  cases useCache with
  | false => exact hask
  | true => exact stopsIn_through .authors id _ _ hask

theorem stopsIn_fetchBook (id : String) : (p.fetchBook id).StopsIn p.Cramped :=
  stopsIn_ifSupported _ (stopsIn_through .books id _ _ (stopsIn_entity _ _))

theorem stopsIn_searchAuthors (query : String) : (p.searchAuthors query).StopsIn p.Cramped :=
  stopsIn_ifSupported _ (stopsIn_through .authorSearches _ _ _ (stopsIn_results _ _))

theorem stopsIn_searchBooks (title : String) (author : Option String) (allEditions : Bool) :
    (p.searchBooks title author allEditions).StopsIn p.Cramped :=
  stopsIn_ifSupported _ (stopsIn_through .bookSearches _ _ _ (stopsIn_results _ _))

theorem stopsIn_searchIsbn (isbn : String) : (p.searchIsbn isbn).StopsIn p.Cramped :=
  stopsIn_ifSupported _ (stopsIn_through .isbn _ _ _ (stopsIn_results _ _))

theorem stopsIn_searchAsin (asin : String) : (p.searchAsin asin).StopsIn p.Cramped :=
  stopsIn_ifSupported _ (stopsIn_through .asin _ _ _ (stopsIn_results _ _))

theorem stopsIn_changedAuthors (since : Moment) : (p.changedAuthors since).StopsIn p.Cramped :=
  stopsIn_ifSupported _ (stopsIn_results _ _)

end Provider
end Biblio
