import Biblio.Proofs.Provider.Requests
import Biblio.Proofs.Provider.Room

/-!
# Providers in use

A provider carries out requests while time passes.  A request may break off because of the clock, and
the provider is used all the same afterwards.

* `Provider.InUse` are the states that a provider gets into, and `InUse.timed` says that its caches count
  the lives of their entries as its rules have it in all of them.
* `Action.BreaksOff` — an action ends with an overflow of the clock.  `breaksOff_keep_iff`,
  `breaksOff_remembered_iff` and `breaksOff_bounded` say when the three things do that add to the clock.
* `stopsIn_perform` — a request breaks off for none but these reasons.
-/

set_option autoImplicit false

namespace Biblio

variable {W α β : Type}

/-! ## What an action does to the lives of entries -/

namespace Action

variable {p : Provider W} {a : Action W α} {f : α → Action W β} {s s' : State W}

/-- An action breaks off because the clock would overflow. -/
def BreaksOff (a : Action W α) (s : State W) : Prop := ∃ e, (a.eval s).1 = .error e

/-- The caches of a provider count the lives of their entries as before, also if the action breaks
off. -/
def KeepsExpiries (p : Provider W) (a : Action W α) : Prop :=
  ∀ s (k : ShelfName),
    (k.shelf.get ((a.eval s).2.cachesOf p)).expiry = (k.shelf.get (s.cachesOf p)).expiry

theorem IgnoresCaches.keepsExpiries (h : a.IgnoresCaches) : a.KeepsExpiries p := by
  intro s k
  rw [State.cachesOf_congr p (h.caches_eq s)]

theorem KeepsExpiries.bind (ha : a.KeepsExpiries p) (hf : ∀ x, (f x).KeepsExpiries p) :
    (a >>= f).KeepsExpiries p := by
  intro s k
  have hfirst := ha s k
  rw [eval_bind]
  cases hrun : a.eval s with
  | mk r s' =>
    rw [hrun] at hfirst
    cases r with
    | ok x => exact (hf x s' k).trans hfirst
    | error e => exact hfirst

theorem KeepsExpiries.map (ha : a.KeepsExpiries p) (g : α → β) : (g <$> a).KeepsExpiries p := by
  rw [map_eq_pure_bind]
  exact ha.bind fun x => (ignoresCaches_pure (g x)).keepsExpiries

/-- The state after an action whose answer is changed. -/
theorem state_map (a : Action W α) (g : α → β) (s : State W) : ((g <$> a).eval s).2 = (a.eval s).2 := by
  rw [eval_map]

theorem breaksOff_of_error {e : ClockOverflow} (h : a.eval s = (.error e, s')) : a.BreaksOff s :=
  ⟨e, by rw [h]⟩

theorem not_breaksOff_of_ok {x : α} (h : a.eval s = (.ok x, s')) : ¬ a.BreaksOff s := by
  rintro ⟨e, he⟩
  rw [h] at he
  cases he

theorem BreaksOff.map (h : a.BreaksOff s) (g : α → β) : (g <$> a).BreaksOff s := by
  obtain ⟨e, he⟩ := h
  refine ⟨e, ?_⟩
  rw [eval_map, he]
  rfl

end Action

namespace Cache

variable {V : Type} {c c' : Cache V} {now : Instant} {key : String} {answer : Option V}

/-- A look-up does not change how lives are counted. -/
theorem expiry_of_get (h : c.get now key = .ok (answer, c')) : c'.expiry = c.expiry := by
  rcases get_cases h with rfl | ⟨e, till, -, rfl⟩ | rfl <;> rfl

end Cache

namespace Provider

variable {p : Provider W} {s : State W}

theorem keepsExpiries_setCaches {k : ShelfName} {c : Cache k.Value}
    (h : c.expiry = (k.shelf.get (s.cachesOf p)).expiry) (l : ShelfName) :
    (l.shelf.get ((s.setCaches p (k.shelf.set c (s.cachesOf p))).cachesOf p)).expiry =
      (l.shelf.get (s.cachesOf p)).expiry := by
  rw [State.cachesOf_setCaches]
  by_cases hl : l = k
  · subst hl
    rw [l.get_set_self, h]
  · rw [k.get_set_ne hl]

theorem keepsExpiries_remembered (k : ShelfName) (key : String) :
    (p.remembered k.shelf key).KeepsExpiries p := by
  intro s l
  cases hget : (k.shelf.get (s.cachesOf p)).get s.now key with
  | error e => rw [eval_remembered_of_error hget]
  | ok found =>
    rw [eval_remembered_of_get hget]
    exact keepsExpiries_setCaches (Cache.expiry_of_get hget) l

theorem keepsExpiries_keep (k : ShelfName) (key : String) (v : k.Value) :
    (p.keep k.shelf key v).KeepsExpiries p := by
  intro s l
  cases hafter : s.now.after (k.shelf.get (s.cachesOf p)).expiry.window with
  | error e => rw [eval_keep_of_overflow hafter]
  | ok till =>
    have hput : ((k.shelf.get (s.cachesOf p)).put key ⟨v, till⟩).expiry =
        (k.shelf.get (s.cachesOf p)).expiry := rfl
    rw [eval_keep_of_after hafter]
    exact keepsExpiries_setCaches hput l

theorem keepsExpiries_purge : p.purge.KeepsExpiries p := by
  intro s l
  have hcaches : ((p.purge.eval s).2.cachesOf p) = ((s.cachesOf p).purge s.now).2 :=
    s.cachesOf_setCaches p _
  rw [hcaches]
  cases l <;> rfl

end Provider

namespace Consultation

variable {k : ShelfName} {A : Type} (f : Consultation W k A) {p : Provider W}

theorem keepsExpiries_ask : (f.ask p).KeepsExpiries p := by
  have hshelve : ∀ r, (p.shelve k.shelf f.key f.worth r).KeepsExpiries p := by
    intro r
    cases r with
    | error e => exact (Action.ignoresCaches_pure _).keepsExpiries
    | ok a =>
      rw [Provider.shelve]
      cases f.worth a with
      | none => exact (Action.ignoresCaches_pure _).keepsExpiries
      | some v =>
        exact (Provider.keepsExpiries_keep k f.key v).bind fun _ =>
          (Action.ignoresCaches_pure _).keepsExpiries
  have hgo : (f.go p).KeepsExpiries p :=
    ((p.ignoresCaches_observe f.operation f.call).map _).keepsExpiries
  cases hsupports : p.supports f.operation with
  | false =>
    intro s l
    rw [f.eval_ask_of_unsupported hsupports s]
  | true =>
    rw [f.ask_eq hsupports]
    refine Action.KeepsExpiries.map ((Provider.keepsExpiries_remembered k f.key).bind fun hit => ?_) _
    cases hit with
    | some v => exact (Action.ignoresCaches_pure _).keepsExpiries
    | none => exact hgo.bind hshelve

end Consultation

/-! ## Requests -/

namespace ProviderRequest

variable {p : Provider W}

/-- Whatever becomes of a request. -/
theorem keepsExpiries_perform (r : ProviderRequest) : (r.perform p).KeepsExpiries p := by
  cases r with
  | inquire q =>
    refine Action.KeepsExpiries.map ?_ _
    cases hslot : q.slot? with
    | none => exact (q.ignoresCaches_of_slot?_eq_none p hslot).keepsExpiries
    | some slot =>
      obtain ⟨A, f, -, -, hask, -, -⟩ := Inquiry.exists_telling p hslot
      rw [hask]
      exact f.keepsExpiries_ask
  | changes since =>
    have hask : (p.changedAuthors since).IgnoresCaches := by
      rw [Provider.changedAuthors, Provider.ifSupported]
      cases p.gate .changedAuthors with
      | error e => exact Action.ignoresCaches_pure _
      | ok _ =>
        rw [Provider.results_eq]
        exact (p.ignoresCaches_observe _ _).map _
    exact hask.keepsExpiries.map _
  | reach => exact (p.ignoresCaches_bounded _).keepsExpiries.map _
  | test =>
    have htest : p.test.IgnoresCaches := by
      rw [Provider.test]
      refine (p.ignoresCaches_bounded _).bind fun r => ?_
      cases r <;> exact Action.ignoresCaches_pure _
    exact htest.keepsExpiries.map _
  | purge => exact Provider.keepsExpiries_purge.map _

/-- **A request breaks off only where the clock has no room** for a span of the provider. -/
theorem stopsIn_perform (r : ProviderRequest) : (r.perform p).StopsIn p.Cramped := by
  cases r with
  | inquire q =>
    refine Action.StopsIn.map ?_ _
    cases q with
    | author id useCache => exact (Provider.stopsIn_fetchAuthor id useCache).map _
    | book id => exact (Provider.stopsIn_fetchBook id).map _
    | authors query => exact (Provider.stopsIn_searchAuthors query).map _
    | books title author? allEditions =>
      exact (Provider.stopsIn_searchBooks title author? allEditions).map _
    | isbn number => exact (Provider.stopsIn_searchIsbn number).map _
    | asin number => exact (Provider.stopsIn_searchAsin number).map _
  | changes since => exact (Provider.stopsIn_changedAuthors since).map _
  | reach => exact (Provider.stopsIn_bounded _).map _
  | test =>
    refine Action.StopsIn.map ?_ _
    rw [Provider.test]
    refine (Provider.stopsIn_bounded _).bind fun r => ?_
    cases r <;> exact Action.stopsIn_pure _
  | purge =>
    refine Action.StopsIn.map ?_ _
    exact Action.stopsIn_of_ok fun s => ⟨_, rfl⟩

end ProviderRequest

/-! ## The states of a provider -/

namespace Provider

variable {p : Provider W} {s s' : State W}

/-- The states that a provider gets into. -/
inductive InUse (p : Provider W) : State W → Prop
  /-- There is nothing in its caches yet. -/
  | start {s : State W} (fresh : s.caches.lookup p.number = none) : InUse p s
  /-- It carries out a request, whatever becomes of it. -/
  | request {s : State W} (before : InUse p s) (r : ProviderRequest) : InUse p ((r.perform p).eval s).2
  /-- Something else happens, and time passes. -/
  | meanwhile {s s' : State W} (before : InUse p s) (later : s.now ≤ s'.now)
      (caches : s'.cachesOf p = s.cachesOf p) : InUse p s'

/-- **The caches of a provider in use** count the lives of their entries as its rules have it. -/
theorem InUse.timed (h : p.InUse s) : (s.cachesOf p).Timed p.rules.windows := by
  induction h with
  | @start s fresh =>
    intro k
    rw [State.cachesOf, fresh]
    exact k.expiry_empty p.rules.windows
  | @request s before r ih => exact fun k => (r.keepsExpiries_perform s k).trans (ih k)
  | meanwhile before later caches ih =>
    intro k
    rw [caches]
    exact ih k

theorem InUse.window_eq (h : p.InUse s) (k : ShelfName) :
    (k.shelf.get (s.cachesOf p)).expiry.window = k.window p.rules.windows := by
  rw [h.timed k, k.window_expiry]

/-! ## When the clock overflows -/

/-- Storing an answer breaks off exactly if there is no room for its life. -/
theorem breaksOff_keep_iff (h : p.InUse s) (k : ShelfName) (key : String) (v : k.Value) :
    (p.keep k.shelf key v).BreaksOff s ↔ s.now.after (k.window p.rules.windows) = .error .beyondEnd := by
  rw [← h.window_eq k]
  cases hafter : s.now.after (k.shelf.get (s.cachesOf p)).expiry.window with
  | ok till =>
    simp [Action.not_breaksOff_of_ok (eval_keep_of_after hafter)]
  | error e =>
    cases e
    simp [Action.breaksOff_of_error (eval_keep_of_overflow hafter)]

/-- A look-up breaks off exactly if it finds something whose life begins anew, and there is no room
for that. -/
theorem breaksOff_remembered_iff (h : p.InUse s) (k : ShelfName) (key : String) :
    (p.remembered k.shelf key).BreaksOff s ↔ k.rolls = true ∧
      ((k.shelf.get (s.cachesOf p)).live s.now key).isSome = true ∧
      s.now.after (k.window p.rules.windows) = .error .beyondEnd := by
  have hexpiry := h.timed k
  rw [ShelfName.expiry] at hexpiry
  cases hlive : (k.shelf.get (s.cachesOf p)).live s.now key with
  | none =>
    obtain ⟨c, hget, -⟩ := Cache.get_of_not_live hlive
    simp [Action.not_breaksOff_of_ok (eval_remembered_of_get hget)]
  | some v =>
    cases hrolls : k.rolls with
    | false =>
      rw [hrolls, if_neg Bool.false_ne_true] at hexpiry
      have hget := Cache.get_fixed hexpiry hlive
      simp [Action.not_breaksOff_of_ok (eval_remembered_of_get hget)]
    | true =>
      rw [hrolls, if_pos rfl] at hexpiry
      have hget := Cache.get_rolling hexpiry hlive
      cases hafter : s.now.after (k.window p.rules.windows) with
      | ok till =>
        rw [hafter] at hget
        simp [Action.not_breaksOff_of_ok (eval_remembered_of_get hget)]
      | error e =>
        rw [hafter] at hget
        cases e
        simp [Action.breaksOff_of_error (eval_remembered_of_error hget)]

/-- A call breaks off at once if there is no room for its time limit when it begins. -/
theorem breaksOff_bounded (call : Call W α) (h : s.now.after p.rules.callTimeout = .error .beyondEnd) :
    (p.bounded call).BreaksOff s ∧ ((p.bounded call).eval s).2 = s := by
  have hrun := p.eval_bounded_of_overflow call (limit_of_overflow h)
  exact ⟨Action.breaksOff_of_error hrun, by rw [hrun]⟩

end Provider
end Biblio
