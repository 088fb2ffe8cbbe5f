import Biblio.Proofs.Provider.Found
import Biblio.Proofs.Provider.Observed
import Biblio.Proofs.Provider.Slots

/-!
# Questions that go through a cache

A question is answered from a cache, or else the source is called and what it brings is stored.

* `Consultation` is such a question, and `Consultation.ask` puts it to a provider.
* `Consultation.ask_of_live` — an answer that is live is given, and the source is not called.
* `Consultation.ask_of_not_live` — without one the source is called.  What it finds is stored, and
  nothing is if it finds nothing.
-/

set_option autoImplicit false

namespace Biblio

variable {W α V : Type}

/-! ## Through a cache -/

namespace Provider

/-- Stores what is worth keeping, and passes the answer on. -/
def shelve (p : Provider W) (shelf : Shelf V) (key : String) (worth : α → Option V) :
    Except SourceError α → Action W (Except SourceError α)
  | .error e => return .error e
  | .ok a =>
    match worth a with
    | none => return .ok a
    | some v => do
      p.keep shelf key v
      return .ok a

theorem through_eq (p : Provider W) (shelf : Shelf V) (key : String) (shown : V → α)
    (worth : α → Option V) (go : Action W (Except SourceError α)) :
    p.through shelf key shown worth go = p.remembered shelf key >>= fun hit =>
      hit.elim (go >>= p.shelve shelf key worth) (fun v => pure (.ok (shown v))) := by
  rw [through]
  refine bind_congr fun hit => ?_
  cases hit with
  | some v => rfl
  | none =>
    refine bind_congr fun r => ?_
    cases r <;> rfl

variable {p : Provider W} {shelf : Shelf V} {key : String} {s : State W}

theorem eval_remembered_of_get {hit : Option V} {c : Cache V}
    (h : (shelf.get (s.cachesOf p)).get s.now key = .ok (hit, c)) :
    (p.remembered shelf key).eval s =
      (.ok hit, (s.setCaches p (shelf.set c (s.cachesOf p))).count
        [(Metrics.cacheLookup shelf.name hit.isSome, 1)]) := by
  rw [remembered, Action.eval_bind_of_ok (Action.eval_get s)]
  simp only [h]
  rw [Action.eval_bind_of_ok (Action.eval_set _ _), Action.eval_bind_of_ok (Action.eval_count _ _)]
  rfl

theorem eval_remembered_of_error {e : ClockOverflow}
    (h : (shelf.get (s.cachesOf p)).get s.now key = .error e) :
    (p.remembered shelf key).eval s = (.error e, s) := by
  rw [remembered, Action.eval_bind_of_ok (Action.eval_get s)]
  simp only [h]
  rfl

theorem eval_keep_of_after {v : V} {till : Instant}
    (h : s.now.after (shelf.get (s.cachesOf p)).expiry.window = .ok till) :
    (p.keep shelf key v).eval s =
      (.ok ⟨⟩, s.setCaches p (shelf.set ((shelf.get (s.cachesOf p)).put key ⟨v, till⟩)
        (s.cachesOf p))) := by
  rw [keep, Action.eval_bind_of_ok (Action.eval_get s)]
  simp only [Cache.insert, h]
  rfl

theorem eval_keep_of_overflow {v : V} {e : ClockOverflow}
    (h : s.now.after (shelf.get (s.cachesOf p)).expiry.window = .error e) :
    (p.keep shelf key v).eval s = (.error e, s) := by
  rw [keep, Action.eval_bind_of_ok (Action.eval_get s)]
  simp only [Cache.insert, h]
  rfl

theorem keepsWorld_keep (v : V) : (p.keep shelf key v).KeepsWorld := by
  intro s
  cases hafter : s.now.after (shelf.get (s.cachesOf p)).expiry.window with
  | error e =>
    rw [eval_keep_of_overflow hafter]
    exact ⟨rfl, rfl, rfl, rfl⟩
  | ok till =>
    rw [eval_keep_of_after hafter]
    exact ⟨rfl, rfl, rfl, rfl⟩

theorem keepsWorld_shelve (worth : α → Option V) (r : Except SourceError α) :
    (p.shelve shelf key worth r).KeepsWorld := by
  cases r with
  | error e => exact Action.keepsWorld_pure _
  | ok a =>
    rw [shelve]
    cases worth a with
    | none => exact Action.keepsWorld_pure _
    | some v => exact (keepsWorld_keep v).bind fun _ => Action.keepsWorld_pure _

/-- What is passed on is what was answered.  It is stored if it is worth keeping, and else nothing
happens. -/
theorem shelve_cases {worth : α → Option V} {r r' : Except SourceError α} {s' : State W}
    (h : (p.shelve shelf key worth r).eval s = (.ok r', s')) :
    r' = r ∧ ((s' = s ∧ ∀ a, r = .ok a → worth a = none) ∨
      ∃ a v till, r = .ok a ∧ worth a = some v ∧
        s.now.after (shelf.get (s.cachesOf p)).expiry.window = .ok till ∧
        s' = s.setCaches p (shelf.set ((shelf.get (s.cachesOf p)).put key ⟨v, till⟩)
          (s.cachesOf p))) := by
  cases r with
  | error e =>
    obtain ⟨hr, rfl⟩ := Prod.mk.inj h
    exact ⟨(Except.ok.inj hr).symm, .inl ⟨rfl, fun a ha => nomatch ha⟩⟩
  | ok a =>
    rw [shelve] at h
    cases hworth : worth a with
    | none =>
      rw [hworth] at h
      obtain ⟨hr, rfl⟩ := Prod.mk.inj h
      refine ⟨(Except.ok.inj hr).symm, .inl ⟨rfl, fun b hb => ?_⟩⟩
      rw [← Except.ok.inj hb, hworth]
    | some v =>
      rw [hworth] at h
      obtain ⟨_, s₁, hkeep, h⟩ := Action.eval_bind_eq_ok.mp h
      obtain ⟨hr, rfl⟩ := Prod.mk.inj h
      cases hafter : s.now.after (shelf.get (s.cachesOf p)).expiry.window with
      | error e =>
        rw [eval_keep_of_overflow hafter] at hkeep
        exact nomatch congrArg Prod.fst hkeep
      | ok till =>
        rw [eval_keep_of_after hafter] at hkeep
        exact ⟨(Except.ok.inj hr).symm,
          .inr ⟨a, v, till, rfl, hworth, rfl, (congrArg Prod.snd hkeep).symm⟩⟩

end Provider

/-! ## Consultations -/

/-- A question that is answered from a cache if possible. -/
structure Consultation (W : Type) (k : ShelfName) (A : Type) where
  operation : Operation
  key : String
  /-- The call of the source. -/
  call : Call W A
  /-- What is made of an answer; a source that has nothing gives none. -/
  settle : Option A → A
  /-- What is made of a value that was kept. -/
  shown : k.Value → A
  /-- What is worth keeping of an answer. -/
  worth : A → Option k.Value
  /-- The answer that is given. -/
  tell : Except SourceError A → Answer
  tell_shown : ∀ v, tell (.ok (shown v)) = k.shown v
  tell_of_worth : ∀ {a v}, worth a = some v → tell (.ok a) = k.shown v ∧ (k.shown v).Finds
  not_finds : ∀ {a}, worth a = none → ¬ (tell (.ok a)).Finds
  not_finds_error : ∀ e, ¬ (tell (.error e)).Finds

/-- What an answer does to the answers that are live: it is stored if it finds something and the
source was called for it, or if reading it counts as a use. -/
structure Settles (w : CacheWindows) (slot : Slot) (called : Bool) (a : Answer) (now : Instant)
    (cs cs' : Caches) : Prop where
  stored : a.Finds ∧ (called || slot.name.rolls) = true →
    Caches.Stored slot a (now + slot.name.window w) now cs cs'
  same : ¬ (a.Finds ∧ (called || slot.name.rolls) = true) → Caches.SameFrom now cs cs'

namespace Consultation

variable {k : ShelfName} {A : Type} (f : Consultation W k A) {p : Provider W} {s : State W}

/-- The slot that is looked into. -/
def slot : Slot := ⟨k, f.key⟩

theorem live_slot (cs : Caches) (t : Instant) :
    f.slot.live cs t = ((k.shelf.get cs).live t f.key).map k.shown := rfl

/-- Calls the source. -/
def go (p : Provider W) : Action W (Except SourceError A) :=
  Except.map f.settle <$> p.observe f.operation f.call

/-- Asks a provider. -/
def ask (p : Provider W) : Action W Answer :=
  f.tell <$> p.ifSupported f.operation (p.through k.shelf f.key f.shown f.worth (f.go p))

theorem eval_ask_of_unsupported (h : p.supports f.operation = false) (s : State W) :
    (f.ask p).eval s = (.ok (f.tell (.error (.notSupported p.name f.operation))), s) := by
  rw [ask, Provider.ifSupported, Provider.gate, h]
  rfl

theorem ask_eq (h : p.supports f.operation = true) :
    f.ask p = f.tell <$> (p.remembered k.shelf f.key >>= fun hit =>
      hit.elim (f.go p >>= p.shelve k.shelf f.key f.worth) (fun v => pure (.ok (f.shown v)))) := by
  have hgate : p.gate f.operation = .ok () := if_pos h
  rw [ask, Provider.ifSupported, hgate, Provider.through_eq]

/-- The answer when the cache has something. -/
theorem eval_ask_of_hit {v : k.Value} {c : Cache k.Value} (hsupports : p.supports f.operation = true)
    (h : (k.shelf.get (s.cachesOf p)).get s.now f.key = .ok (some v, c)) :
    (f.ask p).eval s = (.ok (k.shown v), (s.setCaches p (k.shelf.set c (s.cachesOf p))).count
      [(Metrics.cacheLookup k.shelf.name true, 1)]) := by
  rw [f.ask_eq hsupports, Action.eval_map,
    Action.eval_bind_of_ok (Provider.eval_remembered_of_get h), ← f.tell_shown v]
  rfl

theorem finds_of_rolls {k : ShelfName} (h : k.rolls = true) (v : k.Value) : (k.shown v).Finds := by
  cases k <;> first | exact trivial | exact nomatch h

/-- **An answer that is live is given**, and the source is not called. -/
theorem ask_of_live {a : Answer} (hsupports : p.supports f.operation = true)
    (htimed : (s.cachesOf p).Timed p.rules.windows)
    (hlive : f.slot.live (s.cachesOf p) s.now = some a)
    (hroom : k.rolls = true → ∃ till, s.now.after (k.window p.rules.windows) = .ok till) :
    ∃ s', (f.ask p).eval s = (.ok a, s') ∧ s'.now = s.now ∧ s'.world = s.world ∧
      Settles p.rules.windows f.slot false a s.now (s.cachesOf p) (s'.cachesOf p) := by
  rw [live_slot] at hlive
  obtain ⟨v, hv, rfl⟩ := Option.map_eq_some_iff.mp hlive
  have hcaches (c : Cache k.Value) := s.cachesOf_setCaches p (k.shelf.set c (s.cachesOf p))
  have hexpiry := htimed k
  rw [ShelfName.expiry] at hexpiry
  cases hrolls : k.rolls with
  | true =>
    obtain ⟨till, hafter⟩ := hroom hrolls
    rw [hrolls, if_pos rfl] at hexpiry
    have hget := Cache.get_rolling hexpiry hv
    rw [hafter] at hget
    obtain rfl := Instant.after_eq_ok hafter
    refine ⟨_, f.eval_ask_of_hit hsupports hget, rfl, rfl, fun _ => ?_, fun h => ?_⟩
    · exact (hcaches _).symm ▸ Caches.stored_put v (s.cachesOf p) s.now
    · exact absurd ⟨finds_of_rolls hrolls v, hrolls⟩ h
  | false =>
    rw [hrolls, if_neg Bool.false_ne_true] at hexpiry
    refine ⟨_, f.eval_ask_of_hit hsupports (Cache.get_fixed hexpiry hv), rfl, rfl, fun h => ?_,
      fun _ => ?_⟩
    · exact absurd (hrolls.symm.trans h.2) Bool.false_ne_true
    · exact (hcaches _).symm ▸ Caches.sameFrom_set rfl fun _ _ _ => rfl

/-- Without room for it on the clock, the entry cannot be prolonged. -/
theorem room_of_ask {a : Answer} {s' : State W} (hsupports : p.supports f.operation = true)
    (htimed : (s.cachesOf p).Timed p.rules.windows)
    {b : Answer} (hlive : f.slot.live (s.cachesOf p) s.now = some b)
    (h : (f.ask p).eval s = (.ok a, s')) :
    k.rolls = true → ∃ till, s.now.after (k.window p.rules.windows) = .ok till := by
  intro hrolls
  rw [live_slot] at hlive
  obtain ⟨v, hv, rfl⟩ := Option.map_eq_some_iff.mp hlive
  have hexpiry := htimed k
  rw [ShelfName.expiry, hrolls, if_pos rfl] at hexpiry
  cases hafter : s.now.after (k.window p.rules.windows) with
  | ok till => exact ⟨till, rfl⟩
  | error e =>
    have hget := Cache.get_rolling hexpiry hv
    rw [hafter] at hget
    rw [f.ask_eq hsupports, Action.eval_map,
      Action.eval_bind_of_error (Provider.eval_remembered_of_error hget)] at h
    exact nomatch congrArg Prod.fst h

/-- Without a live answer the question goes to the source. -/
theorem eval_ask_of_not_live (hsupports : p.supports f.operation = true)
    (hlive : f.slot.live (s.cachesOf p) s.now = none) :
    ∃ s₁, (f.ask p).eval s =
        (f.tell <$> (f.go p >>= p.shelve k.shelf f.key f.worth)).eval s₁ ∧
      s.SameWorld s₁ ∧ Caches.SameFrom s.now (s.cachesOf p) (s₁.cachesOf p) := by
  rw [live_slot, Option.map_eq_none_iff] at hlive
  obtain ⟨c, hget, hexpiry, hsame⟩ := Cache.get_of_not_live hlive
  have hcaches := s.cachesOf_setCaches p (k.shelf.set c (s.cachesOf p))
  have hremembered := Provider.eval_remembered_of_get hget
  refine ⟨(s.setCaches p (k.shelf.set c (s.cachesOf p))).count
    [(Metrics.cacheLookup k.shelf.name false, 1)], ?_, ⟨rfl, rfl, rfl, rfl⟩,
    hcaches.symm ▸ Caches.sameFrom_set hexpiry hsame⟩
  rw [f.ask_eq hsupports, Action.eval_map, Action.eval_map, Action.eval_bind_of_ok hremembered]
  rfl

/-- **Without one the source is called**, whatever comes of it. -/
theorem asked_ask_of_not_live {f : Consultation (W × List Question) k A}
    {p : Provider (W × List Question)} {s : State (W × List Question)} {q : Question}
    {call : Call W A} (hcall : f.call = call.noted q) (hsupports : p.supports f.operation = true)
    (hlive : f.slot.live (s.cachesOf p) s.now = none) {limit : TimeLimit}
    (hstart : p.limit s = .ok limit) :
    ((f.ask p).eval s).2.asked = s.asked ++ [q] ∧ s.now ≤ ((f.ask p).eval s).2.now := by
  obtain ⟨s₁, heval, hsame, -⟩ := f.eval_ask_of_not_live hsupports hlive
  have hshelve (r : Except SourceError A) : (p.shelve k.shelf f.key f.worth r).KeepsWorld :=
    Provider.keepsWorld_shelve f.worth r
  have hsame' := Action.world_bind (a := f.go p) hshelve s₁
  rw [← p.limit_congr hsame] at hstart
  have hobserve := Provider.asked_observe f.operation p q call hstart
  rw [← hcall] at hobserve
  rw [go, Action.eval_map] at hsame'
  rw [heval, Action.eval_map, State.asked, go, hsame'.world, hsame'.now]
  rw [State.asked, State.asked, hsame.world, hsame.now] at hobserve
  exact hobserve

/-- A source that was called to an end ran under a limit. -/
theorem start_of_ask {a : Answer} {s' : State W} (hsupports : p.supports f.operation = true)
    (hlive : f.slot.live (s.cachesOf p) s.now = none) (h : (f.ask p).eval s = (.ok a, s')) :
    ∃ limit, p.limit s = .ok limit := by
  obtain ⟨s₁, heval, hsame, -⟩ := f.eval_ask_of_not_live hsupports hlive
  rw [heval] at h
  obtain ⟨r', hrun, rfl⟩ := Action.eval_map_eq_ok.mp h
  obtain ⟨r, s₂, hgo, -⟩ := Action.eval_bind_eq_ok.mp hrun
  obtain ⟨x, hobserve, rfl⟩ := Action.eval_map_eq_ok.mp hgo
  rw [← p.limit_congr hsame]
  exact p.start_of_observe f.operation hobserve

/-- **What it finds is stored**, and nothing is if it finds nothing. -/
theorem settles_of_not_live {a : Answer} {s' : State W} (hsupports : p.supports f.operation = true)
    (htimed : (s.cachesOf p).Timed p.rules.windows)
    (hlive : f.slot.live (s.cachesOf p) s.now = none) (h : (f.ask p).eval s = (.ok a, s'))
    (hnow : s.now ≤ s'.now) :
    Settles p.rules.windows f.slot true a s'.now (s.cachesOf p) (s'.cachesOf p) := by
  obtain ⟨s₁, heval, -, hsame⟩ := f.eval_ask_of_not_live hsupports hlive
  rw [heval] at h
  obtain ⟨r', hrun, rfl⟩ := Action.eval_map_eq_ok.mp h
  obtain ⟨r, s₂, hgo, hshelve⟩ := Action.eval_bind_eq_ok.mp hrun
  have hignores : (f.go p).IgnoresCaches := (p.ignoresCaches_observe f.operation f.call).map _
  have hcaches : s₂.cachesOf p = s₁.cachesOf p := by
    have hkept := hignores.caches_eq s₁
    rw [hgo] at hkept
    exact State.cachesOf_congr p hkept
  obtain ⟨rfl, ⟨rfl, hvain⟩ | ⟨x, v, till, rfl, hworth, hafter, rfl⟩⟩ := Provider.shelve_cases hshelve
  · have hnone : ¬ (f.tell r').Finds := by
      cases r' with
      | error e => exact f.not_finds_error e
      | ok x => exact f.not_finds (hvain x rfl)
    refine ⟨fun hfinds => absurd hfinds.1 hnone, fun _ => ?_⟩
    rw [hcaches]
    exact hsame.of_le hnow
  · obtain ⟨htell, hfinds⟩ := f.tell_of_worth hworth
    refine ⟨fun _ => ?_, fun hnone => absurd ⟨htell ▸ hfinds, rfl⟩ hnone⟩
    -- the window counts from the end of the call, not from its beginning
    have hwindow : (k.shelf.get (s₂.cachesOf p)).expiry.window = k.window p.rules.windows := by
      rw [hcaches, hsame.expiry, htimed, k.window_expiry]
    rw [hwindow] at hafter
    obtain rfl := Instant.after_eq_ok hafter
    rw [State.cachesOf_setCaches, htell, hcaches]
    exact (hsame.of_le hnow).trans_stored (Caches.stored_put v (s₁.cachesOf p) _)

end Consultation
end Biblio
