import Biblio.Proofs.Provider.Consultation

/-!
# What the caches of entities hold

Entities that are fetched by identifier are kept in rolling caches.  What a provider passes on through
such a cache is kept there, whatever it is.

* `Cache.Holds` — the cache is rolling, and what it keeps is allowed under its key.
* `Shelf.Guards` — a property of all caches says this of the one on a shelf.  `Fetch.allCaches_ask` — such
  a property lasts, if what is passed on is allowed.
* `Fetch.keeps_of_ask` — what is passed on through a cache is kept there for the window.
* `Fetch.reply_of_keeps` — as long as it is alive the provider replies with it, and does not call its
  source.  `Fetch.allowed_of_cached` — the provider replies with nothing else from its cache.
-/

set_option autoImplicit false

namespace Biblio

variable {W T V : Type}

/-! ## One cache -/

namespace Cache

variable {c c' : Cache V} {now till : Instant} {key : String} {v : V} {hit : Option V}
  {allowed allowed' : String → V → Prop}

/-- A use begins the life of an entry anew, and every value, alive or not, is allowed under its key. -/
structure Holds (allowed : String → V → Prop) (c : Cache V) : Prop where
  rolling : ∃ window, c.expiry = .rolling window
  values : ∀ e ∈ c.entries, allowed e.1 e.2.value

theorem Holds.mono (h : c.Holds allowed) (hle : ∀ key v, allowed key v → allowed' key v) :
    c.Holds allowed' :=
  ⟨h.rolling, fun e he => hle e.1 e.2.value (h.values e he)⟩

theorem Holds.of_find? (h : c.Holds allowed) {e : CacheEntry V} (hfind : c.find? key = some e) :
    allowed key e.value :=
  h.values (key, e) (Table.mem_of_lookup hfind)

theorem Holds.put (h : c.Holds allowed) (hv : allowed key v) (till : Instant) :
    (c.put key ⟨v, till⟩).Holds allowed := by
  refine ⟨h.rolling, fun e he => ?_⟩
  rcases List.mem_cons.mp he with rfl | he
  · exact hv
  · exact h.values e (List.mem_filter.mp he).1

theorem Holds.get (h : c.Holds allowed) (hget : c.get now key = .ok (hit, c')) : c'.Holds allowed := by
  rcases get_cases hget with rfl | ⟨e, till, hfind, rfl⟩ | rfl
  · exact h
  · exact h.put (h.of_find? hfind) till
  · exact ⟨h.rolling, fun e he => h.values e (List.mem_filter.mp he).1⟩

/-- What is found is in the cache afterwards, until the window has passed. -/
theorem Holds.find?_get (h : c.Holds allowed) (hget : c.get now key = .ok (some v, c')) :
    c'.find? key = some ⟨v, now + c'.expiry.window⟩ := by
  obtain ⟨window, hexpiry⟩ := h.rolling
  rw [get_rolling hexpiry (answer_of_get hget).symm] at hget
  cases hafter : now.after window with
  | error e =>
    rw [hafter] at hget
    exact nomatch hget
  | ok till =>
    rw [hafter] at hget
    obtain ⟨-, rfl⟩ := Prod.mk.inj (Except.ok.inj hget)
    have hwindow : (c.put key ⟨v, till⟩).expiry.window = window := congrArg Expiry.window hexpiry
    rw [find?_put_self, hwindow, Instant.after_eq_ok hafter]

end Cache

/-! ## The caches of a provider -/

/-- A property of the caches says of the one on a shelf what it holds, and no more. -/
structure Shelf.Guards (shelf : Shelf T) (allowed : String → T → Prop) (P : Caches → Prop) : Prop where
  get_set : ∀ c cs, shelf.get (shelf.set c cs) = c
  empty : ∀ w, P (Caches.empty w)
  holds : ∀ {cs}, P cs → (shelf.get cs).Holds allowed
  set : ∀ {cs c}, P cs → c.Holds allowed → P (shelf.set c cs)

/-- An entity is kept on a shelf under a key, for the window from an instant on. -/
structure Shelf.Keeps (shelf : Shelf T) (cs : Caches) (key : String) (t : T) (since : Instant) :
    Prop where
  rolling : ∃ window, (shelf.get cs).expiry = .rolling window
  find? : (shelf.get cs).find? key = some ⟨t, since + (shelf.get cs).expiry.window⟩

namespace State

variable {s s' : State W} {P : Nat → Caches → Prop}

/-- A property of the caches of all providers, which are told apart by their numbers. -/
def AllCaches (P : Nat → Caches → Prop) (s : State W) : Prop := ∀ e ∈ s.caches, P e.1 e.2

theorem AllCaches.congr (h : s.AllCaches P) (hcaches : s'.caches = s.caches) : s'.AllCaches P := by
  rw [AllCaches, hcaches]
  exact h

/-- A provider without caches begins with empty ones. -/
theorem AllCaches.cachesOf (h : s.AllCaches P) (p : Provider W)
    (hempty : ∀ w, P p.number (Caches.empty w)) : P p.number (s.cachesOf p) := by
  rw [State.cachesOf]
  cases hfind : s.caches.lookup p.number with
  | none => exact hempty _
  | some cs => exact h _ (Table.mem_of_lookup hfind)

theorem AllCaches.setCaches (h : s.AllCaches P) (p : Provider W) {cs : Caches} (hcs : P p.number cs) :
    (s.setCaches p cs).AllCaches P := by
  intro e he
  rcases List.mem_cons.mp he with rfl | he
  · exact hcs
  · exact h e (List.mem_filter.mp he).1

end State

/-! ## Questions -/

namespace Provider

variable {p : Provider W} {shelf : Shelf T} {key : String} {s s' : State W} {P : Nat → Caches → Prop}
  {allowed : String → T → Prop}

theorem allCaches_remembered (key : String) (hguards : shelf.Guards allowed (P p.number))
    (hs : s.AllCaches P) : ((p.remembered shelf key).eval s).2.AllCaches P := by
  cases hget : (shelf.get (s.cachesOf p)).get s.now key with
  | error e =>
    rw [eval_remembered_of_error hget]
    exact hs
  | ok found =>
    have hcaches := hs.cachesOf p hguards.empty
    rw [eval_remembered_of_get hget]
    exact hs.setCaches p (hguards.set hcaches ((hguards.holds hcaches).get hget))

/-- Storing what is passed on, if it is allowed. -/
theorem allCaches_shelve (hguards : shelf.Guards allowed (P p.number)) (hs : s.AllCaches P)
    {r : Except SourceError (Option T)} {x : Except ClockOverflow (Except SourceError (Option T))}
    (h : (p.shelve shelf key (fun found => found) r).eval s = (x, s'))
    (hallowed : ∀ t, x = .ok (.ok (some t)) → allowed key t) : s'.AllCaches P := by
  cases r with
  | error e =>
    obtain ⟨-, rfl⟩ := Prod.mk.inj h
    exact hs
  | ok found =>
    cases found with
    | none =>
      obtain ⟨-, rfl⟩ := Prod.mk.inj h
      exact hs
    | some t =>
      simp only [shelve] at h
      cases hafter : s.now.after (shelf.get (s.cachesOf p)).expiry.window with
      | error e =>
        rw [Action.eval_bind_of_error (eval_keep_of_overflow hafter)] at h
        obtain ⟨-, rfl⟩ := Prod.mk.inj h
        exact hs
      | ok till =>
        have hcaches := hs.cachesOf p hguards.empty
        rw [Action.eval_bind_of_ok (eval_keep_of_after hafter)] at h
        obtain ⟨rfl, rfl⟩ := Prod.mk.inj h
        exact hs.setCaches p
          (hguards.set hcaches ((hguards.holds hcaches).put (hallowed t rfl) till))

/-- What was stored is kept. -/
theorem keeps_of_shelve (hset : ∀ c cs, shelf.get (shelf.set c cs) = c)
    (hrolling : ∃ window, (shelf.get (s.cachesOf p)).expiry = .rolling window)
    {r : Except SourceError (Option T)} {t : T}
    (h : (p.shelve shelf key (fun found => found) r).eval s = (.ok (.ok (some t)), s')) :
    shelf.Keeps (s'.cachesOf p) key t s'.now := by
  obtain ⟨rfl, ⟨-, hvain⟩ | ⟨found, v, till, hfound, rfl, hafter, rfl⟩⟩ := shelve_cases h
  · exact nomatch hvain _ rfl
  · obtain rfl := Option.some.inj (Except.ok.inj hfound)
    obtain rfl := Instant.after_eq_ok hafter
    refine ⟨?_, ?_⟩
    · rw [State.cachesOf_setCaches, hset]
      exact hrolling
    · rw [State.cachesOf_setCaches, hset, Cache.find?_put_self]
      rfl

end Provider

namespace Fetch

variable {f : Fetch W T} {p : Provider W} {shelf : Shelf T} {s s' : State W} {P : Nat → Caches → Prop}
  {allowed : String → T → Prop} {x : Except ClockOverflow (Except SourceError (Option T))}

theorem ask_of_unsupported (h : p.supports f.operation = false) (s : State W) :
    (f.ask p).eval s = (.ok (.error (.notSupported p.name f.operation)), s) := by
  rw [ask, Provider.ifSupported, Provider.gate, h]
  rfl

/-- Calls the source, and keeps track of it. -/
def go (f : Fetch W T) (p : Provider W) : Action W (Except SourceError (Option T)) :=
  p.entity f.operation (f.call p)

theorem ignoresCaches_go (f : Fetch W T) (p : Provider W) : (f.go p).IgnoresCaches := by
  rw [go, Provider.entity_eq]
  exact (p.ignoresCaches_observe f.operation (f.call p)).map _

theorem ask_of_shelf (hsupports : p.supports f.operation = true) (hshelf : f.shelf = some shelf) :
    f.ask p = p.remembered shelf f.key >>= fun hit =>
      hit.elim (f.go p >>= p.shelve shelf f.key fun found => found)
        (fun t => pure (.ok (some t))) := by
  have hgate : p.gate f.operation = .ok () := if_pos hsupports
  rw [ask, Provider.ifSupported, hgate]
  simp only [hshelf]
  exact p.through_eq shelf f.key some (fun found => found) (f.go p)

theorem ask_of_no_shelf (hsupports : p.supports f.operation = true) (hshelf : f.shelf = none) :
    f.ask p = f.go p := by
  have hgate : p.gate f.operation = .ok () := if_pos hsupports
  rw [ask, Provider.ifSupported, hgate]
  simp only [hshelf]
  rfl

/-- **What the caches hold lasts**, if nothing is passed on through a cache that is not allowed there. -/
theorem allCaches_ask (hguards : ∀ shelf, f.shelf = some shelf → shelf.Guards allowed (P p.number))
    (hs : s.AllCaches P) (h : (f.ask p).eval s = (x, s'))
    (hallowed : f.shelf.isSome → ∀ t, x = .ok (.ok (some t)) → allowed f.key t) : s'.AllCaches P := by
  cases hsupports : p.supports f.operation with
  | false =>
    rw [ask_of_unsupported hsupports] at h
    obtain ⟨-, rfl⟩ := Prod.mk.inj h
    exact hs
  | true =>
    cases hshelf : f.shelf with
    | none =>
      rw [ask_of_no_shelf hsupports hshelf] at h
      have hcaches := (f.ignoresCaches_go p).caches_eq s
      rw [h] at hcaches
      exact hs.congr hcaches
    | some shelf =>
      have hremembered := Provider.allCaches_remembered f.key (hguards shelf hshelf) hs
      rw [ask_of_shelf hsupports hshelf, Action.eval_bind] at h
      cases hlook : (p.remembered shelf f.key).eval s with
      | mk looked s₁ =>
        rw [hlook] at h hremembered
        cases looked with
        | error e =>
          obtain ⟨-, rfl⟩ := Prod.mk.inj h
          exact hremembered
        | ok hit =>
          cases hit with
          | some t =>
            obtain ⟨-, rfl⟩ := Prod.mk.inj h
            exact hremembered
          | none =>
            -- the source is called, and this does not touch the caches
            have hcaches := (f.ignoresCaches_go p).caches_eq s₁
            simp only [Option.elim_none, Action.eval_bind] at h
            cases hgo : (f.go p).eval s₁ with
            | mk called s₂ =>
              rw [hgo] at h hcaches
              have hs₂ : s₂.AllCaches P := hremembered.congr hcaches
              cases called with
              | error e =>
                obtain ⟨-, rfl⟩ := Prod.mk.inj h
                exact hs₂
              | ok r =>
                exact Provider.allCaches_shelve (hguards shelf hshelf) hs₂ h
                  (hallowed (by rw [hshelf]; rfl))

/-! ## What is kept -/

/-- After a look into the cache there is the call of the source, or there is what was found. -/
theorem eval_ask_of_get (hsupports : p.supports f.operation = true) (hshelf : f.shelf = some shelf)
    {hit : Option T} {c : Cache T}
    (hget : (shelf.get (s.cachesOf p)).get s.now f.key = .ok (hit, c)) :
    ∃ s₁, s₁.now = s.now ∧ s₁.cachesOf p = shelf.set c (s.cachesOf p) ∧ (f.ask p).eval s =
      (hit.elim (f.go p >>= p.shelve shelf f.key fun found => found)
        (fun t => pure (.ok (some t)))).eval s₁ := by
  refine ⟨(s.setCaches p (shelf.set c (s.cachesOf p))).count
    [(Metrics.cacheLookup shelf.name hit.isSome, 1)], rfl, s.cachesOf_setCaches p _, ?_⟩
  rw [ask_of_shelf hsupports hshelf, Action.eval_bind_of_ok (Provider.eval_remembered_of_get hget)]

/-- **What is passed on through a cache is kept there**, be it found there or brought by the source. -/
theorem keeps_of_ask (hshelf : f.shelf = some shelf) (hset : ∀ c cs, shelf.get (shelf.set c cs) = c)
    (hholds : (shelf.get (s.cachesOf p)).Holds allowed) {t : T}
    (h : (f.ask p).eval s = (.ok (.ok (some t)), s')) :
    shelf.Keeps (s'.cachesOf p) f.key t s'.now := by
  cases hsupports : p.supports f.operation with
  | false =>
    rw [ask_of_unsupported hsupports] at h
    exact nomatch Except.ok.inj (congrArg Prod.fst h)
  | true =>
    cases hget : (shelf.get (s.cachesOf p)).get s.now f.key with
    | error e =>
      rw [ask_of_shelf hsupports hshelf,
        Action.eval_bind_of_error (Provider.eval_remembered_of_error hget)] at h
      exact nomatch congrArg Prod.fst h
    | ok looked =>
      obtain ⟨hit, c⟩ := looked
      obtain ⟨s₁, hnow, hcaches, heval⟩ := eval_ask_of_get hsupports hshelf hget
      have hcache : shelf.get (s₁.cachesOf p) = c := by rw [hcaches, hset]
      have hrolling : ∃ window, (shelf.get (s₁.cachesOf p)).expiry = .rolling window := by
        rw [hcache]
        exact (hholds.get hget).rolling
      rw [heval] at h
      cases hit with
      | some v =>
        obtain ⟨hv, rfl⟩ := Prod.mk.inj h
        obtain rfl := Option.some.inj (Except.ok.inj (Except.ok.inj hv))
        have hfind := hholds.find?_get hget
        rw [← hcache, ← hnow] at hfind
        exact ⟨hrolling, hfind⟩
      | none =>
        obtain ⟨r, s₂, hgo, hshelve⟩ := Action.eval_bind_eq_ok.mp h
        have hkept := (f.ignoresCaches_go p).caches_eq s₁
        rw [hgo] at hkept
        rw [← State.cachesOf_congr p hkept] at hrolling
        exact Provider.keeps_of_shelve hset hrolling hshelve

/-- A reply comes from the cache exactly if the cache has it. -/
theorem reply_eq_cached_iff {t : T} : p.reply f s = .ok (.cached t) ↔
    p.supports f.operation = true ∧ f.find p s = .ok (some t) := by
  rw [Provider.reply]
  by_cases hsupports : p.supports f.operation = true
  · rw [if_pos hsupports, and_iff_right hsupports]
    cases hfind : f.find p s with
    | error e => exact iff_of_false (by rintro ⟨⟩) (by rintro ⟨⟩)
    | ok hit =>
      cases hit with
      | none =>
        refine iff_of_false (fun h => ?_) (by rintro ⟨⟩)
        simp only at h
        cases hending : p.ending s (f.call p) with
        | error e => cases hending ▸ h
        | ok r => cases hending ▸ h
      | some v => simp only [Except.ok.injEq, Reply.cached.injEq, Option.some.injEq]
  · rw [if_neg hsupports]
    exact iff_of_false (by rintro ⟨⟩) (fun h => hsupports h.1)

/-- What the cache has is live in it. -/
theorem live_of_find {t : T} (h : f.find p s = .ok (some t)) :
    ∃ shelf, f.shelf = some shelf ∧ (shelf.get (s.cachesOf p)).live s.now f.key = some t := by
  rw [find] at h
  cases hshelf : f.shelf with
  | none =>
    rw [hshelf] at h
    cases h
  | some shelf =>
    rw [hshelf] at h
    simp only at h
    cases hget : (shelf.get (s.cachesOf p)).get s.now f.key with
    | error e => cases hget ▸ h
    | ok looked =>
      rw [hget] at h
      have hlive := Cache.answer_of_get hget
      exact ⟨shelf, rfl, hlive.symm.trans (Except.ok.inj h)⟩

/-- A reply comes from a cache only if the question goes through one. -/
theorem isSome_of_cached {t : T} (h : p.reply f s = .ok (.cached t)) : f.shelf.isSome := by
  obtain ⟨shelf, hshelf, -⟩ := live_of_find (reply_eq_cached_iff.mp h).2
  rw [hshelf]
  rfl

/-- **As long as it is alive it is the reply**, and the source is not called. -/
theorem reply_of_keeps (hshelf : f.shelf = some shelf) {t : T} {since till : Instant}
    (hkeeps : shelf.Keeps (s.cachesOf p) f.key t since) (hsupports : p.supports f.operation = true)
    (halive : s.now < since + (shelf.get (s.cachesOf p)).expiry.window)
    (hroom : s.now.after (shelf.get (s.cachesOf p)).expiry.window = .ok till) :
    p.reply f s = .ok (.cached t) := by
  obtain ⟨window, hexpiry⟩ := hkeeps.rolling
  have hlive : (shelf.get (s.cachesOf p)).live s.now f.key = some t :=
    Cache.live_eq_some.mpr ⟨_, hkeeps.find?, halive, rfl⟩
  have hget := Cache.get_rolling hexpiry hlive
  rw [hexpiry, Expiry.window] at hroom
  rw [hroom] at hget
  refine reply_eq_cached_iff.mpr ⟨hsupports, ?_⟩
  rw [find, hshelf]
  simp only [hget, Except.map]

/-- **A reply from a cache is allowed there.** -/
theorem allowed_of_cached
    (hguards : ∀ shelf, f.shelf = some shelf → shelf.Guards allowed (P p.number))
    (hs : s.AllCaches P) {t : T} (h : p.reply f s = .ok (.cached t)) : allowed f.key t := by
  obtain ⟨shelf, hsome, hlive⟩ := live_of_find (reply_eq_cached_iff.mp h).2
  have hshelf := hguards shelf hsome
  obtain ⟨e, hfind, -, rfl⟩ := Cache.live_eq_some.mp hlive
  exact (hshelf.holds (hs.cachesOf p hshelf.empty)).of_find? hfind

end Fetch
end Biblio
