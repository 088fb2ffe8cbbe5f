import Biblio.Proofs.Provider.InUse
import Biblio.Sample
import Biblio.Server.Startup

/-!
# How long the clock has room for a configuration

The numbers of a configuration become spans that are added to the clock: the time limit of a call, and
the lives of what is kept.  They are accepted however great they are.

* `Config.rules` are the rules of all providers under a configuration.
* `Config.Fits` — the clock has room for all of its spans at an instant.  That a number of days may be
  too great for a number of seconds plays no part: the clock ends before that.
* `Config.SafeUntil` — no provider breaks off up to an instant, whatever it is asked.
* `Headroom` is what is known of the three things that add to the clock, and of all that is made of them.
  `headroom` proves it of every configuration: it is safe exactly as long as it fits.
* `breaksOff_longest` — an accepted configuration under which the first answer cannot be kept.
-/

set_option autoImplicit false

namespace Biblio

/-! ## Spans in seconds -/

/-- There is no room for a number of seconds if the last second of the clock comes first. -/
theorem Instant.after_seconds_eq_error_iff {t : Instant} {n : Nat} :
    t.after (Span.seconds n) = .error .beyondEnd ↔ lastSecond < t / Span.second + n := by
  have hpos : 0 < Span.second := by decide
  rw [after, Span.seconds, Nat.add_mul_div_right _ _ hpos]
  split
  · next hle => exact iff_of_false (fun h => nomatch h) (Nat.not_lt.mpr hle)
  · next hlt => exact iff_of_true rfl (Nat.not_le.mp hlt)

/-- The number of days for a cache. -/
def ShelfName.days (c : CacheDays) : ShelfName → Nat
  | .authors => c.entity
  | .books => c.entity
  | .authorSearches => c.search
  | .bookSearches => c.search
  | .isbn => c.identifier
  | .asin => c.identifier

theorem ShelfName.window_windows (c : CacheDays) (k : ShelfName) :
    k.window c.windows = Span.seconds (Span.daysInSeconds (k.days c)) := by
  cases k <;> rw [window, days, CacheDays.windows]

/-- As many seconds as the clock never has are cut off, and no others. -/
theorem Instant.after_window_eq_error_iff {t : Instant} (c : CacheDays) (k : ShelfName) :
    t.after (k.window c.windows) = .error .beyondEnd ↔
      lastSecond < t / Span.second + k.days c * 86400 := by
  have hbeyond : lastSecond < Span.greatestSeconds := by decide
  rw [k.window_windows, after_seconds_eq_error_iff, Span.daysInSeconds]
  rcases Nat.le_total (k.days c * 86400) Span.greatestSeconds with hle | hge
  · rw [Nat.min_eq_left hle]
  · rw [Nat.min_eq_right hge]
    exact iff_of_true (Nat.lt_add_left _ hbeyond)
      (Nat.lt_add_left _ (Nat.lt_of_lt_of_le hbeyond hge))

/-! ## Configurations -/

namespace Config

/-- The rules of all providers under a configuration. -/
def rules (c : Config) : Rules :=
  ⟨c.metadata.backoff.policy, c.metadata.cache.windows, c.metadata.requestTimeout⟩

/-- The clock has room for all spans of a configuration at an instant. -/
structure Fits (c : Config) (t : Instant) : Prop where
  timeout : t / Span.second + c.metadata.requestTimeoutSecs ≤ Instant.lastSecond
  days : ∀ k : ShelfName, t / Span.second + k.days c.metadata.cache * 86400 ≤ Instant.lastSecond

/-- Up to an instant nothing that a provider is asked breaks off. -/
def SafeUntil (c : Config) (t : Instant) : Prop :=
  ∀ (W : Type) (p : Provider W) (s : State W), p.rules = c.rules → p.InUse s →
    ∀ r : ProviderRequest, ((r.perform p).eval s).2.now ≤ t → ¬ (r.perform p).BreaksOff s

/-- What is known of a configuration and the clock. -/
structure Headroom (c : Config) : Prop where
  /-- Keeping an answer breaks off exactly if its life ends after the last second of the clock. -/
  keep : ∀ {W : Type} {p : Provider W} {s : State W}, p.rules = c.rules → p.InUse s →
    ∀ (k : ShelfName) (key : String) (v : k.Value), (p.keep k.shelf key v).BreaksOff s ↔
      Instant.lastSecond < s.now / Span.second + k.days c.metadata.cache * 86400
  /-- A look-up breaks off exactly if it finds an entity, and its new life ends after that. -/
  look : ∀ {W : Type} {p : Provider W} {s : State W}, p.rules = c.rules → p.InUse s →
    ∀ (k : ShelfName) (key : String), (p.remembered k.shelf key).BreaksOff s ↔
      k.rolls = true ∧ ((k.shelf.get (s.cachesOf p)).live s.now key).isSome = true ∧
        Instant.lastSecond < s.now / Span.second + k.days c.metadata.cache * 86400
  /-- A call breaks off if its time limit ends after that, -/
  call : ∀ {W α : Type} {p : Provider W} {s : State W}, p.rules = c.rules → ∀ call : Call W α,
    Instant.lastSecond < s.now / Span.second + c.metadata.requestTimeoutSecs →
      (p.bounded call).BreaksOff s
  /-- and only if it would when it began at the instant at which it breaks off. -/
  of_call : ∀ {W α : Type} {p : Provider W} {s : State W}, p.rules = c.rules → ∀ call : Call W α,
    (p.bounded call).BreaksOff s → Instant.lastSecond <
      ((p.bounded call).eval s).2.now / Span.second + c.metadata.requestTimeoutSecs
  /-- All together are safe exactly as long as the spans fit. -/
  safeUntil_iff : ∀ t, c.SafeUntil t ↔ c.Fits t

section Fits

variable {W : Type} {c : Config} {p : Provider W} {s : State W} {t t' : Instant}

/-- What fits fits before. -/
theorem Fits.of_le (h : c.Fits t) (ht : t' ≤ t) : c.Fits t' where
  timeout := Nat.le_trans (Nat.add_le_add_right (Nat.div_le_div_right ht) _) h.timeout
  days k := Nat.le_trans (Nat.add_le_add_right (Nat.div_le_div_right ht) _) (h.days k)

theorem after_callTimeout_iff (hrules : p.rules = c.rules) :
    t.after p.rules.callTimeout = .error .beyondEnd ↔
      Instant.lastSecond < t / Span.second + c.metadata.requestTimeoutSecs := by
  rw [hrules]
  exact Instant.after_seconds_eq_error_iff

theorem after_window_iff (hrules : p.rules = c.rules) (k : ShelfName) :
    t.after (k.window p.rules.windows) = .error .beyondEnd ↔
      Instant.lastSecond < t / Span.second + k.days c.metadata.cache * 86400 := by
  rw [hrules]
  exact Instant.after_window_eq_error_iff c.metadata.cache k

/-- **A provider has room** where its configuration fits. -/
theorem Fits.not_cramped (h : c.Fits s.now) (hrules : p.rules = c.rules) (huse : p.InUse s) :
    ¬ p.Cramped s := by
  rintro (htimeout | ⟨k, hwindow⟩)
  · exact absurd h.timeout (Nat.not_le.mpr ((after_callTimeout_iff hrules).mp htimeout))
  · rw [huse.window_eq k] at hwindow
    exact absurd (h.days k) (Nat.not_le.mpr ((after_window_iff hrules k).mp hwindow))

theorem Fits.safeUntil (h : c.Fits t) : c.SafeUntil t := by
  intro W p s hrules huse r ht hbreaks
  obtain ⟨e, he⟩ := hbreaks
  exact (h.of_le ht).not_cramped hrules (huse.request r) (r.stopsIn_perform s e he)

end Fits
end Config

/-! ## Answers that cannot be kept -/

namespace Consultation

variable {W A : Type} {k : ShelfName} (f : Consultation W k A) {p : Provider W} {s : State W}

/-- A source that answers at once, with something for which there is no room. -/
theorem breaksOff_ask {x : A} {v : k.Value} {limit : TimeLimit} {e : ClockOverflow}
    (hcall : f.call = .done (.ok x)) (hworth : f.worth (f.settle (some x)) = some v)
    (hsupports : p.supports f.operation = true)
    (hlive : f.slot.live (s.cachesOf p) s.now = none)
    (hstart : p.limit s = .ok limit)
    (hafter : s.now.after (k.shelf.get (s.cachesOf p)).expiry.window = .error e) :
    (f.ask p).BreaksOff s ∧ ((f.ask p).eval s).2.now = s.now := by
  obtain ⟨s₁, heval, hstill, hsame⟩ := f.eval_ask_of_not_live hsupports hlive
  rw [← p.limit_congr hstill] at hstart
  -- the call ends where it began
  have hbounded : (p.bounded f.call).eval s₁ = (.ok (.ok x), s₁.later s₁.now s₁.world) := by
    rw [p.eval_bounded_of_start _ hstart, hcall, Provider.ending, hstart]
    rfl
  obtain ⟨s₂, hobserve⟩ := Provider.eval_observe_of_ok (o := f.operation) hbounded
  have hstays := Action.world_bind (a := p.bounded f.call)
    (fun r => (p.aside_track f.operation (Provider.outcome r)).keepsWorld) s₁
  have hcaches := (p.ignoresCaches_observe f.operation f.call).caches_eq s₁
  rw [← Provider.observe_eq, hobserve, hbounded] at hstays
  rw [hobserve] at hcaches
  -- and what it brings cannot be stored
  have hroom : s₂.now.after (k.shelf.get (s₂.cachesOf p)).expiry.window = .error e := by
    have hnow : s₂.now = s.now := hstays.now.trans hstill.now
    rw [hnow, State.cachesOf_congr p hcaches, hsame.expiry, hafter]
  have hask : (f.ask p).eval s = (.error e, s₂) := by
    rw [heval, Action.eval_map]
    have hgo : (f.go p).eval s₁ = (.ok (.ok (f.settle (some x))), s₂) := by
      rw [go, Action.eval_map, hobserve]
      rfl
    rw [Action.eval_bind_of_ok hgo, Provider.shelve, hworth,
      Action.eval_bind_of_error (Provider.eval_keep_of_overflow hroom)]
    rfl
  refine ⟨Action.breaksOff_of_error hask, ?_⟩
  rw [hask]
  exact hstays.now.trans hstill.now

end Consultation

namespace Config

/-- A source that has an answer to everything, at once. -/
def readySource (W : Type) : Source W where
  name := "m"
  capabilities := Capabilities.full
  fetchAuthor id := .done (.ok (some (Sample.author id "m")))
  fetchBook id := .done (.ok (some (Sample.bookInfo id "m" (Sample.author id "m"))))
  searchAuthors query := .done (.ok [Sample.author "1" query])
  searchBooks title _ _ := .done (.ok [Sample.book "1" title "1"])
  searchIsbn number := .done (.ok [Sample.book "1" number "1"])
  searchAsin number := .done (.ok [Sample.book "1" number "1"])
  test := .done (.ok ())

/-- A provider of that source under a configuration. -/
def readyProvider (c : Config) : Provider Unit :=
  ⟨Definition.new "m" "Mock", readySource Unit, 0, c.rules⟩

/-- A state in which nothing has happened up to an instant. -/
def stateAt (t : Instant) : State Unit := { now := t, world := () }

theorem inUse_stateAt (c : Config) (t : Instant) : c.readyProvider.InUse (stateAt t) :=
  .start rfl

/-- An inquiry whose answer is kept in a cache. -/
def inquiryFor : ShelfName → Inquiry
  | .authors => .author "1" true
  | .books => .book "1"
  | .authorSearches => .authors "m"
  | .bookSearches => .books "m" none false
  | .isbn => .isbn "1"
  | .asin => .asin "1"

section Overflows

variable {c : Config} {t : Instant}

theorem live_stateAt (c : Config) (t : Instant) (slot : Slot) :
    slot.live ((stateAt t).cachesOf c.readyProvider) (stateAt t).now = none :=
  Caches.live_empty _ slot t

/-- **An answer is found that cannot be kept.** -/
theorem breaksOff_inquiryFor {limit : TimeLimit} (k : ShelfName)
    (hstart : c.readyProvider.limit (stateAt t) = .ok limit)
    (h : Instant.lastSecond < t / Span.second + k.days c.metadata.cache * 86400) :
    ((inquiryFor k).ask c.readyProvider).BreaksOff (stateAt t) ∧
      (((inquiryFor k).ask c.readyProvider).eval (stateAt t)).2.now = t := by
  have hwindow : t.after (k.shelf.get ((stateAt t).cachesOf c.readyProvider)).expiry.window =
      .error .beyondEnd := by
    rw [(c.inUse_stateAt t).window_eq k]
    exact (after_window_iff rfl k).mpr h
  have hlive (f : Slot) := live_stateAt c t f
  cases k with
  | authors =>
    rw [inquiryFor, Inquiry.ask_author]
    exact (Consultation.author c.readyProvider "1").breaksOff_ask rfl rfl rfl (hlive _) hstart hwindow
  | books =>
    rw [inquiryFor, Inquiry.ask_book]
    exact (Consultation.book c.readyProvider "1").breaksOff_ask rfl rfl rfl (hlive _) hstart hwindow
  | authorSearches =>
    rw [inquiryFor, Inquiry.ask_authors]
    exact (Consultation.authors c.readyProvider "m").breaksOff_ask rfl rfl rfl (hlive _) hstart hwindow
  | bookSearches =>
    rw [inquiryFor, Inquiry.ask_books]
    exact (Consultation.books c.readyProvider "m" none false).breaksOff_ask rfl rfl rfl (hlive _)
      hstart hwindow
  | isbn =>
    rw [inquiryFor, Inquiry.ask_isbn]
    exact (Consultation.isbn c.readyProvider "1").breaksOff_ask rfl rfl rfl (hlive _) hstart hwindow
  | asin =>
    rw [inquiryFor, Inquiry.ask_asin]
    exact (Consultation.asin c.readyProvider "1").breaksOff_ask rfl rfl rfl (hlive _) hstart hwindow

/-- One request that breaks off is enough. -/
theorem not_safeUntil {r : ProviderRequest}
    (hbreaks : (r.perform c.readyProvider).BreaksOff (stateAt t))
    (hnow : ((r.perform c.readyProvider).eval (stateAt t)).2.now = t) : ¬ c.SafeUntil t :=
  fun hsafe => hsafe Unit _ _ rfl (c.inUse_stateAt t) r (Nat.le_of_eq hnow) hbreaks

theorem not_safeUntil_of_timeout
    (h : Instant.lastSecond < t / Span.second + c.metadata.requestTimeoutSecs) : ¬ c.SafeUntil t := by
  have hafter : t.after c.readyProvider.rules.callTimeout = .error .beyondEnd :=
    (after_callTimeout_iff rfl).mpr h
  obtain ⟨hbreaks, hstate⟩ :=
    Provider.breaksOff_bounded (s := stateAt t) c.readyProvider.source.test hafter
  have hperform : ProviderRequest.reach.perform c.readyProvider =
      Result.reached <$> c.readyProvider.bounded c.readyProvider.source.test := by
    rw [ProviderRequest.perform, Provider.checkReachable]
  refine not_safeUntil (r := .reach) ?_ ?_
  · rw [hperform]
    exact hbreaks.map _
  · rw [hperform, Action.state_map, hstate, stateAt]

theorem not_safeUntil_of_window {limit : TimeLimit} (k : ShelfName)
    (hstart : c.readyProvider.limit (stateAt t) = .ok limit)
    (h : Instant.lastSecond < t / Span.second + k.days c.metadata.cache * 86400) : ¬ c.SafeUntil t := by
  obtain ⟨hbreaks, hnow⟩ := breaksOff_inquiryFor k hstart h
  refine not_safeUntil (r := .inquire (inquiryFor k)) ?_ ?_
  · rw [ProviderRequest.perform]
    exact hbreaks.map _
  · rw [ProviderRequest.perform, Action.state_map, hnow]

/-- A limit that fits can be set. -/
theorem exists_start (h : t / Span.second + c.metadata.requestTimeoutSecs ≤ Instant.lastSecond) :
    ∃ limit, c.readyProvider.limit (stateAt t) = .ok limit := by
  cases hafter : (stateAt t).now.after c.readyProvider.rules.callTimeout with
  | ok deadline => exact ⟨_, Provider.limit_of_after hafter⟩
  | error e =>
    cases e
    have hlt := (after_callTimeout_iff (p := c.readyProvider) rfl).mp hafter
    exact absurd h (Nat.not_le.mpr hlt)

theorem SafeUntil.fits (h : c.SafeUntil t) : c.Fits t := by
  have htimeout : t / Span.second + c.metadata.requestTimeoutSecs ≤ Instant.lastSecond :=
    Nat.not_lt.mp fun hlt => not_safeUntil_of_timeout hlt h
  obtain ⟨limit, hlimit⟩ := exists_start htimeout
  exact ⟨htimeout, fun k => Nat.not_lt.mp fun hlt => not_safeUntil_of_window k hlimit hlt h⟩

end Overflows

/-! ## What is known -/

/-- **A configuration is safe exactly as long as it fits.** -/
theorem headroom (c : Config) : c.Headroom where
  keep hrules huse k key v :=
    (Provider.breaksOff_keep_iff huse k key v).trans (after_window_iff hrules k)
  look hrules huse k key := by
    rw [Provider.breaksOff_remembered_iff huse k key, after_window_iff hrules k]
  call hrules call h := (Provider.breaksOff_bounded call ((after_callTimeout_iff hrules).mpr h)).1
  of_call hrules call := by
    rintro ⟨e, he⟩
    exact (after_callTimeout_iff hrules).mp (Provider.after_of_eval_bounded he)
  safeUntil_iff t := ⟨SafeUntil.fits, Fits.safeUntil⟩

/-- A configuration with the longest life that an entity can be given. -/
def longest : Config := { metadata := { cache := { entity := Span.greatestSeconds } } }

/-- **An accepted configuration overflows the clock**: the first author that a provider finds is to be
kept for longer than the clock runs. -/
theorem breaksOff_longest :
    longest.validate = .ok () ∧ longest.readyProvider.InUse (stateAt 0) ∧
      ((ProviderRequest.inquire (.author "1" true)).perform longest.readyProvider).BreaksOff
        (stateAt 0) := by
  have hcheck : longest.check = none := by decide +kernel
  have hfits : 0 / Span.second + longest.metadata.requestTimeoutSecs ≤ Instant.lastSecond := by
    decide +kernel
  have hwindow : Instant.lastSecond <
      0 / Span.second + ShelfName.authors.days longest.metadata.cache * 86400 := by decide +kernel
  obtain ⟨limit, hlimit⟩ := exists_start hfits
  refine ⟨by rw [validate, hcheck], inUse_stateAt longest 0, ?_⟩
  rw [ProviderRequest.perform]
  exact (breaksOff_inquiryFor .authors hlimit hwindow).1.map _

end Config
end Biblio
