import Biblio.Proofs.Cache.Live

/-!
# A cache and its history

What a cache finds can be read off what was done to it before.

* `Step` is what may be done, `Step.perform` does it, and `follow` does one step after another.  Every
  step that was taken is kept with its outcome as a `Use`.
* `recalled` reads a history: the value that was stored last under a key, unless it was taken out, the
  cache was cleared or its time is up since.
* `Tells` — what is live in a cache is what its history recalls.  `Tells.perform` is the step.
* `Alike` relates two caches that have the same to say from now on, and `Alike.finds_eq` says that all
  look-ups to come are the same for both.
* `Faithful` is what is promised of a cache with a history, and `faithful_of_follow` proves it.
-/

set_option autoImplicit false

namespace Biblio
namespace Cache

variable {V : Type}

/-! ## Steps -/

/-- A cache and the time by which it is used. -/
structure Clocked (V : Type) where
  now : Instant
  cache : Cache V

/-- What may be done to a cache, and that time passes. -/
inductive Step (V : Type) where
  | insert (key : String) (value : V)
  | get (key : String)
  | remove (key : String)
  | purge
  | clear
  | advance (d : Span)

/-- What comes of a step. -/
inductive Outcome (V : Type) where
  | done
  | found (answer : Option V)
  | removed (value : Option V)
  | purged (count : Nat)

/-- The answer of a look-up. -/
def Outcome.answer? : Outcome V → Option (Option V)
  | .found answer => some answer
  | _ => none

/-- Takes a step. -/
def Step.perform : Step V → Clocked V → Except ClockOverflow (Outcome V × Clocked V)
  | .insert key value, s =>
    match s.cache.insert s.now key value with
    | .error e => .error e
    | .ok c => .ok (.done, { s with cache := c })
  | .get key, s =>
    match s.cache.get s.now key with
    | .error e => .error e
    | .ok (answer, c) => .ok (.found answer, { s with cache := c })
  | .remove key, s => .ok (.removed (s.cache.remove key).1, { s with cache := (s.cache.remove key).2 })
  | .purge, s => .ok (.purged (s.cache.purge s.now).1, { s with cache := (s.cache.purge s.now).2 })
  | .clear, s => .ok (.done, { s with cache := s.cache.clear })
  | .advance d, s =>
    match s.now.after d with
    | .error e => .error e
    | .ok t => .ok (.done, { s with now := t })

theorem Keyed.perform {step : Step V} {s s' : Clocked V} {outcome : Outcome V} (h : s.cache.Keyed)
    (hperform : step.perform s = .ok (outcome, s')) : s'.cache.Keyed := by
  cases step with
  | insert key value =>
    simp only [Step.perform, Cache.insert] at hperform
    cases hafter : s.now.after s.cache.expiry.window with
    | error err => simp only [hafter, reduceCtorEq] at hperform
    | ok till =>
      simp only [hafter] at hperform
      obtain ⟨-, rfl⟩ := Prod.mk.inj (Except.ok.inj hperform)
      exact h.put _ _
  | get key =>
    rw [Step.perform] at hperform
    split at hperform
    · exact nomatch hperform
    · next answer c hget =>
      obtain ⟨-, rfl⟩ := Prod.mk.inj (Except.ok.inj hperform)
      exact h.get hget
  | remove key =>
    obtain ⟨-, rfl⟩ := Prod.mk.inj (Except.ok.inj hperform)
    exact h.drop key
  | purge =>
    obtain ⟨-, rfl⟩ := Prod.mk.inj (Except.ok.inj hperform)
    exact h.filter _
  | clear =>
    obtain ⟨-, rfl⟩ := Prod.mk.inj (Except.ok.inj hperform)
    exact keyed_of_entries_eq_nil rfl
  | advance d =>
    rw [Step.perform] at hperform
    split at hperform
    · exact nomatch hperform
    · obtain ⟨-, rfl⟩ := Prod.mk.inj (Except.ok.inj hperform)
      exact h

/-- A step that was taken. -/
structure Use (V : Type) where
  step : Step V
  outcome : Outcome V
  instant : Instant

/-- Takes steps one after another and puts each in front of the history. -/
def follow : List (Step V) → List (Use V) → Clocked V →
    Except ClockOverflow (List (Use V) × Clocked V)
  | [], past, s => .ok (past, s)
  | step :: steps, past, s =>
    match step.perform s with
    | .error e => .error e
    | .ok (outcome, s') => follow steps (⟨step, outcome, s.now⟩ :: past) s'

/-! ## Histories

A history has the latest use first. -/

namespace Use

/-- Whatever was under the key is there no more: something else was stored, or it was taken out. -/
def settles (key : String) (u : Use V) : Bool :=
  match u.step with
  | .insert other _ => other == key
  | .remove other => other == key
  | .clear => true
  | _ => false

/-- A value was found under the key. -/
def hits (key : String) (u : Use V) : Bool :=
  match u.step, u.outcome with
  | .get other, .found (some _) => other == key
  | _, _ => false

/-- What was stored, and when. -/
def stored? (u : Use V) : Option (V × Instant) :=
  match u.step with
  | .insert _ value => some (value, u.instant)
  | _ => none

end Use

/-- The value that was stored last under a key, if it was not taken out since, and when it was stored. -/
def standing (key : String) (past : List (Use V)) : Option (V × Instant) :=
  (past.find? (·.settles key)).bind Use.stored?

/-- When it was found for the last time since. -/
def lastHit? (key : String) (past : List (Use V)) : Option Instant :=
  ((past.takeWhile (!·.settles key)).find? (·.hits key)).map Use.instant

/-- The beginning of an entry's life, from when it was stored and when it was last found. -/
def lifeFrom (e : Expiry) (stored : Instant) (hit : Option Instant) : Instant :=
  match e with
  | .fixed _ => stored
  | .rolling _ => hit.elim stored (max stored)

/-- The entry that belongs under a key. -/
def told (e : Expiry) (past : List (Use V)) (key : String) : Option (CacheEntry V) :=
  (standing key past).map fun (value, stored) =>
    ⟨value, lifeFrom e stored (lastHit? key past) + e.window⟩

/-- Its value, as long as its time is not up. -/
def recalled (e : Expiry) (past : List (Use V)) (t : Instant) (key : String) : Option V :=
  ((told e past key).filter (fun entry => t < entry.expiresAt)).map CacheEntry.value

section Told

variable {e : Expiry} {u : Use V} {past : List (Use V)} {key : String} {t : Instant}

theorem standing_cons_of_settles (h : u.settles key = true) :
    standing key (u :: past) = u.stored? := by
  rw [standing, List.find?_cons, h]
  rfl

theorem standing_cons (h : u.settles key = false) : standing key (u :: past) = standing key past := by
  rw [standing, List.find?_cons, h]
  rfl

/-- Nothing is stored after the last of all uses. -/
theorem le_of_standing {v : V} {stored : Instant} (hpast : ∀ x ∈ past, x.instant ≤ t)
    (h : standing key past = some (v, stored)) : stored ≤ t := by
  obtain ⟨x, hx, hstored⟩ := Option.bind_eq_some_iff.mp h
  have hle := hpast x (List.mem_of_find?_eq_some hx)
  rw [Use.stored?] at hstored
  split at hstored
  · obtain ⟨-, rfl⟩ := Prod.mk.inj (Option.some.inj hstored)
    exact hle
  · exact nomatch hstored

theorem lastHit?_cons_of_settles (h : u.settles key = true) : lastHit? key (u :: past) = none := by
  rw [lastHit?, List.takeWhile_cons, h]
  rfl

theorem lastHit?_cons_of_hits (hsettles : u.settles key = false) (hhits : u.hits key = true) :
    lastHit? key (u :: past) = some u.instant := by
  rw [lastHit?, List.takeWhile_cons, hsettles, Bool.not_false, if_pos rfl, List.find?_cons, hhits]
  rfl

theorem lastHit?_cons (hsettles : u.settles key = false) (hhits : u.hits key = false) :
    lastHit? key (u :: past) = lastHit? key past := by
  rw [lastHit?, List.takeWhile_cons, hsettles, Bool.not_false, if_pos rfl, List.find?_cons, hhits]
  rfl

/-- A use that neither settles a key nor hits it says nothing about it. -/
theorem told_cons (hsettles : u.settles key = false) (hhits : u.hits key = false) :
    told e (u :: past) key = told e past key := by
  rw [told, standing_cons hsettles, lastHit?_cons hsettles hhits]
  rfl

/-- What is under a key after a use that settles it was stored by that use. -/
theorem told_cons_of_settles (h : u.settles key = true) :
    told e (u :: past) key = u.stored?.map fun (value, stored) => ⟨value, stored + e.window⟩ := by
  have hlife (stored : Instant) : lifeFrom e stored none = stored := by cases e <;> rfl
  rw [told, standing_cons_of_settles h, lastHit?_cons_of_settles h]
  simp only [hlife]

/-- A hit does not count where life begins with the storing. -/
theorem told_cons_of_fixed {window : Span} (h : u.settles key = false) :
    told (.fixed window) (u :: past) key = told (.fixed window) past key := by
  rw [told, standing_cons h]
  rfl

/-- Elsewhere the value that is found lives for the window from then on. -/
theorem told_cons_of_rolling {window : Span} {entry : CacheEntry V} (hsettles : u.settles key = false)
    (hhits : u.hits key = true) (hpast : ∀ x ∈ past, x.instant ≤ u.instant)
    (h : told (.rolling window) past key = some entry) :
    told (.rolling window) (u :: past) key = some ⟨entry.value, u.instant + window⟩ := by
  obtain ⟨⟨value, stored⟩, hstanding, rfl⟩ := Option.map_eq_some_iff.mp h
  have hlife : lifeFrom (.rolling window) stored (some u.instant) = u.instant :=
    Nat.max_eq_right (le_of_standing hpast hstanding)
  rw [told, standing_cons hsettles, hstanding, lastHit?_cons_of_hits hsettles hhits, Option.map_some]
  dsimp only
  rw [hlife]
  rfl

end Told

/-! ## What a history tells of a cache -/

/-- A cache has what its history tells, but for entries whose time is up. -/
structure Tells (e : Expiry) (past : List (Use V)) (s : Clocked V) : Prop where
  expiry : s.cache.expiry = e
  instants : ∀ u ∈ past, u.instant ≤ s.now
  entry : ∀ key, s.cache.find? key = told e past key ∨
    s.cache.find? key = none ∧ ∀ entry, told e past key = some entry → entry.expiresAt ≤ s.now

theorem tells_empty (e : Expiry) (now : Instant) : Tells (V := V) e [] ⟨now, { expiry := e }⟩ where
  expiry := rfl
  instants _ h := nomatch h
  entry _ := .inl rfl

section Tells

variable {e : Expiry} {past : List (Use V)} {s s' : Clocked V} {step : Step V} {outcome : Outcome V}
  {key : String} {t : Instant}

/-- **What is live is what is recalled.** -/
theorem Tells.live (h : Tells e past s) (ht : s.now ≤ t) (key : String) :
    s.cache.live t key = recalled e past t key := by
  rw [Cache.live, recalled]
  rcases h.entry key with hfind | ⟨hfind, hexpired⟩
  · rw [hfind]
  · rw [hfind]
    cases htold : told e past key with
    | none => rfl
    | some entry =>
      have hle : entry.expiresAt ≤ t := Nat.le_trans (hexpired entry htold) ht
      rw [Option.filter_some, if_neg (by simpa using hle)]
      rfl

/-- An entry that is there is the one that is told. -/
theorem Tells.told_of_find? {entry : CacheEntry V} (h : Tells e past s)
    (hfind : s.cache.find? key = some entry) : told e past key = some entry := by
  rcases h.entry key with heq | ⟨hnone, -⟩
  · exact heq.symm.trans hfind
  · exact nomatch hnone.symm.trans hfind

/-- A use, key by key: one that is idle under a key takes an entry away only if its time is up. -/
theorem Tells.cons {u : Use V} (h : Tells e past s) (hu : u.instant = s.now) (hnow : s.now ≤ s'.now)
    (hexpiry : s'.cache.expiry = s.cache.expiry)
    (hidle : ∀ key, u.settles key = false → u.hits key = false →
      s'.cache.find? key = s.cache.find? key ∨
        s'.cache.find? key = none ∧ s.cache.live s.now key = none)
    (hsettles : ∀ key, u.settles key = true → s'.cache.find? key =
      u.stored?.map fun (value, stored) => ⟨value, stored + e.window⟩)
    (hhits : ∀ key, u.settles key = false → u.hits key = true →
      s'.cache.find? key = told e (u :: past) key) :
    Tells e (u :: past) s' where
  expiry := hexpiry.trans h.expiry
  instants := by
    intro x hx
    rcases List.mem_cons.mp hx with rfl | hpast
    · exact Nat.le_trans (Nat.le_of_eq hu) hnow
    · exact Nat.le_trans (h.instants x hpast) hnow
  entry := by
    intro key
    cases hs : u.settles key with
    | true => exact .inl ((hsettles key hs).trans (told_cons_of_settles hs).symm)
    | false =>
      cases hh : u.hits key with
      | true => exact .inl (hhits key hs hh)
      | false =>
        rw [told_cons hs hh]
        rcases hidle key hs hh with hsame | ⟨hgone, hlive⟩
        · rw [hsame]
          refine (h.entry key).imp_right fun ⟨hnone, hexpired⟩ => ⟨hnone, fun entry htold => ?_⟩
          exact Nat.le_trans (hexpired entry htold) hnow
        · refine .inr ⟨hgone, fun entry htold => Nat.le_trans ?_ hnow⟩
          rw [h.live (Nat.le_refl _), recalled, htold] at hlive
          exact Nat.le_of_not_lt fun hlt => by simp [Option.filter, hlt] at hlive

/-- A use that is idle under all keys. -/
theorem Tells.cons_of_idle {u : Use V} (h : Tells e past s) (hu : u.instant = s.now)
    (hnow : s.now ≤ s'.now) (hexpiry : s'.cache.expiry = s.cache.expiry)
    (hidle : ∀ key, u.settles key = false ∧ u.hits key = false)
    (hfind : ∀ key, s'.cache.find? key = s.cache.find? key ∨
      s'.cache.find? key = none ∧ s.cache.live s.now key = none) :
    Tells e (u :: past) s' :=
  h.cons hu hnow hexpiry (fun key _ _ => hfind key)
    (fun key hs => absurd ((hidle key).1.symm.trans hs) Bool.false_ne_true)
    (fun key _ hh => absurd ((hidle key).2.symm.trans hh) Bool.false_ne_true)

theorem Tells.insert {value : V} {c : Cache V} (h : Tells e past s)
    (hinsert : s.cache.insert s.now key value = .ok c) :
    Tells e (⟨.insert key value, .done, s.now⟩ :: past) { s with cache := c } := by
  rw [Cache.insert] at hinsert
  split at hinsert
  · exact nomatch hinsert
  · next till hafter =>
    obtain rfl := Except.ok.inj hinsert
    refine h.cons rfl (Nat.le_refl _) rfl ?_ ?_ (fun _ _ hh => nomatch hh)
    · intro other hs _
      exact .inl (find?_put_ne _ (fun heq => by simp [Use.settles, heq] at hs) _)
    · intro other hs
      obtain rfl : key = other := by simpa [Use.settles] using hs
      rw [find?_put_self, Instant.after_eq_ok hafter, h.expiry]
      rfl

theorem Tells.get {answer : Option V} {c : Cache V} (h : Tells e past s)
    (hget : s.cache.get s.now key = .ok (answer, c)) :
    Tells e (⟨.get key, .found answer, s.now⟩ :: past) { s with cache := c } := by
  cases hlive : s.cache.live s.now key with
  | none =>
    obtain ⟨c', hget', hexpiry, hfind⟩ := find?_get_of_not_live hlive
    obtain ⟨rfl, rfl⟩ := Prod.mk.inj (Except.ok.inj (hget.symm.trans hget'))
    refine h.cons_of_idle rfl (Nat.le_refl _) hexpiry (fun _ => ⟨rfl, rfl⟩) fun other => ?_
    by_cases hkey : other = key
    · rw [hkey]
      exact .inr ⟨(hfind key).trans (Table.lookup_filter_self _ _), hlive⟩
    · exact .inl ((hfind other).trans (Table.lookup_filter_ne hkey _))
  | some v =>
    obtain ⟨entry, hentry, -, rfl⟩ := live_eq_some.mp hlive
    cases he : e with
    | fixed window =>
      obtain ⟨rfl, rfl⟩ := Prod.mk.inj
        (Except.ok.inj (hget.symm.trans (get_fixed (h.expiry.trans he) hlive)))
      subst he
      refine h.cons rfl (Nat.le_refl _) rfl (fun _ _ _ => .inl rfl) (fun _ hs => nomatch hs)
        fun other hs hh => ?_
      obtain rfl : key = other := by simpa [Use.hits] using hh
      rw [told_cons_of_fixed hs, h.told_of_find? hentry]
      exact hentry
    | rolling window =>
      rw [get_rolling (h.expiry.trans he) hlive] at hget
      cases hafter : s.now.after window with
      | error err =>
        rw [hafter] at hget
        exact nomatch hget
      | ok till =>
        rw [hafter] at hget
        obtain ⟨rfl, rfl⟩ := Prod.mk.inj (Except.ok.inj hget)
        subst he
        refine h.cons rfl (Nat.le_refl _) rfl ?_ (fun _ hs => nomatch hs) ?_
        · intro other _ hh
          exact .inl (find?_put_ne _ (fun heq => by simp [Use.hits, heq] at hh) _)
        · intro other hs hh
          obtain rfl : key = other := by simpa [Use.hits] using hh
          rw [find?_put_self, told_cons_of_rolling hs hh h.instants (h.told_of_find? hentry),
            Instant.after_eq_ok hafter]

theorem Tells.remove (h : Tells e past s) :
    Tells e (⟨.remove key, .removed (s.cache.remove key).1, s.now⟩ :: past)
      { s with cache := (s.cache.remove key).2 } := by
  refine h.cons rfl (Nat.le_refl _) rfl ?_ ?_ (fun _ _ hh => nomatch hh)
  · intro other hs _
    exact .inl (Table.lookup_filter_ne (fun heq => by simp [Use.settles, heq] at hs) _)
  · intro other hs
    obtain rfl : key = other := by simpa [Use.settles] using hs
    exact Table.lookup_filter_self key _

theorem Tells.purge (h : Tells e past s) (hkeyed : s.cache.Keyed) :
    Tells e (⟨.purge, .purged (s.cache.purge s.now).1, s.now⟩ :: past)
      { s with cache := (s.cache.purge s.now).2 } :=
  h.cons_of_idle rfl (Nat.le_refl _) rfl (fun _ => ⟨rfl, rfl⟩) (hkeyed.find?_purge_cases s.now)

/-- **Every step keeps a cache to its history.** -/
theorem Tells.perform (h : Tells e past s) (hkeyed : s.cache.Keyed)
    (hperform : step.perform s = .ok (outcome, s')) :
    Tells e (⟨step, outcome, s.now⟩ :: past) s' := by
  cases step with
  | insert key value =>
    rw [Step.perform] at hperform
    split at hperform
    · exact nomatch hperform
    · next c hinsert =>
      obtain ⟨rfl, rfl⟩ := Prod.mk.inj (Except.ok.inj hperform)
      exact h.insert hinsert
  | get key =>
    rw [Step.perform] at hperform
    split at hperform
    · exact nomatch hperform
    · next answer c hget =>
      obtain ⟨rfl, rfl⟩ := Prod.mk.inj (Except.ok.inj hperform)
      exact h.get hget
  | remove key =>
    obtain ⟨rfl, rfl⟩ := Prod.mk.inj (Except.ok.inj hperform)
    exact h.remove
  | purge =>
    obtain ⟨rfl, rfl⟩ := Prod.mk.inj (Except.ok.inj hperform)
    exact h.purge hkeyed
  | clear =>
    obtain ⟨rfl, rfl⟩ := Prod.mk.inj (Except.ok.inj hperform)
    exact h.cons rfl (Nat.le_refl _) rfl (fun _ hs => nomatch hs) (fun _ _ => rfl)
      (fun _ hs => nomatch hs)
  | advance d =>
    rw [Step.perform] at hperform
    split at hperform
    · exact nomatch hperform
    · next t hafter =>
      obtain ⟨rfl, rfl⟩ := Prod.mk.inj (Except.ok.inj hperform)
      have hnow : s.now ≤ t := Instant.after_eq_ok hafter ▸ Nat.le_add_right _ _
      exact h.cons_of_idle rfl hnow rfl (fun _ => ⟨rfl, rfl⟩) fun _ => .inl rfl

/-- **So does a whole run of steps.** -/
theorem Tells.follow {steps : List (Step V)} {past' : List (Use V)} (h : Tells e past s)
    (hkeyed : s.cache.Keyed) (hfollow : follow steps past s = .ok (past', s')) :
    Tells e past' s' ∧ s'.cache.Keyed := by
  induction steps generalizing past s with
  | nil =>
    obtain ⟨rfl, rfl⟩ := Prod.mk.inj (Except.ok.inj hfollow)
    exact ⟨h, hkeyed⟩
  | cons step steps ih =>
    rw [Cache.follow] at hfollow
    split at hfollow
    · exact nomatch hfollow
    · next outcome s'' hperform => exact ih (h.perform hkeyed hperform) (hkeyed.perform hperform) hfollow

end Tells

/-! ## Caches that have the same to say -/

/-- The answers of the look-ups among some steps. -/
def finds : List (Step V) → Clocked V → Except ClockOverflow (List (Option V))
  | [], _ => .ok []
  | step :: steps, s =>
    match step.perform s with
    | .error e => .error e
    | .ok (outcome, s') => (finds steps s').map (outcome.answer?.toList ++ ·)

/-- Two caches of one kind in which the same is live from now on. -/
structure Alike (now : Instant) (c c' : Cache V) : Prop where
  expiry : c'.expiry = c.expiry
  live : ∀ t, now ≤ t → ∀ key, c'.live t key = c.live t key

/-- Two runs of a step that both fail, or come to the same for look-ups now and later. -/
def Alike.Outcomes (r r' : Except ClockOverflow (Outcome V × Clocked V)) : Prop :=
  match r, r' with
  | .error e, .error e' => e' = e
  | .ok (outcome, s), .ok (outcome', s') =>
    outcome'.answer? = outcome.answer? ∧ s'.now = s.now ∧ Alike s.now s.cache s'.cache
  | _, _ => False

section Alike

variable {c c' : Cache V} {now : Instant}

theorem Alike.put (h : Alike now c c') (key : String) (e : CacheEntry V) :
    Alike now (c.put key e) (c'.put key e) where
  expiry := h.expiry
  live t ht other := by
    by_cases hkey : other = key
    · rw [hkey, live_put_self, live_put_self]
    · rw [live_put_ne hkey, live_put_ne hkey]
      exact h.live t ht other

theorem Alike.drop (h : Alike now c c') (key : String) : Alike now (c.drop key) (c'.drop key) where
  expiry := h.expiry
  live t ht other := by
    by_cases hkey : other = key
    · rw [hkey, live_drop_self, live_drop_self]
    · rw [live_drop_ne hkey, live_drop_ne hkey]
      exact h.live t ht other

theorem Alike.insert (h : Alike now c c') (key : String) (value : V) :
    Outcomes ((Step.insert key value).perform ⟨now, c⟩) ((Step.insert key value).perform ⟨now, c'⟩) := by
  simp only [Step.perform, Cache.insert, h.expiry]
  cases now.after c.expiry.window with
  | error e => rfl
  | ok till => exact ⟨rfl, rfl, h.put key _⟩

theorem Alike.get (h : Alike now c c') (key : String) :
    Outcomes ((Step.get key).perform ⟨now, c⟩) ((Step.get key).perform ⟨now, c'⟩) := by
  have hlive' := h.live now (Nat.le_refl _) key
  simp only [Step.perform]
  cases hlive : c.live now key with
  | none =>
    obtain ⟨d, hget, hexpiry, hsame⟩ := get_of_not_live hlive
    obtain ⟨d', hget', hexpiry', hsame'⟩ := get_of_not_live (hlive'.trans hlive)
    rw [hget, hget']
    refine ⟨rfl, rfl, (hexpiry'.trans h.expiry).trans hexpiry.symm, fun t ht other => ?_⟩
    rw [hsame' t ht other, hsame t ht other]
    exact h.live t ht other
  | some v =>
    cases hexpiry : c.expiry with
    | fixed window =>
      rw [get_fixed hexpiry hlive, get_fixed (h.expiry.trans hexpiry) (hlive'.trans hlive)]
      exact ⟨rfl, rfl, h⟩
    | rolling window =>
      rw [get_rolling hexpiry hlive, get_rolling (h.expiry.trans hexpiry) (hlive'.trans hlive)]
      cases now.after window with
      | error e => rfl
      | ok till => exact ⟨rfl, rfl, h.put key _⟩

/-- **No step tells them apart** by what look-ups find. -/
theorem Alike.perform (h : Alike now c c') (hkeyed : c.Keyed) (hkeyed' : c'.Keyed) (step : Step V) :
    Outcomes (step.perform ⟨now, c⟩) (step.perform ⟨now, c'⟩) := by
  cases step with
  | insert key value => exact h.insert key value
  | get key => exact h.get key
  | remove key => exact ⟨rfl, rfl, h.drop key⟩
  | purge =>
    refine ⟨rfl, rfl, h.expiry, fun t ht key => ?_⟩
    exact (hkeyed'.live_purge ht).trans ((h.live t ht key).trans (hkeyed.live_purge ht).symm)
  | clear => exact ⟨rfl, rfl, h.expiry, fun _ _ _ => rfl⟩
  | advance d =>
    simp only [Step.perform]
    cases hafter : now.after d with
    | error e => rfl
    | ok t =>
      have hnow : now ≤ t := Instant.after_eq_ok hafter ▸ Nat.le_add_right _ _
      exact ⟨rfl, rfl, h.expiry, fun u hu key => h.live u (Nat.le_trans hnow hu) key⟩

/-- **Whatever is done from now on**, the look-ups find the same in both. -/
theorem Alike.finds_eq (h : Alike now c c') (hkeyed : c.Keyed) (hkeyed' : c'.Keyed)
    (steps : List (Step V)) : finds steps ⟨now, c'⟩ = finds steps ⟨now, c⟩ := by
  induction steps generalizing now c c' with
  | nil => rfl
  | cons step steps ih =>
    have hperform := h.perform hkeyed hkeyed' step
    rw [finds, finds]
    cases hs : step.perform ⟨now, c⟩ with
    | error e =>
      cases hs' : step.perform ⟨now, c'⟩ with
      | error e' => rfl
      | ok r =>
        rw [hs, hs'] at hperform
        exact hperform.elim
    | ok r =>
      cases hs' : step.perform ⟨now, c'⟩ with
      | error e =>
        rw [hs, hs'] at hperform
        exact hperform.elim
      | ok r' =>
        rw [hs, hs'] at hperform
        obtain ⟨outcome, u, d⟩ := r
        obtain ⟨outcome', u', d'⟩ := r'
        obtain ⟨hanswer, rfl, halike⟩ := hperform
        dsimp only
        rw [hanswer, ih halike (hkeyed.perform hs) (hkeyed'.perform hs')]

end Alike

/-! ## The promise -/

/-- What is promised of a cache with a history, at the instant at which it is used next. -/
structure Faithful (e : Expiry) (past : List (Use V)) (s : Clocked V) : Prop where
  /-- A look-up finds what is recalled. -/
  found : ∀ key answer c, s.cache.get s.now key = .ok (answer, c) →
    answer = recalled e past s.now key
  /-- It fails only if it finds something in a rolling cache and the clock ends before the new life of
  that does. -/
  ends : ∀ key, (∀ window, e = .rolling window → recalled e past s.now key ≠ none →
      ∃ till, s.now.after window = .ok till) →
    ∃ c, s.cache.get s.now key = .ok (recalled e past s.now key, c)
  /-- No later look-up finds anything else because this one found nothing. -/
  missed : ∀ key c, s.cache.get s.now key = .ok (none, c) →
    ∀ steps, finds steps ⟨s.now, c⟩ = finds steps s
  /-- Nor does one because of a purge. -/
  purged : ∀ steps, finds steps ⟨s.now, (s.cache.purge s.now).2⟩ = finds steps s
  /-- What is stored is what the history tells. -/
  stored : ∀ key entry, s.cache.find? key = some entry → told e past key = some entry
  /-- A purge removes what is stored exactly if its time is up. -/
  removed : ∀ key, (s.cache.purge s.now).2.find? key =
    (s.cache.find? key).filter (fun entry => s.now < entry.expiresAt)
  /-- It counts the entries that it removes. -/
  counted : s.cache.keys.Nodup ∧ (s.cache.purge s.now).1 =
    s.cache.keys.countP fun key => (recalled e past s.now key).isNone

/-- **A cache finds what its history tells**, whatever was done to it. -/
theorem faithful_of_follow {e : Expiry} {start : Instant} {steps : List (Step V)}
    {past : List (Use V)} {s : Clocked V}
    (h : follow steps [] ⟨start, { expiry := e }⟩ = .ok (past, s)) : Faithful e past s := by
  obtain ⟨htells, hkeyed⟩ := (tells_empty e start).follow (keyed_of_entries_eq_nil rfl) h
  have hlive := htells.live (Nat.le_refl s.now)
  constructor
  case found => exact fun key answer c hget => (answer_of_get hget).trans (hlive key)
  case ends =>
    intro key hroom
    rw [← hlive] at hroom ⊢
    exact exists_get fun window hexpiry => hroom window (htells.expiry.symm.trans hexpiry)
  case missed =>
    intro key c hget steps
    obtain ⟨c', hget', hexpiry, hsame⟩ := get_of_not_live (answer_of_get hget).symm
    obtain ⟨-, rfl⟩ := Prod.mk.inj (Except.ok.inj (hget.symm.trans hget'))
    exact Alike.finds_eq ⟨hexpiry, hsame⟩ hkeyed (hkeyed.get hget) steps
  case purged =>
    have halike : Alike s.now s.cache (s.cache.purge s.now).2 :=
      ⟨rfl, fun t ht key => hkeyed.live_purge ht⟩
    exact halike.finds_eq hkeyed (hkeyed.filter _)
  case stored => exact fun key entry hfind => htells.told_of_find? hfind
  case removed => exact hkeyed.find?_purge s.now
  case counted =>
    refine ⟨hkeyed, (hkeyed.count_purge s.now).trans ?_⟩
    simp only [hlive]

/-- Something is stored, and found twice. -/
def readTwice : List (Step String) :=
  [.insert "OL1A" "author", .advance 60, .get "OL1A", .advance 60, .get "OL1A", .advance 89]

/-- What came of it. -/
def pastOfReadTwice : List (Use String) :=
  [⟨.advance 89, .done, 120⟩, ⟨.get "OL1A", .found (some "author"), 120⟩, ⟨.advance 60, .done, 60⟩,
    ⟨.get "OL1A", .found (some "author"), 60⟩, ⟨.advance 60, .done, 0⟩,
    ⟨.insert "OL1A" "author", .done, 0⟩]

/-- Where each look-up begins the life of what it finds anew, that is still found just before the
window of the last one ends, and not found any more when it ends. -/
theorem faithful_readTwice :
    let s : Clocked String := ⟨209, { expiry := .rolling 90, entries := [("OL1A", ⟨"author", 210⟩)] }⟩
    follow readTwice [] ⟨0, { expiry := .rolling 90 }⟩ = .ok (pastOfReadTwice, s) ∧
      Faithful (.rolling 90) pastOfReadTwice s ∧
      recalled (.rolling 90) pastOfReadTwice 209 "OL1A" = some "author" ∧
      recalled (.rolling 90) pastOfReadTwice 210 "OL1A" = none := by
  have h : follow readTwice [] ⟨0, { expiry := .rolling 90 }⟩ = .ok (pastOfReadTwice,
      ⟨209, { expiry := .rolling 90, entries := [("OL1A", ⟨"author", 210⟩)] }⟩) := rfl
  exact ⟨h, faithful_of_follow h, by decide, by decide⟩

end Cache
end Biblio
