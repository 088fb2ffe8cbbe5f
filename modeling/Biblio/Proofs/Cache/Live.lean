import Biblio.Cache

/-!
# Live entries

What a cache has to say at an instant: the values whose time is not up.

* `Cache.live` is the live value under a key, and `live_put_self` and `live_put_ne` say what storing
  does to it.
* `get_fixed`, `get_rolling` and `get_of_not_live` — a look-up finds the live value.  It stores the
  value anew in a rolling cache, and does not change what is live in any other way.
* `answer_of_get` and `exists_get` say the same of all look-ups at once, and `get_cases` what may become
  of the cache.
* `Keyed` — no key stands twice.  Then a purge keeps the entries that are live and no others
  (`Keyed.find?_purge`), and none of them is any less live for it (`Keyed.live_purge`).
-/

set_option autoImplicit false

namespace Biblio
namespace Cache

variable {V : Type} {c : Cache V} {key other : String} {v : V} {now t t' till : Instant}

/-- The value under a key that is live at an instant. -/
def live (c : Cache V) (t : Instant) (key : String) : Option V :=
  ((c.find? key).filter (fun e => t < e.expiresAt)).map CacheEntry.value

theorem live_eq_some :
    c.live t key = some v ↔ ∃ e, c.find? key = some e ∧ t < e.expiresAt ∧ e.value = v := by
  simp only [live, Option.map_eq_some_iff, Option.filter_eq_some_iff, decide_eq_true_iff, and_assoc]

theorem live_congr {c' : Cache V} (h : c'.find? key = c.find? key) : c'.live t key = c.live t key := by
  rw [live, live, h]

/-- What is live later is live before. -/
theorem live_of_le (ht : t ≤ t') (h : c.live t' key = some v) : c.live t key = some v := by
  obtain ⟨e, hfind, hlive, hv⟩ := live_eq_some.mp h
  exact live_eq_some.mpr ⟨e, hfind, Nat.lt_of_le_of_lt ht hlive, hv⟩

/-- What is not live any more stays so. -/
theorem live_eq_none_of_le (ht : t ≤ t') (h : c.live t key = none) : c.live t' key = none := by
  rw [Option.eq_none_iff_forall_ne_some] at h ⊢
  intro v hlive
  exact h v (live_of_le ht hlive)

theorem live_put_self :
    (c.put key ⟨v, till⟩).live t key = if t < till then some v else none := by
  rw [live, find?_put_self]
  by_cases ht : t < till <;> simp [Option.filter, ht]

theorem live_put_ne (h : other ≠ key) (e : CacheEntry V) :
    (c.put key e).live t other = c.live t other :=
  live_congr (find?_put_ne c h e)

/-- The cache without the entry under a key. -/
def drop (c : Cache V) (key : String) : Cache V := { c with entries := c.others key }

theorem live_drop_self : (c.drop key).live t key = none := by
  have hfind : (c.drop key).find? key = none := Table.lookup_filter_self key c.entries
  rw [live, hfind]
  rfl

theorem live_drop_ne (h : other ≠ key) : (c.drop key).live t other = c.live t other :=
  live_congr (Table.lookup_filter_ne h c.entries)

/-- **A live value is found.** -/
theorem get_fixed {window : Span} (hexpiry : c.expiry = .fixed window)
    (h : c.live now key = some v) : c.get now key = .ok (some v, c) := by
  obtain ⟨e, hfind, hlive, rfl⟩ := live_eq_some.mp h
  simp only [get, hfind, if_pos hlive, hexpiry]

/-- In a rolling cache it is stored anew. -/
theorem get_rolling {window : Span} (hexpiry : c.expiry = .rolling window)
    (h : c.live now key = some v) :
    c.get now key = (now.after window).map fun till => (some v, c.put key ⟨v, till⟩) := by
  obtain ⟨e, hfind, hlive, rfl⟩ := live_eq_some.mp h
  simp only [get, hfind, if_pos hlive, hexpiry]
  cases now.after window <;> rfl

/-- **Without a live value nothing is found**, and only what was looked up may be gone then. -/
theorem find?_get_of_not_live (h : c.live now key = none) :
    ∃ c', c.get now key = .ok (none, c') ∧ c'.expiry = c.expiry ∧
      ∀ other, c'.find? other = (c.drop key).find? other := by
  rw [get]
  cases hfind : c.find? key with
  | none =>
    refine ⟨c, rfl, rfl, fun other => ?_⟩
    by_cases hkey : other = key
    · rw [hkey, hfind]
      exact (Table.lookup_filter_self key c.entries).symm
    · exact (Table.lookup_filter_ne hkey c.entries).symm
  | some e =>
    have hexpired : ¬ now < e.expiresAt := fun hlive =>
      Option.eq_none_iff_forall_ne_some.mp h e.value (live_eq_some.mpr ⟨e, hfind, hlive, rfl⟩)
    exact ⟨c.drop key, if_neg hexpired, rfl, fun _ => rfl⟩

/-- What is live under any key stays as it is. -/
theorem get_of_not_live (h : c.live now key = none) :
    ∃ c', c.get now key = .ok (none, c') ∧ c'.expiry = c.expiry ∧
      ∀ t, now ≤ t → ∀ other, c'.live t other = c.live t other := by
  obtain ⟨c', hget, hexpiry, hfind⟩ := find?_get_of_not_live h
  refine ⟨c', hget, hexpiry, fun t ht other => (live_congr (hfind other)).trans ?_⟩
  by_cases hkey : other = key
  · rw [hkey, live_drop_self, live_eq_none_of_le ht h]
  · exact live_drop_ne hkey

/-- A look-up leaves the cache as it is, gives an entry a new end, or drops it. -/
theorem get_cases {c' : Cache V} {answer : Option V} (h : c.get now key = .ok (answer, c')) :
    c' = c ∨ (∃ e till, c.find? key = some e ∧ c' = c.put key ⟨e.value, till⟩) ∨ c' = c.drop key := by
  rw [get] at h
  split at h
  · obtain ⟨-, rfl⟩ := Prod.mk.inj (Except.ok.inj h)
    exact .inl rfl
  · next e hfind =>
    split at h
    · split at h
      · obtain ⟨-, rfl⟩ := Prod.mk.inj (Except.ok.inj h)
        exact .inl rfl
      · split at h
        · exact nomatch h
        · next till _ =>
          obtain ⟨-, rfl⟩ := Prod.mk.inj (Except.ok.inj h)
          exact .inr (.inl ⟨e, till, hfind, rfl⟩)
    · obtain ⟨-, rfl⟩ := Prod.mk.inj (Except.ok.inj h)
      exact .inr (.inr rfl)

/-- **A look-up finds what is live**, if it finds anything at all. -/
theorem answer_of_get {c' : Cache V} {answer : Option V} (h : c.get now key = .ok (answer, c')) :
    answer = c.live now key := by
  cases hlive : c.live now key with
  | none =>
    obtain ⟨_, hget, -⟩ := find?_get_of_not_live hlive
    exact (Prod.mk.inj (Except.ok.inj (h.symm.trans hget))).1
  | some v =>
    cases hexpiry : c.expiry with
    | fixed window =>
      exact (Prod.mk.inj (Except.ok.inj (h.symm.trans (get_fixed hexpiry hlive)))).1
    | rolling window =>
      rw [get_rolling hexpiry hlive] at h
      cases hafter : now.after window with
      | error e =>
        rw [hafter] at h
        exact nomatch h
      | ok till =>
        rw [hafter] at h
        exact (Prod.mk.inj (Except.ok.inj h)).1.symm

/-- Only the new life of a value that is found may be beyond the end of the clock. -/
theorem exists_get (h : ∀ window, c.expiry = .rolling window → c.live now key ≠ none →
    ∃ till, now.after window = .ok till) : ∃ c', c.get now key = .ok (c.live now key, c') := by
  cases hlive : c.live now key with
  | none =>
    obtain ⟨c', hget, -⟩ := find?_get_of_not_live hlive
    exact ⟨c', hget⟩
  | some v =>
    cases hexpiry : c.expiry with
    | fixed window => exact ⟨c, get_fixed hexpiry hlive⟩
    | rolling window =>
      obtain ⟨till, hafter⟩ := h window hexpiry (by simp [hlive])
      exact ⟨c.put key ⟨v, till⟩, by rw [get_rolling hexpiry hlive, hafter]; rfl⟩

/-! ## Purges -/

/-- The keys under which something is stored, expired or not. -/
def keys (c : Cache V) : List String := c.entries.map Prod.fst

/-- No key stands twice. -/
def Keyed (c : Cache V) : Prop := c.keys.Nodup

theorem keyed_of_entries_eq_nil (h : c.entries = []) : c.Keyed := by
  rw [Keyed, keys, h]
  exact List.nodup_nil

/-- Picking entries out leaves no key twice that did not stand twice before. -/
theorem Keyed.filter (h : c.Keyed) (keep : String × CacheEntry V → Bool) :
    Keyed { c with entries := c.entries.filter keep } :=
  List.Sublist.nodup (List.filter_sublist.map Prod.fst) h

theorem Keyed.drop (h : c.Keyed) (key : String) : (c.drop key).Keyed :=
  h.filter _

theorem Keyed.put (h : c.Keyed) (key : String) (e : CacheEntry V) : (c.put key e).Keyed := by
  refine List.nodup_cons.mpr ⟨fun hmem => ?_, h.filter _⟩
  obtain ⟨kv, hkv, hkey⟩ := List.mem_map.mp hmem
  have hne := (List.mem_filter.mp hkv).2
  exact bne_iff_ne.mp hne hkey

theorem Keyed.get {c' : Cache V} {answer : Option V} (h : c.Keyed)
    (hget : c.get now key = .ok (answer, c')) : c'.Keyed := by
  rcases get_cases hget with rfl | ⟨e, till, -, rfl⟩ | rfl
  · exact h
  · exact h.put _ _
  · exact h.drop key

/-- **A purge removes the entries whose time is up** and leaves the others as they are. -/
theorem Keyed.find?_purge (h : c.Keyed) (now : Instant) (key : String) :
    (c.purge now).2.find? key = (c.find? key).filter (fun e => now < e.expiresAt) :=
  Table.lookup_filter_of_nodup h _ key

/-- Under a key the entry is as before, or it is gone and nothing was live there. -/
theorem Keyed.find?_purge_cases (h : c.Keyed) (now : Instant) (key : String) :
    (c.purge now).2.find? key = c.find? key ∨
      (c.purge now).2.find? key = none ∧ c.live now key = none := by
  rw [h.find?_purge, live]
  cases (c.find? key) with
  | none => exact .inl rfl
  | some e =>
    by_cases hlive : now < e.expiresAt
    · exact .inl (by rw [Option.filter_some, if_pos (decide_eq_true hlive)])
    · refine .inr ?_
      rw [Option.filter_some, if_neg (by simpa using hlive)]
      exact ⟨rfl, rfl⟩

theorem Keyed.live_purge (h : c.Keyed) (ht : now ≤ t) :
    (c.purge now).2.live t key = c.live t key := by
  rcases h.find?_purge_cases now key with hsame | ⟨hgone, hlive⟩
  · exact live_congr hsame
  · rw [live_eq_none_of_le ht hlive, live, hgone]
    rfl

/-- **A purge counts what it removes**: the keys under which nothing is live. -/
theorem Keyed.count_purge (h : c.Keyed) (now : Instant) :
    (c.purge now).1 = c.keys.countP fun key => (c.live now key).isNone := by
  have hsplit := List.length_eq_countP_add_countP (fun e : String × CacheEntry V =>
    decide (now < e.2.expiresAt)) (l := c.entries)
  have hcount : (c.purge now).1 =
      c.entries.length - c.entries.countP (fun e => decide (now < e.2.expiresAt)) := by
    rw [List.countP_eq_length_filter]
    rfl
  rw [hcount, hsplit, Nat.add_sub_cancel_left, keys, List.countP_map]
  refine List.countP_congr fun e he => ?_
  have hfind : c.find? e.1 = some e.2 := Table.lookup_of_mem_of_nodup h he
  simp only [Function.comp_apply, live, hfind]
  by_cases hlive : now < e.2.expiresAt <;> simp [Option.filter, hlive]

end Cache
end Biblio
