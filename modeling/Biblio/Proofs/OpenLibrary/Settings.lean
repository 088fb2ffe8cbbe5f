import Biblio.Config.Validation
import Biblio.Proofs.OpenLibrary.Address
import Mathlib.Data.List.Induction

/-!
# Settings of one definition

Settings come as an object or as a list, with any of five names, and take precedence over a configuration.

* `given` is what settings say about a name, and `Readable` settings are those that say nothing else and
  nothing that does not fit.  `Overrides.ofJson_eq_ok_iff` — these can be read, and are read as what is
  given; the induction is on the members (`ofMembers_eq_ok_iff`, `view_foldl_put`).
* `Config.override_eq_ok_iff` says which settings are accepted and what they do to a configuration.
  Everything below follows from it.
* `Config.Usable` is what the check of a whole configuration asks of this part (`validate_within_iff`).
  `overridden_of_accepted` — settings keep it, up to a limit of zero results, which they may ask for.
* `Config.Normalizes` compares the ways to say nothing, and follows addresses through settings to the
  requests that are sent.  `normalizes` proves it of all configurations; where there are no settings at
  all, addresses are left as they are.
-/

set_option autoImplicit false

namespace Biblio
namespace OpenLibrary

/-! ## What settings say -/

/-- The text that a setting has, if any. -/
def text? : Json → Option String
  | .str s => some s
  | _ => none

/-- The number that a setting has, if any. -/
def number? : Json → Option Nat
  | .num (.int i) => some i.toNat
  | _ => none

/-- The settings of a value with their names. -/
def namedSettings : Json → List (String × Json)
  | .obj members => members
  | .arr items => settingNames.zip items
  | _ => []

/-- What settings say about one of them; of several values the last counts. -/
def given (s : Json) (name : String) : Json := ((namedSettings s).reverse.lookup name).getD .null

/-- A text, or nothing. -/
def IsText (j : Json) : Prop := j = .null ∨ ∃ s, j = .str s

/-- A natural number up to a bound, or nothing. -/
def IsNumber (bound : Nat) (j : Json) : Prop := j = .null ∨ ∃ n ≤ bound, j = .nat n

/-- The values that a setting may have. -/
def Permits (name : String) (j : Json) : Prop :=
  match name with
  | "base_url" | "covers_url" => IsText j
  | "requests_per_minute" | "search_limit" => IsNumber greatest32 j
  | "timeout_secs" => IsNumber greatest64 j
  | _ => False

/-- Settings that can be read: an object, or a list with an item for each setting. -/
structure Readable (s : Json) : Prop where
  shape : (∃ members, s = .obj members) ∨ ∃ items, s = .arr items ∧ items.length = settingNames.length
  permitted : ∀ m ∈ namedSettings s, Permits m.1 m.2

namespace Overrides

variable {o o' : Overrides} {name : String} {j s : Json}

theorem readText_eq_ok_iff {v : Option String} :
    readText j = .ok v ↔ IsText j ∧ text? j = v := by
  cases j <;> simp [readText, text?, IsText]

theorem readNumber_eq_ok_iff {expected : Expected} {bound : Nat} {v : Option Nat} :
    readNumber expected bound j = .ok v ↔ IsNumber bound j ∧ number? j = v := by
  cases j with
  | num x =>
    cases x with
    | int i =>
      have hnat : IsNumber bound (.num (.int i)) ↔ 0 ≤ i ∧ i ≤ bound := by
        simp only [IsNumber, Json.nat, reduceCtorEq, false_or, Json.num.injEq, Number.int.injEq]
        constructor
        · rintro ⟨n, hn, rfl⟩
          omega
        · rintro ⟨hi, hle⟩
          exact ⟨i.toNat, by omega, by omega⟩
      rw [readNumber, hnat]
      split_ifs with hfits <;> simp [hfits, number?]
    | float x => simp [readNumber, IsNumber, Json.nat]
  | _ => simp [readNumber, number?, IsNumber, Json.nat]

/-- One setting among the others. -/
def put (o : Overrides) (name : String) (j : Json) : Overrides where
  baseUrl := if name = "base_url" then text? j else o.baseUrl
  coversUrl := if name = "covers_url" then text? j else o.coversUrl
  requestsPerMinute := if name = "requests_per_minute" then number? j else o.requestsPerMinute
  searchLimit := if name = "search_limit" then number? j else o.searchLimit
  timeoutSecs := if name = "timeout_secs" then number? j else o.timeoutSecs

theorem set_eq_ok_iff : o.set name j = .ok o' ↔ Permits name j ∧ o.put name j = o' := by
  have hmap {α : Type} (x : Except SettingsError α) (f : α → Overrides) :
      x.map f = .ok o' ↔ ∃ v, x = .ok v ∧ f v = o' := by
    cases x <;> simp [Except.map]
  -- `set` and `Permits` distinguish the same names, so one split serves both.
  unfold set Permits
  split <;> simp [put, hmap, readText_eq_ok_iff, readNumber_eq_ok_iff]

theorem ofMembers_eq_ok_iff {members : List (String × Json)} :
    ofMembers o members = .ok o' ↔ (∀ m ∈ members, Permits m.1 m.2) ∧
      members.foldl (fun o m => o.put m.1 m.2) o = o' := by
  induction members generalizing o with
  | nil => simp [ofMembers]
  | cons m members ih =>
    obtain ⟨name, j⟩ := m
    rw [ofMembers, List.forall_mem_cons, List.foldl_cons, and_assoc]
    cases hset : o.set name j with
    | ok next =>
      obtain ⟨hpermits, rfl⟩ := set_eq_ok_iff.mp hset
      simp only [ih, hpermits, true_and]
    | error e =>
      have hrefused : ¬ Permits name j := fun h =>
        nomatch hset.symm.trans (set_eq_ok_iff.mpr ⟨h, rfl⟩)
      simp only [hrefused, false_and, reduceCtorEq]

/-- The part of the settings that a name stands for is read from the last member with this name. -/
theorem view_foldl_put {α : Type} (view : Overrides → α) (name : String) (read : Json → α)
    (hput : ∀ o other j, view (o.put other j) = if other = name then read j else view o)
    (members : List (String × Json)) (o : Overrides) :
    view (members.foldl (fun o m => o.put m.1 m.2) o) =
      ((members.reverse.lookup name).map read).getD (view o) := by
  induction members using List.reverseRecOn with
  | nil => rfl
  | append_singleton members m ih =>
    rw [List.foldl_append, List.foldl_cons, List.foldl_nil, hput, List.reverse_append,
      List.reverse_singleton, List.singleton_append, List.lookup_cons, ih]
    split_ifs with hname
    · rw [beq_iff_eq.mpr hname.symm]
      rfl
    · rw [beq_eq_false_iff_ne.mpr (Ne.symm hname)]

/-- The settings that are read from what is given. -/
def ofGiven (value : String → Json) : Overrides where
  baseUrl := text? (value "base_url")
  coversUrl := text? (value "covers_url")
  requestsPerMinute := number? (value "requests_per_minute")
  searchLimit := number? (value "search_limit")
  timeoutSecs := number? (value "timeout_secs")

theorem foldl_put_eq (members : List (String × Json)) :
    members.foldl (fun o m => o.put m.1 m.2) {} =
      ofGiven fun name => (members.reverse.lookup name).getD .null := by
  have hget {α : Type} (view : Overrides → Option α) (name : String) (read : Json → Option α)
      (hput : ∀ o other j, view (o.put other j) = if other = name then read j else view o)
      (hnone : view {} = none) (hnull : read .null = none) :
      view (members.foldl (fun o m => o.put m.1 m.2) {}) =
        read ((members.reverse.lookup name).getD .null) := by
    rw [view_foldl_put view name read hput, hnone]
    cases members.reverse.lookup name with
    | none => exact hnull.symm
    | some j => rfl
  rw [ofGiven, ← hget baseUrl "base_url" text? (fun _ _ _ => rfl) rfl rfl,
    ← hget coversUrl "covers_url" text? (fun _ _ _ => rfl) rfl rfl,
    ← hget requestsPerMinute "requests_per_minute" number? (fun _ _ _ => rfl) rfl rfl,
    ← hget searchLimit "search_limit" number? (fun _ _ _ => rfl) rfl rfl,
    ← hget timeoutSecs "timeout_secs" number? (fun _ _ _ => rfl) rfl rfl]

theorem ofJson_eq_ok_iff : ofJson s = .ok o ↔ Readable s ∧ ofGiven (given s) = o := by
  cases s with
  | obj members =>
    have hreadable : Readable (.obj members) ↔ ∀ m ∈ members, Permits m.1 m.2 :=
      ⟨fun h => h.permitted, fun h => ⟨.inl ⟨members, rfl⟩, h⟩⟩
    rw [ofJson, ofMembers_eq_ok_iff, foldl_put_eq, hreadable]
    rfl
  | arr items =>
    have hreadable : Readable (.arr items) ↔ (∀ m ∈ settingNames.zip items, Permits m.1 m.2) ∧
        items.length = settingNames.length := by
      constructor
      · rintro ⟨⟨_, h⟩ | ⟨_, h, hlength⟩, hpermitted⟩
        · exact nomatch h
        · exact ⟨hpermitted, Json.arr.inj h ▸ hlength⟩
      · rintro ⟨hpermitted, hlength⟩
        exact ⟨.inr ⟨items, rfl, hlength⟩, hpermitted⟩
    rw [ofJson, ofItems, hreadable]
    -- The items are read before they are counted, so that either may be why they are refused.
    cases hread : ofMembers {} (settingNames.zip items) with
    | error e =>
      have hrefused : ¬ ∀ m ∈ settingNames.zip items, Permits m.1 m.2 := fun h =>
        nomatch hread.symm.trans (ofMembers_eq_ok_iff.mpr ⟨h, rfl⟩)
      exact iff_of_false nofun fun h => hrefused h.1.1
    | ok read =>
      obtain ⟨hpermitted, hfold⟩ := ofMembers_eq_ok_iff.mp hread
      rw [foldl_put_eq] at hfold
      simp only
      split_ifs with hfew hmany
      · exact iff_of_false nofun fun h => by omega
      · exact iff_of_false nofun fun h => by omega
      · have hlength : items.length = settingNames.length := by omega
        rw [and_iff_right ⟨hpermitted, hlength⟩, Except.ok.injEq, ← hfold]
        rfl
  | _ => exact iff_of_false nofun fun h => by simpa using h.1.shape

end Overrides

/-! ## A configuration with settings on top -/

theorem permits_null {name : String} (hname : name ∈ settingNames) : Permits name .null := by
  have hall : ∀ name ∈ settingNames, Permits name .null := by
    simp [settingNames, Permits, IsText, IsNumber]
  exact hall name hname

theorem given_eq_null_or_mem (s : Json) (name : String) :
    given s name = .null ∨ (name, given s name) ∈ namedSettings s := by
  rw [given]
  cases hfind : (namedSettings s).reverse.lookup name with
  | none => exact .inl rfl
  | some j => exact .inr (List.mem_reverse.mp (Table.mem_of_lookup hfind))

theorem Readable.permits {s : Json} (h : Readable s) (name : String) (hname : name ∈ settingNames) :
    Permits name (given s name) := by
  rcases given_eq_null_or_mem s name with hnull | hmem
  · exact hnull ▸ permits_null hname
  · exact h.permitted _ hmem

theorem Readable.ne_null {s : Json} (h : Readable s) : s ≠ .null := by
  rintro rfl
  simpa using h.shape

theorem number?_eq_zero_iff {bound : Nat} {j : Json} (h : IsNumber bound j) :
    number? j = some 0 ↔ j = .nat 0 := by
  rcases h with rfl | ⟨n, -, rfl⟩
  · simp [number?, Json.nat]
  · simp [number?, Json.nat]

namespace Config

variable {c c' : Config} {s : Json}

/-- The configuration with what is given on top. -/
def adjusted (c : Config) (value : String → Json) : Config where
  baseUrl := trimSlashes ((text? (value "base_url")).getD c.baseUrl)
  coversUrl := trimSlashes ((text? (value "covers_url")).getD c.coversUrl)
  userAgent := c.userAgent
  requestsPerMinute := (number? (value "requests_per_minute")).getD c.requestsPerMinute
  searchLimit := (number? (value "search_limit")).getD c.searchLimit
  timeoutSecs := (number? (value "timeout_secs")).or c.timeoutSecs

theorem override_of_ne_null (h : s ≠ .null) :
    c.override s = (Overrides.ofJson s).bind c.apply := by
  rw [override]
  · cases Overrides.ofJson s <;> rfl
  · exact h

/-- **What settings are accepted, and what they do.** -/
theorem override_eq_ok_iff : c.override s = .ok c' ↔ s = .null ∧ c = c' ∨
    Readable s ∧ given s "timeout_secs" ≠ .nat 0 ∧ c.adjusted (given s) = c' := by
  by_cases hnull : s = .null
  · have hunreadable : ¬ Readable .null := fun h => h.ne_null rfl
    simp [hnull, override, hunreadable]
  · rw [override_of_ne_null hnull]
    simp only [hnull, false_and, false_or]
    cases hof : Overrides.ofJson s with
    | error e =>
      have hunreadable : ¬ Readable s := fun h =>
        nomatch hof.symm.trans (Overrides.ofJson_eq_ok_iff.mpr ⟨h, rfl⟩)
      simp [hunreadable, Except.bind]
    | ok o =>
      obtain ⟨hreadable, rfl⟩ := Overrides.ofJson_eq_ok_iff.mp hof
      have hnumber : IsNumber greatest64 (given s "timeout_secs") :=
        hreadable.permits "timeout_secs" (by decide)
      have hzero : (Overrides.ofGiven (given s)).timeoutSecs = some 0 ↔
          given s "timeout_secs" = .nat 0 := number?_eq_zero_iff hnumber
      rw [and_iff_right hreadable, Except.bind]
      by_cases htimeless : given s "timeout_secs" = .nat 0
      · rw [apply, if_pos (hzero.mpr htimeless)]
        simp [htimeless]
      · rw [apply, if_neg (hzero.not.mpr htimeless), Except.ok.injEq, and_iff_right htimeless]
        rfl

/-! ### Usable configurations -/

/-- What a check of the whole configuration asks of this part. -/
def Usable (c : Config) : Prop := c.searchLimit ≠ 0 ∧ c.timeoutSecs ≠ some 0

instance (c : Config) : Decidable c.Usable := inferInstanceAs (Decidable (_ ∧ _))

/-- A whole configuration with this part instead of its own. -/
def within (c : Config) (whole : Biblio.Config) : Biblio.Config :=
  { whole with metadata := { whole.metadata with openLibrary := c } }

theorem check_within {whole : Biblio.Config} (h : whole.check = none) : (c.within whole).check =
    if c.searchLimit = 0 then some (.zero "metadata.open_library.search_limit")
    else if c.timeoutSecs = some 0 then some (.zero "metadata.open_library.timeout_secs")
    else none := by
  have hnonzero : (c.within whole).nonzeroSettings = whole.nonzeroSettings := rfl
  have hbackoff : (c.within whole).metadata.backoff = whole.metadata.backoff := rfl
  have hproviders : (c.within whole).metadata.providers = whole.metadata.providers := rfl
  have hpart : (c.within whole).metadata.openLibrary = c := rfl
  rw [Biblio.Config.check] at h ⊢
  rw [hnonzero, hbackoff, hproviders, hpart]
  split at h
  · exact nomatch h
  · simp only at h
    split_ifs at h with horder
    rw [if_neg horder, h]

theorem validate_within_iff {whole : Biblio.Config} (h : whole.validate = .ok ()) :
    (c.within whole).validate = .ok () ↔ c.Usable := by
  have hcheck : whole.check = none := by
    rw [Biblio.Config.validate] at h
    split at h
    · exact nomatch h
    · assumption
  rw [Biblio.Config.validate, check_within hcheck, Usable]
  split_ifs with hlimit htime <;> simp [*]

/-- What is promised of a configuration that settings make of a usable one. -/
structure Overridden (c : Config) (s : Json) (c' : Config) : Prop where
  /-- It is usable, unless the settings ask for searches without results. -/
  usable_iff : c'.Usable ↔ given s "search_limit" ≠ .nat 0
  /-- A whole configuration that is accepted stays so with it exactly then. -/
  accepted_iff : ∀ whole : Biblio.Config, whole.validate = .ok () →
    ((c'.within whole).validate = .ok () ↔ given s "search_limit" ≠ .nat 0)
  /-- Every request may take some time. -/
  timed : c'.timeoutSecs ≠ some 0
  /-- What is not given is as it was; addresses are so up to slashes at their end. -/
  baseUrl : ∃ n, ((text? (given s "base_url")).getD c.baseUrl).toList =
    c'.baseUrl.toList ++ List.replicate n '/'
  coversUrl : ∃ n, ((text? (given s "covers_url")).getD c.coversUrl).toList =
    c'.coversUrl.toList ++ List.replicate n '/'
  userAgent : c'.userAgent = c.userAgent
  requestsPerMinute : c'.requestsPerMinute =
    (number? (given s "requests_per_minute")).getD c.requestsPerMinute
  searchLimit : c'.searchLimit = (number? (given s "search_limit")).getD c.searchLimit
  timeoutSecs : c'.timeoutSecs = (number? (given s "timeout_secs")).or c.timeoutSecs

theorem overridden_adjusted (hc : c.Usable) (hreadable : Readable s)
    (htime : given s "timeout_secs" ≠ .nat 0) : c.Overridden s (c.adjusted (given s)) := by
  have hlimited : (c.adjusted (given s)).searchLimit ≠ 0 ↔ given s "search_limit" ≠ .nat 0 := by
    have hnumber : IsNumber greatest32 (given s "search_limit") :=
      hreadable.permits "search_limit" (by decide)
    rw [adjusted]
    rcases hnumber with hnone | ⟨n, -, hn⟩
    · simp [hnone, number?, Json.nat, hc.1]
    · simp [hn, number?, Json.nat]
  have htimed : (c.adjusted (given s)).timeoutSecs ≠ some 0 := by
    have hnumber : IsNumber greatest64 (given s "timeout_secs") :=
      hreadable.permits "timeout_secs" (by decide)
    rw [adjusted]
    rcases hnumber with hnone | ⟨n, -, hn⟩
    · simp [hnone, number?, hc.2]
    · simpa [hn, number?, Json.nat] using htime
  have husable : (c.adjusted (given s)).Usable ↔ given s "search_limit" ≠ .nat 0 :=
    (and_iff_left htimed).trans hlimited
  exact
    { usable_iff := husable
      accepted_iff := fun _ hwhole => (validate_within_iff hwhole).trans husable
      timed := htimed
      baseUrl := exists_trimSlashes _
      coversUrl := exists_trimSlashes _
      userAgent := rfl
      requestsPerMinute := rfl
      searchLimit := rfl
      timeoutSecs := rfl }

/-- **Settings keep a configuration usable**, unless they ask for searches without results: these are
refused in a whole configuration, but not in settings. -/
theorem overridden_of_accepted (hc : c.Usable) (h : c.override s = .ok c') : c.Overridden s c' := by
  rcases override_eq_ok_iff.mp h with ⟨rfl, rfl⟩ | ⟨hreadable, htime, rfl⟩
  · exact
      { usable_iff := iff_of_true hc nofun
        accepted_iff := fun _ hwhole => iff_of_true ((validate_within_iff hwhole).mpr hc) nofun
        timed := hc.2
        baseUrl := ⟨0, (List.append_nil _).symm⟩
        coversUrl := ⟨0, (List.append_nil _).symm⟩
        userAgent := rfl
        requestsPerMinute := rfl
        searchLimit := rfl
        timeoutSecs := rfl }
  · exact overridden_adjusted hc hreadable htime

/-- A mirror, which is asked for five results at a time. -/
def mirror : Config := { baseUrl := "http://mirror.local", searchLimit := 5 }

theorem overridden_mirror : ({} : Config).Usable ∧
    ({} : Config).override
      (.obj [("base_url", .str "http://mirror.local/"), ("search_limit", .nat 5)]) = .ok mirror ∧
    mirror.Usable := by
  have husable : ({} : Config).Usable := by decide
  have haccepted : ({} : Config).override
      (.obj [("base_url", .str "http://mirror.local/"), ("search_limit", .nat 5)]) = .ok mirror := rfl
  have hlimit : given (.obj [("base_url", .str "http://mirror.local/"), ("search_limit", .nat 5)])
      "search_limit" = .nat 5 := rfl
  refine ⟨husable, haccepted, (overridden_of_accepted husable haccepted).usable_iff.mpr ?_⟩
  rw [hlimit]
  simp [Json.nat]

/-- The configuration for searches without results. -/
def limitless : Config := { searchLimit := 0 }

/-- Settings may ask for searches without results; a whole configuration may not. -/
theorem limitless_accepted : ({} : Config).Usable ∧
    ({} : Config).override (.obj [("search_limit", .nat 0)]) = .ok limitless ∧ ¬ limitless.Usable ∧
    (limitless.within {}).check = some (.zero "metadata.open_library.search_limit") :=
  ⟨by decide, rfl, by decide, rfl⟩

/-! ### Settings that say nothing -/

/-- Neither address has a slash at its end. -/
def TidyAddresses (c : Config) : Prop := Tidy c.baseUrl ∧ Tidy c.coversUrl

/-- The configuration with both addresses trimmed. -/
def tidied (c : Config) : Config :=
  { c with baseUrl := trimSlashes c.baseUrl, coversUrl := trimSlashes c.coversUrl }

theorem tidied_eq_self_iff : c.tidied = c ↔ c.TidyAddresses := by
  rw [TidyAddresses, ← trimSlashes_eq_self_iff, ← trimSlashes_eq_self_iff]
  constructor
  · exact fun h => ⟨congrArg baseUrl h, congrArg coversUrl h⟩
  · rintro ⟨hbase, hcovers⟩
    rw [tidied, hbase, hcovers]

theorem tidyAddresses_adjusted (c : Config) (value : String → Json) :
    (c.adjusted value).TidyAddresses := ⟨tidy_trimSlashes _, tidy_trimSlashes _⟩

/-- What settings have changed they do not change again. -/
theorem adjusted_adjusted (c : Config) (value : String → Json) :
    (c.adjusted value).adjusted value = c.adjusted value := by
  have haddress (o : Option String) (url : String) :
      trimSlashes (o.getD (trimSlashes (o.getD url))) = trimSlashes (o.getD url) := by
    cases o with
    | none => exact trimSlashes_trimSlashes url
    | some given => rfl
  have hnumber (o : Option Nat) (n : Nat) : o.getD (o.getD n) = o.getD n := by cases o <;> rfl
  have htime (o n : Option Nat) : o.or (o.or n) = o.or n := by cases o <;> rfl
  simp only [adjusted, haddress, hnumber, htime]

theorem override_of_nulls (hshape : (∃ members, s = .obj members) ∨
      ∃ items, s = .arr items ∧ items.length = settingNames.length)
    (hnull : ∀ m ∈ namedSettings s, m.1 ∈ settingNames ∧ m.2 = .null) :
    c.override s = .ok c.tidied := by
  have hreadable : Readable s := ⟨hshape, fun ⟨name, j⟩ hm => by
    obtain ⟨hname, rfl⟩ := hnull _ hm
    exact permits_null hname⟩
  have hgiven : given s = fun _ => .null := funext fun name =>
    (given_eq_null_or_mem s name).elim id fun hmem => (hnull _ hmem).2
  refine override_eq_ok_iff.mpr (.inr ⟨hreadable, ?_, ?_⟩)
  · rw [hgiven]
    exact nofun
  · rw [hgiven]
    rfl

/-- What is promised of settings on top of any configuration. -/
structure Normalizes (c : Config) : Prop where
  /-- No members, or settings that are `null`, give the same: the configuration with trimmed addresses. -/
  members : ∀ members : List (String × Json), (∀ m ∈ members, m.1 ∈ settingNames ∧ m.2 = .null) →
    c.override (.obj members) = .ok c.tidied
  items : c.override (.arr (List.replicate settingNames.length .null)) = .ok c.tidied
  /-- No settings give the same exactly if the addresses have no slash at their end. -/
  null_iff : c.override .null = .ok c.tidied ↔ c.TidyAddresses
  /-- Any others leave none there, -/
  tidy_iff : ∀ s c', c.override s = .ok c' → (c'.TidyAddresses ↔ s ≠ .null ∨ c.TidyAddresses)
  /-- so that requests have one slash before the path. -/
  joined_iff : ∀ s c', c.override s = .ok c' →
    (c'.SendsOnly c'.JoinedOnce ↔ s ≠ .null ∨ Tidy c.baseUrl)
  /-- Settings change nothing the second time. -/
  again : ∀ s c', c.override s = .ok c' → c'.override s = .ok c'

/-- **Settings leave tidy addresses**, and settings that say nothing are all alike, except for the
absence of settings: it leaves the addresses as they are. -/
theorem normalizes (c : Config) : c.Normalizes where
  members members h := override_of_nulls (.inl ⟨members, rfl⟩) h
  items := by
    refine override_of_nulls (.inr ⟨_, rfl, List.length_replicate⟩) fun m hm => ?_
    obtain ⟨hname, hj⟩ := List.of_mem_zip hm
    exact ⟨hname, List.eq_of_mem_replicate hj⟩
  null_iff := by rw [override, Except.ok.injEq, eq_comm, tidied_eq_self_iff]
  tidy_iff s c' h := by
    rcases override_eq_ok_iff.mp h with ⟨rfl, rfl⟩ | ⟨hreadable, -, rfl⟩
    · simp
    · exact iff_of_true (tidyAddresses_adjusted c _) (.inl hreadable.ne_null)
  joined_iff s c' h := by
    rw [sendsOnly_joinedOnce_iff]
    rcases override_eq_ok_iff.mp h with ⟨rfl, rfl⟩ | ⟨hreadable, -, rfl⟩
    · simp
    · exact iff_of_true (tidyAddresses_adjusted c _).1 (.inl hreadable.ne_null)
  again s c' h := by
    rcases override_eq_ok_iff.mp h with ⟨rfl, rfl⟩ | ⟨hreadable, htime, rfl⟩
    · exact h
    · exact override_eq_ok_iff.mpr (.inr ⟨hreadable, htime, adjusted_adjusted c _⟩)

/-- A configuration with a slash at the end of an address. -/
def slashed : Config := { baseUrl := "http://keep/" }

/-- Without settings the slash is left, and requests have two before the path; with an empty object it
is not. -/
theorem slashed_override : slashed.override .null = .ok slashed ∧
    slashed.override (.obj []) = .ok { slashed with baseUrl := "http://keep" } ∧
    slashed.override .null ≠ slashed.override (.obj []) ∧ ¬ slashed.TidyAddresses ∧
    slashed.test.sent Network.down = ["http://keep//search/authors.json?q=tolkien&limit=1"] := by
  have hempty : slashed.override (.obj []) = .ok { slashed with baseUrl := "http://keep" } := rfl
  have hne : slashed ≠ { slashed with baseUrl := "http://keep" } := by decide
  refine ⟨rfl, hempty, fun h => hne (Except.ok.inj (h.trans hempty)), ?_, by decide +kernel⟩
  exact fun h => h.1 (by decide)

end Config
end OpenLibrary
end Biblio
