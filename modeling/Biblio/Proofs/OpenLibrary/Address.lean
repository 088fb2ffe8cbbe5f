import Biblio.OpenLibrary.Source
import Biblio.Proofs.OpenLibrary.Lookup
import Mathlib.Data.List.DropRight

/-!
# Addresses of requests

A request goes to the address of the service with a path behind it.

* `Tidy` addresses have no slash at their end.  `exists_trimSlashes`, `tidy_trimSlashes` and
  `trimSlashes_eq_self_iff` say what trimming leaves.
* `Lookup.Sends` is a property of all requests of a look-up, and passes from its parts to the whole.
  `Config.SendsOnly` is one of all look-ups of the source.
* `sendsOnly_joinedOnce_iff` — between the service and the path there is one slash exactly if the
  address of the service is tidy.
-/

set_option autoImplicit false

namespace Biblio
namespace OpenLibrary

/-! ## Slashes at the end -/

/-- An address without a slash at its end. -/
def Tidy (url : String) : Prop := url.toList.getLast? ≠ some '/'

theorem toList_trimSlashes (url : String) :
    (trimSlashes url).toList = url.toList.rdropWhile (· == '/') := String.toList_ofList

/-- **Only slashes are taken away.** -/
theorem exists_trimSlashes (url : String) :
    ∃ n, url.toList = (trimSlashes url).toList ++ List.replicate n '/' := by
  have hslashes (ch : Char) (hch : ch ∈ url.toList.rtakeWhile (· == '/')) : ch = '/' := by
    have hslash : (ch == '/') = true := List.mem_rtakeWhile_imp (p := (· == '/')) hch
    exact beq_iff_eq.mp hslash
  refine ⟨(url.toList.rtakeWhile (· == '/')).length, ?_⟩
  rw [← List.eq_replicate_of_mem hslashes, toList_trimSlashes, List.rdropWhile_append_rtakeWhile]

theorem trimSlashes_eq_self_iff {url : String} : trimSlashes url = url ↔ Tidy url := by
  rw [← String.toList_inj, toList_trimSlashes, List.rdropWhile_eq_self_iff, Tidy]
  by_cases hurl : url.toList = []
  · simp [hurl]
  · simp [List.getLast?_eq_some_getLast hurl, hurl]

theorem trimSlashes_trimSlashes (url : String) : trimSlashes (trimSlashes url) = trimSlashes url := by
  rw [← String.toList_inj, toList_trimSlashes, toList_trimSlashes, List.rdropWhile_idempotent]

theorem tidy_trimSlashes (url : String) : Tidy (trimSlashes url) :=
  trimSlashes_eq_self_iff.mp (trimSlashes_trimSlashes url)

/-! ## All requests of a look-up -/

namespace Lookup

variable {α β : Type} {P Q : String → Prop} {l : Lookup α} {f : α → Lookup β}

/-- All requests have a property, whatever a network answers. -/
def Sends (P : String → Prop) (l : Lookup α) : Prop :=
  ∀ network, ∀ address ∈ l.sent network, P address

theorem sends_pure (a : α) : (pure a : Lookup α).Sends P := fun _ _ h => nomatch h

theorem Sends.bind (hl : l.Sends P) (hf : ∀ a, (f a).Sends P) : (l >>= f).Sends P := by
  intro network address haddress
  rw [sent_bind] at haddress
  rcases List.mem_append.mp haddress with h | h
  · exact hl network address h
  · cases hrun : l.run network with
    | ok a => exact hf a network address (by simpa only [hrun] using h)
    | error e => simp only [hrun, List.not_mem_nil] at h

theorem Sends.found (hl : l.Sends P) : l.found.Sends P := fun network address h =>
  hl network address (sent_found l ▸ h)

theorem Sends.mono (hl : l.Sends P) (hPQ : ∀ address, P address → Q address) : l.Sends Q :=
  fun network address h => hPQ address (hl network address h)

end Lookup

/-! ## All requests of the source -/

/-- A path with one slash at its beginning. -/
def Rooted (path : String) : Prop := ∃ ch rest, path.toList = '/' :: ch :: rest ∧ ch ≠ '/'

theorem Rooted.append {path : String} (h : Rooted path) (rest : String) : Rooted (path ++ rest) := by
  obtain ⟨ch, tail, hpath, hch⟩ := h
  exact ⟨ch, tail ++ rest.toList, by rw [String.toList_append, hpath]; rfl, hch⟩

namespace Config

variable {c : Config} {P : String → Prop}

/-- Every look-up of the source sends only requests with a property. -/
structure SendsOnly (c : Config) (P : String → Prop) : Prop where
  fetchAuthor : ∀ id, (c.fetchAuthor id).Sends P
  fetchBook : ∀ id, (c.fetchBook id).Sends P
  searchAuthors : ∀ query, (c.searchAuthors query).Sends P
  searchBooks : ∀ title author allEditions, (c.searchBooks title author allEditions).Sends P
  searchIsbn : ∀ isbn, (c.searchIsbn isbn).Sends P
  changedAuthors : ∀ since, (c.changedAuthors since).Sends P
  test : c.test.Sends P

/-- The address of the service with a path behind it. -/
def Behind (c : Config) (address : String) : Prop :=
  ∃ path, Rooted path ∧ address = c.baseUrl ++ path

theorem behind_address {path : String} (h : Rooted path) (query : List (String × String)) :
    c.Behind (c.address path query) :=
  ⟨_, h.append _, String.append_assoc⟩

theorem sends_get {α : Type} {decoder : Json.Decoder α} {path : String}
    {query : List (String × String)} (h : Rooted path) :
    (c.get decoder path query).Sends c.Behind := by
  intro network address haddress
  obtain rfl := List.mem_singleton.mp haddress
  exact behind_address h query

theorem rooted_authorPath (id : String) : Rooted (authorPath id) :=
  (Rooted.append ⟨'a', _, rfl, by decide⟩ _).append _

theorem sends_fetchAuthor (c : Config) (id : String) : (c.fetchAuthor id).Sends c.Behind := by
  refine (sends_get (rooted_authorPath id)).found.bind fun found => ?_
  cases found with
  | none => exact Lookup.sends_pure none
  | some a =>
    have hworks : Rooted ("/authors/" ++ Http.encodeSegment id ++ "/works.json") :=
      (Rooted.append ⟨'a', _, rfl, by decide⟩ _).append _
    exact (sends_get hworks).found.bind fun works => Lookup.sends_pure _

theorem sends_credited (c : Config) (ids : List String) : (c.credited ids).Sends c.Behind := by
  intro network address haddress
  rw [credited, Lookup.sent, Lookup.sent, List.append_nil] at haddress
  obtain ⟨id, -, rfl⟩ := List.mem_map.mp haddress
  exact behind_address (rooted_authorPath id) []

theorem sends_fetchBook (c : Config) (id : String) : (c.fetchBook id).Sends c.Behind := by
  have hworks : Rooted ("/works/" ++ Http.encodeSegment id) := Rooted.append ⟨'w', _, rfl, by decide⟩ _
  refine (sends_get (hworks.append _)).found.bind fun work => ?_
  cases work with
  | none => exact Lookup.sends_pure none
  | some w =>
    refine (sends_get (hworks.append _)).found.bind fun listing => ?_
    exact (sends_credited c w.authorIds).bind fun authors => Lookup.sends_pure _

theorem sends_changedFrom (c : Config) (since : Moment) (page pages : Nat) :
    (c.changedFrom since page pages).Sends c.Behind := by
  induction pages generalizing page with
  | zero => exact Lookup.sends_pure []
  | succ pages ih =>
    refine (sends_get ⟨'r', _, rfl, by decide⟩).bind fun entries => ?_
    split_ifs
    · exact Lookup.sends_pure []
    · exact Lookup.sends_pure _
    · exact (ih (page + 1)).bind fun more => Lookup.sends_pure _

theorem sends_searchIsbn (c : Config) (isbn : String) : (c.searchIsbn isbn).Sends c.Behind := by
  have hnumber : Rooted ("/isbn/" ++ Http.encodeSegment (Text.isbnKey isbn)) :=
    Rooted.append ⟨'i', _, rfl, by decide⟩ _
  refine (sends_get (hnumber.append _)).found.bind fun found => ?_
  cases found with
  | none => exact Lookup.sends_pure []
  | some d =>
    cases hwork : d.workId? with
    | none =>
      simp only [hwork]
      exact Lookup.sends_pure []
    | some work =>
      simp only [hwork]
      refine (sends_fetchBook c work).bind fun info => ?_
      cases info <;> exact Lookup.sends_pure _

/-- **All requests go to the address of the service**, with a path behind it. -/
theorem sendsOnly_behind (c : Config) : c.SendsOnly c.Behind where
  fetchAuthor := sends_fetchAuthor c
  fetchBook := sends_fetchBook c
  searchAuthors _ := (sends_get ⟨'s', _, rfl, by decide⟩).bind fun _ => Lookup.sends_pure _
  searchBooks _ _ _ := (sends_get ⟨'s', _, rfl, by decide⟩).bind fun _ => Lookup.sends_pure _
  searchIsbn := sends_searchIsbn c
  changedAuthors since := (sends_changedFrom c since 0 _).bind fun _ => Lookup.sends_pure _
  test := (sends_get ⟨'s', _, rfl, by decide⟩).bind fun _ => Lookup.sends_pure ()

theorem SendsOnly.mono {Q : String → Prop} (h : c.SendsOnly P)
    (hPQ : ∀ address, P address → Q address) : c.SendsOnly Q where
  fetchAuthor id := (h.fetchAuthor id).mono hPQ
  fetchBook id := (h.fetchBook id).mono hPQ
  searchAuthors query := (h.searchAuthors query).mono hPQ
  searchBooks title author allEditions := (h.searchBooks title author allEditions).mono hPQ
  searchIsbn isbn := (h.searchIsbn isbn).mono hPQ
  changedAuthors since := (h.changedAuthors since).mono hPQ
  test := h.test.mono hPQ

/-- There is one slash between the address of the service and the path behind it. -/
def JoinedOnce (c : Config) (address : String) : Prop :=
  ∃ path, Rooted path ∧ address = trimSlashes c.baseUrl ++ path

/-- **Requests have one slash before the path** exactly if the address of the service is tidy. -/
theorem sendsOnly_joinedOnce_iff : c.SendsOnly c.JoinedOnce ↔ Tidy c.baseUrl := by
  constructor
  · intro h
    have hsent : c.JoinedOnce (c.address "/search/authors.json" [("q", "tolkien"), ("limit", "1")]) :=
      h.test Network.down _ List.mem_cons_self
    obtain ⟨path, ⟨ch, rest, hpath, hch⟩, haddress⟩ := hsent
    obtain ⟨n, hn⟩ := exists_trimSlashes c.baseUrl
    cases n with
    | zero => exact trimSlashes_eq_self_iff.mp (String.toList_inj.mp (hn.trans (List.append_nil _)).symm)
    | succ n =>
      -- The slash that is trimmed stands before that of the path.
      refine absurd ?_ hch
      have hchars := congrArg String.toList haddress
      simp only [address, String.toList_append, hn, hpath, List.append_assoc, List.append_cancel_left_eq]
        at hchars
      cases n <;> exact (List.cons.inj (List.cons.inj hchars).2).1.symm
  · intro htidy
    refine (sendsOnly_behind c).mono fun address ⟨path, hpath, haddress⟩ => ⟨path, hpath, ?_⟩
    rw [haddress, trimSlashes_eq_self_iff.mpr htidy]

end Config
end OpenLibrary
end Biblio
