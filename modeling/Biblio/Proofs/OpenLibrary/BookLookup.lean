import Biblio.OpenLibrary.Source
import Biblio.Proofs.OpenLibrary.Lookup

/-!
# Looking books up

A book is put together from the record of its work, the list of its editions and the records of its
credited authors.  Any of them may be missing, and any request for them may fail.

* `Request.work`, `Request.editions`, `Request.author` and `Request.isbn` are the requests that are sent.
* `Config.Credited` are the credited authors whose records exist; `credited_or_fails` is the induction
  on the credits.
* `Config.Breaks` says that a request for a book fails.  `fetchBook_cases` lists all that can come of
  fetching a book, and `FetchesBook` is what is promised of it.
* `Config.Matched` says what becomes of a book when an edition is put first.  `searchIsbn_cases` and
  `SearchesIsbn` are about the book of a number.
* `coherent_lookups` is the result for both.
-/

set_option autoImplicit false

namespace Biblio
namespace OpenLibrary

/-! ## The requests -/

namespace Request

/-- The record of a work. -/
def work (id : String) : Request WorkDocument where
  decoder := WorkDocument.decoder
  path := "/works/" ++ Http.encodeSegment id ++ ".json"

/-- The first editions of a work. -/
def editions (id : String) : Request (Listing EditionDocument) where
  decoder := Listing.decoder EditionDocument.decoder
  path := "/works/" ++ Http.encodeSegment id ++ "/editions.json"
  query := [("limit", Decimal.text editionPage)]

/-- The record of an author. -/
def author (id : String) : Request AuthorDocument where
  decoder := AuthorDocument.decoder
  path := authorPath id

/-- The edition with a number. -/
def isbn (number : String) : Request EditionDocument where
  decoder := EditionDocument.decoder
  path := "/isbn/" ++ Http.encodeSegment (Text.isbnKey number) ++ ".json"

end Request

/-! ## Credited authors -/

section credits

variable {covers id : String} {r : Reply} {a : AuthorDocument} {e : SourceError}
  (rest : List (String × Reply))

theorem creditedAuthors_of_missing (h : r.IsMissing) :
    creditedAuthors covers ((id, r) :: rest) = creditedAuthors covers rest := by
  rw [creditedAuthors, h.read]
  rfl

theorem creditedAuthors_of_ok (h : r.read AuthorDocument.decoder (authorPath id) = .ok a) :
    creditedAuthors covers ((id, r) :: rest) =
      (creditedAuthors covers rest).map ((a.author covers 0).metadata :: ·) := by
  rw [creditedAuthors, h]
  cases creditedAuthors covers rest <;> rfl

theorem creditedAuthors_of_error (hexists : ¬ r.IsMissing)
    (h : r.read AuthorDocument.decoder (authorPath id) = .error e) :
    creditedAuthors covers ((id, r) :: rest) = .error e := by
  have hfound : ¬ e.isNotFound = true := (Reply.isNotFound_of_read h).not.mpr hexists
  rw [creditedAuthors, h]
  simp only [if_neg hfound]

end credits

namespace Config

variable {c : Config} {network : Network} {id : String} {ids : List String}
  {authors : List AuthorMetadata} {w : WorkDocument} {l : Listing EditionDocument}
  {d : EditionDocument} {info : BookInfo} {isbn : String} {e : SourceError}

/-- The metadata of those credited authors whose records exist, in the order of the credits. -/
inductive Credited (c : Config) (network : Network) : List String → List AuthorMetadata → Prop
  | nil : Credited c network [] []
  /-- An author without a record is skipped. -/
  | missing {id : String} {ids : List String} {authors : List AuthorMetadata}
      (absent : (Request.author id).Missing c network) (rest : Credited c network ids authors) :
      Credited c network (id :: ids) authors
  | found {id : String} {ids : List String} {a : AuthorDocument} {authors : List AuthorMetadata}
      (present : (Request.author id).Has c network a) (rest : Credited c network ids authors) :
      Credited c network (id :: ids) ((a.author c.coversUrl 0).metadata :: authors)

theorem Credited.not_fails (h : c.Credited network ids authors) (hid : id ∈ ids) :
    ¬ (Request.author id).Fails c network e := by
  induction h with
  | nil => exact absurd hid List.not_mem_nil
  | missing absent rest ih =>
    rcases List.mem_cons.mp hid with rfl | hid
    · exact fun hfails => hfails.1 absent
    · exact ih hid
  | found present rest ih =>
    rcases List.mem_cons.mp hid with rfl | hid
    · exact present.not_fails
    · exact ih hid

theorem run_credited (c : Config) (network : Network) (ids : List String) :
    (c.credited ids).run network =
      creditedAuthors c.coversUrl (ids.map fun id => (id, (Request.author id).reply c network)) := by
  show creditedAuthors c.coversUrl (ids.zip _) = _
  rw [List.map_map, List.map_prod_left_eq_zip]
  rfl

theorem Credited.run_eq (h : c.Credited network ids authors) :
    (c.credited ids).run network = .ok authors := by
  rw [run_credited]
  induction h with
  | nil => rfl
  | missing absent rest ih => exact (creditedAuthors_of_missing _ absent).trans ih
  | found present rest ih => exact (creditedAuthors_of_ok _ present).trans (congrArg (Except.map _) ih)

/-- **The credited authors are found, or a request for one of them fails.**  The induction is on the
credits. -/
theorem credited_or_fails (c : Config) (network : Network) (ids : List String) :
    (∃ authors, c.Credited network ids authors) ∨
      ∃ e, (c.credited ids).run network = .error e ∧
        ∃ id ∈ ids, (Request.author id).Fails c network e := by
  induction ids with
  | nil => exact .inl ⟨[], .nil⟩
  | cons id ids ih =>
    simp only [run_credited, List.map_cons] at ih ⊢
    rcases (Request.author id).cases c network with hmissing | ⟨a, ha⟩ | ⟨e, he⟩
    · rw [creditedAuthors_of_missing _ hmissing]
      rcases ih with ⟨authors, hcredited⟩ | ⟨e, hrun, failing, hmem, hfails⟩
      · exact .inl ⟨authors, .missing hmissing hcredited⟩
      · exact .inr ⟨e, hrun, failing, List.mem_cons_of_mem _ hmem, hfails⟩
    · rw [creditedAuthors_of_ok _ ha]
      rcases ih with ⟨authors, hcredited⟩ | ⟨e, hrun, failing, hmem, hfails⟩
      · exact .inl ⟨_, .found ha hcredited⟩
      · exact .inr ⟨e, congrArg (Except.map _) hrun, failing, List.mem_cons_of_mem _ hmem, hfails⟩
    · exact .inr ⟨e, creditedAuthors_of_error _ he.1 he.2, id, List.mem_cons_self, he⟩

/-! ## Books by identifier -/

/-- What is known of the editions of a work; if there is no list of them, nothing is. -/
def Listed (c : Config) (network : Network) (id : String) (l : Listing EditionDocument) : Prop :=
  (Request.editions id).Missing c network ∧ l = {} ∨ (Request.editions id).Has c network l

/-- A request for a book fails. -/
inductive Breaks (c : Config) (network : Network) (id : String) (e : SourceError) : Prop
  | work (fails : (Request.work id).Fails c network e)
  | editions {w : WorkDocument} (known : (Request.work id).Has c network w)
      (fails : (Request.editions id).Fails c network e)
  | author {w : WorkDocument} {credit : String} (known : (Request.work id).Has c network w)
      (credited : credit ∈ w.authorIds) (fails : (Request.author credit).Fails c network e)

/-- The book of a work with its editions and its authors. -/
def bookInfo (c : Config) (w : WorkDocument) (l : Listing EditionDocument)
    (authors : List AuthorMetadata) : BookInfo where
  authorForeignId := (authors.head?.map AuthorMetadata.foreignId).getD ""
  book := w.book c.coversUrl (l.entries.map fun d => d.edition c.coversUrl) l.size authors.head?
  authors := authors

theorem fetchBook_eq (c : Config) (id : String) :
    c.fetchBook id = ((Request.work id).ask c).found >>= fun
      | none => pure none
      | some w => ((Request.editions id).ask c).found >>= fun l =>
        c.credited w.authorIds >>= fun authors =>
          pure (some (c.bookInfo w (l.getD {}) authors)) := rfl

theorem Listed.exists_run (h : c.Listed network id l) :
    ∃ found, ((Request.editions id).ask c).found.run network = .ok found ∧ found.getD {} = l := by
  rcases h with ⟨hmissing, rfl⟩ | hl
  · exact ⟨none, Request.missing_iff.mpr hmissing, rfl⟩
  · exact ⟨some l, Request.has_iff.mpr hl, rfl⟩

theorem listed_or_fails (c : Config) (network : Network) (id : String) :
    (∃ l, c.Listed network id l) ∨ ∃ e, (Request.editions id).Fails c network e := by
  rcases (Request.editions id).cases c network with hmissing | ⟨l, hl⟩ | hfails
  · exact .inl ⟨{}, .inl ⟨hmissing, rfl⟩⟩
  · exact .inl ⟨l, .inr hl⟩
  · exact .inr hfails

theorem run_fetchBook (hw : (Request.work id).Has c network w) (hl : c.Listed network id l) :
    (c.fetchBook id).run network =
      ((c.credited w.authorIds).run network).map fun authors => some (c.bookInfo w l authors) := by
  obtain ⟨found, hrun, rfl⟩ := hl.exists_run
  rw [fetchBook_eq, Lookup.run_bind, Request.has_iff.mpr hw]
  simp only [Lookup.run_bind, hrun]
  cases (c.credited w.authorIds).run network <;> rfl

/-- **All that can come of fetching a book.** -/
theorem fetchBook_cases (c : Config) (network : Network) (id : String) :
    (Request.work id).Missing c network ∧ (c.fetchBook id).run network = .ok none ∨
      (∃ w l authors, (Request.work id).Has c network w ∧ c.Listed network id l ∧
        c.Credited network w.authorIds authors ∧
        (c.fetchBook id).run network = .ok (some (c.bookInfo w l authors))) ∨
      ∃ e, c.Breaks network id e ∧ (c.fetchBook id).run network = .error e := by
  rcases (Request.work id).cases c network with hmissing | ⟨w, hw⟩ | ⟨e, he⟩
  · refine .inl ⟨hmissing, ?_⟩
    rw [fetchBook_eq, Lookup.run_bind, Request.missing_iff.mpr hmissing]
    rfl
  · -- The authors are looked up after the editions, and only if these have not failed.
    rcases c.listed_or_fails network id with ⟨l, hl⟩ | ⟨e, he⟩
    · rw [run_fetchBook hw hl]
      rcases c.credited_or_fails network w.authorIds with ⟨authors, h⟩ | ⟨e, hrun, credit, hmem, he⟩
      · exact .inr (.inl ⟨w, l, authors, hw, hl, h, congrArg (Except.map _) h.run_eq⟩)
      · exact .inr (.inr ⟨e, .author hw hmem he, congrArg (Except.map _) hrun⟩)
    · refine .inr (.inr ⟨e, .editions hw he, ?_⟩)
      rw [fetchBook_eq, Lookup.run_bind, Request.has_iff.mpr hw]
      simp only [Lookup.run_bind, Request.fails_iff.mpr he]
  · refine .inr (.inr ⟨e, .work he, ?_⟩)
    rw [fetchBook_eq, Lookup.run_bind, Request.fails_iff.mpr he]

theorem Breaks.not_missing (h : c.Breaks network id e) : ¬ (Request.work id).Missing c network := by
  cases h with
  | work fails => exact fails.1
  | editions known _ => exact known.not_missing
  | author known _ _ => exact known.not_missing

theorem Breaks.not_found (h : c.Breaks network id e) (hw : (Request.work id).Has c network w)
    (hl : c.Listed network id l) : ¬ c.Credited network w.authorIds authors := by
  intro hcredited
  cases h with
  | work fails => exact hw.not_fails fails
  | editions _ fails =>
    rcases hl with ⟨hmissing, -⟩ | hl
    · exact fails.1 hmissing
    · exact hl.not_fails fails
  | author known credited fails =>
    obtain rfl := known.unique hw
    exact hcredited.not_fails credited fails

/-- A book of the first of some authors, with a count that covers its editions. -/
structure Attributed (authors : List AuthorMetadata) (b : Book) : Prop where
  authorForeignId : b.authorForeignId = authors.head?.map AuthorMetadata.foreignId
  authorName : b.authorName = authors.head?.map AuthorMetadata.name
  counted : b.editions.length ≤ b.editionCount

/-- What is promised of a book that has been fetched. -/
structure Coherent (c : Config) (network : Network) (id : String) (info : BookInfo) : Prop where
  /-- The authors are those credited for the work whose records exist, in the order of the credits. -/
  credited : ∃ w, (Request.work id).Has c network w ∧
    c.Credited network w.authorIds info.authors
  /-- The first of them is the author. -/
  author : info.authorForeignId = (info.authors.head?.map AuthorMetadata.foreignId).getD ""
  book : Attributed info.authors info.book
  /-- The editions are those that are listed; without a list there are none. -/
  editions : ∃ l, c.Listed network id l ∧
    info.book.editions = l.entries.map fun d => d.edition c.coversUrl

theorem coherent_bookInfo (hw : (Request.work id).Has c network w) (hl : c.Listed network id l)
    (hcredited : c.Credited network w.authorIds authors) :
    c.Coherent network id (c.bookInfo w l authors) where
  credited := ⟨w, hw, hcredited⟩
  author := rfl
  book := ⟨rfl, rfl, Nat.le_max_right _ _⟩
  editions := ⟨l, hl, rfl⟩

/-- What is promised of fetching a book. -/
structure FetchesBook (c : Config) (network : Network) (id : String) : Prop where
  /-- A missing work, and nothing else, is why there is no book. -/
  missing_iff : (c.fetchBook id).run network = .ok none ↔ (Request.work id).Missing c network
  /-- Each request that fails, and nothing else, fails everything. -/
  failed_iff : (∃ e, (c.fetchBook id).run network = .error e) ↔ ∃ e, c.Breaks network id e
  /-- The error is that of a request. -/
  cause : ∀ e, (c.fetchBook id).run network = .error e → c.Breaks network id e
  coherent : ∀ info, (c.fetchBook id).run network = .ok (some info) → c.Coherent network id info

theorem fetchesBook (c : Config) (network : Network) (id : String) : c.FetchesBook network id := by
  rcases c.fetchBook_cases network id with
    ⟨hmissing, hrun⟩ | ⟨w, l, authors, hw, hl, hcredited, hrun⟩ | ⟨e, hbreaks, hrun⟩
  · exact
      { missing_iff := iff_of_true hrun hmissing
        failed_iff := iff_of_false (fun ⟨_, h⟩ => nomatch hrun.symm.trans h)
          fun ⟨_, h⟩ => h.not_missing hmissing
        cause := fun _ h => nomatch hrun.symm.trans h
        coherent := fun _ h => nomatch hrun.symm.trans h }
  · refine ⟨?_, ?_, fun _ h => (nomatch hrun.symm.trans h), fun info h => ?_⟩
    · exact iff_of_false (fun h => nomatch hrun.symm.trans h) hw.not_missing
    · exact iff_of_false (fun ⟨_, h⟩ => nomatch hrun.symm.trans h)
        fun ⟨_, h⟩ => h.not_found hw hl hcredited
    · obtain rfl := Option.some.inj (Except.ok.inj (hrun.symm.trans h))
      exact coherent_bookInfo hw hl hcredited
  · refine ⟨?_, iff_of_true ⟨e, hrun⟩ ⟨e, hbreaks⟩, fun e' h => ?_, fun _ h => nomatch hrun.symm.trans h⟩
    · exact iff_of_false (fun h => nomatch hrun.symm.trans h) hbreaks.not_missing
    · exact Except.error.inj (hrun.symm.trans h) ▸ hbreaks

/-! ## Books by the number of an edition -/

/-- A number is of no book. -/
inductive Unknown (c : Config) (network : Network) (isbn : String) : Prop
  | number (missing : (Request.isbn isbn).Missing c network)
  | work {d : EditionDocument} (known : (Request.isbn isbn).Has c network d)
      (workless : d.workId? = none)
  | book {d : EditionDocument} {id : String} (known : (Request.isbn isbn).Has c network d)
      (belongs : d.workId? = some id) (missing : (Request.work id).Missing c network)

/-- A request for the book of a number fails. -/
inductive BreaksIsbn (c : Config) (network : Network) (isbn : String) (e : SourceError) : Prop
  | number (fails : (Request.isbn isbn).Fails c network e)
  | book {d : EditionDocument} {id : String} (known : (Request.isbn isbn).Has c network d)
      (belongs : d.workId? = some id) (breaks : c.Breaks network id e)

/-- What is promised of a book in which an edition is put first. -/
structure Matched (matched : Edition) (before after : Book) : Prop where
  first : after.editions.head? = some matched
  once : (after.editions.map Edition.foreignId).count matched.foreignId = 1
  /-- The other editions keep their order. -/
  others : after.editions.tail =
    before.editions.filter fun other => other.foreignId ≠ matched.foreignId
  /-- Nothing that was counted is lost, -/
  grows : before.editionCount ≤ after.editionCount
  /-- and nothing else changes. -/
  rest : after = { before with editions := after.editions, editionCount := after.editionCount }

theorem matched_withMatched (b : Book) (matched : Edition) :
    Matched matched b (withMatched b matched) where
  first := rfl
  once := by
    have hnone : matched.foreignId ∉
        (b.editions.filter fun e => e.foreignId != matched.foreignId).map Edition.foreignId := by
      intro hmem
      obtain ⟨e, he, heq⟩ := List.mem_map.mp hmem
      exact bne_iff_ne.mp (List.mem_filter.mp he).2 heq
    rw [withMatched, List.map_cons, List.count_cons_self, List.count_eq_zero.mpr hnone]
  others := List.filter_congr fun e _ => (decide_not ..).symm
  grows := Nat.le_max_left _ _
  rest := rfl

theorem Attributed.withMatched {b : Book} (h : Attributed authors b) (matched : Edition) :
    Attributed authors (withMatched b matched) :=
  ⟨h.authorForeignId, h.authorName, Nat.le_max_right _ _⟩

/-- What is promised of searching for the book of a number. -/
structure SearchesIsbn (c : Config) (network : Network) (isbn : String) : Prop where
  /-- A number without an edition, an edition without a work or a missing work, and nothing else, is why
  nothing is found. -/
  unknown_iff : (c.searchIsbn isbn).run network = .ok [] ↔ c.Unknown network isbn
  /-- Each request that fails, and nothing else, fails everything. -/
  failed_iff : (∃ e, (c.searchIsbn isbn).run network = .error e) ↔
    ∃ e, c.BreaksIsbn network isbn e
  /-- The error is that of a request. -/
  cause : ∀ e, (c.searchIsbn isbn).run network = .error e → c.BreaksIsbn network isbn e
  /-- What is found is one book, with the edition of the number first. -/
  coherent : ∀ books, (c.searchIsbn isbn).run network = .ok books → books ≠ [] →
    ∃ d id info book, (Request.isbn isbn).Has c network d ∧ d.workId? = some id ∧
      c.Coherent network id info ∧ books = [book] ∧ Attributed info.authors book ∧
      Matched (d.edition c.coversUrl) info.book book

theorem searchIsbn_eq (c : Config) (isbn : String) :
    c.searchIsbn isbn = ((Request.isbn isbn).ask c).found >>= fun
      | none => pure []
      | some d =>
        match d.workId? with
        | none => pure []
        | some id => c.fetchBook id >>= fun
          | none => pure []
          | some info => pure [withMatched info.book (d.edition c.coversUrl)] := rfl

theorem run_searchIsbn (hd : (Request.isbn isbn).Has c network d) (hwork : d.workId? = some id) :
    (c.searchIsbn isbn).run network = ((c.fetchBook id).run network).map fun found =>
      found.toList.map fun info => withMatched info.book (d.edition c.coversUrl) := by
  rw [searchIsbn_eq, Lookup.run_bind, Request.has_iff.mpr hd]
  simp only [hwork, Lookup.run_bind]
  rcases (c.fetchBook id).run network with e | _ | info <;> rfl

/-- **All that can come of searching for a number.** -/
theorem searchIsbn_cases (c : Config) (network : Network) (isbn : String) :
    c.Unknown network isbn ∧ (c.searchIsbn isbn).run network = .ok [] ∨
      (∃ d id info, (Request.isbn isbn).Has c network d ∧ d.workId? = some id ∧
        (c.fetchBook id).run network = .ok (some info) ∧
        (c.searchIsbn isbn).run network = .ok [withMatched info.book (d.edition c.coversUrl)]) ∨
      ∃ e, c.BreaksIsbn network isbn e ∧ (c.searchIsbn isbn).run network = .error e := by
  rcases (Request.isbn isbn).cases c network with hmissing | ⟨d, hd⟩ | ⟨e, he⟩
  · refine .inl ⟨.number hmissing, ?_⟩
    rw [searchIsbn_eq, Lookup.run_bind, Request.missing_iff.mpr hmissing]
    rfl
  · cases hwork : d.workId? with
    | none =>
      refine .inl ⟨.work hd hwork, ?_⟩
      rw [searchIsbn_eq, Lookup.run_bind, Request.has_iff.mpr hd]
      simp only [hwork]
      rfl
    | some id =>
      rw [run_searchIsbn hd hwork]
      rcases hbook : (c.fetchBook id).run network with e | _ | info
      · exact .inr (.inr ⟨e, .book hd hwork ((c.fetchesBook network id).cause e hbook), rfl⟩)
      · exact .inl ⟨.book hd hwork ((c.fetchesBook network id).missing_iff.mp hbook), rfl⟩
      · exact .inr (.inl ⟨d, id, info, hd, hwork, hbook, rfl⟩)
  · refine .inr (.inr ⟨e, .number he, ?_⟩)
    rw [searchIsbn_eq, Lookup.run_bind, Request.fails_iff.mpr he]

theorem BreaksIsbn.not_unknown (h : c.BreaksIsbn network isbn e) : ¬ c.Unknown network isbn := by
  intro hunknown
  cases h with
  | number fails =>
    cases hunknown with
    | number missing => exact fails.1 missing
    | work known _ => exact known.not_fails fails
    | book known _ _ => exact known.not_fails fails
  | book known belongs breaks =>
    cases hunknown with
    | number missing => exact known.not_missing missing
    | work known' workless =>
      obtain rfl := known.unique known'
      exact nomatch belongs.symm.trans workless
    | book known' belongs' missing =>
      obtain rfl := known.unique known'
      obtain rfl := Option.some.inj (belongs.symm.trans belongs')
      exact breaks.not_missing missing

theorem Unknown.not_found (h : c.Unknown network isbn) (hd : (Request.isbn isbn).Has c network d)
    (hwork : d.workId? = some id) : (c.fetchBook id).run network ≠ .ok (some info) := by
  cases h with
  | number missing => exact absurd missing hd.not_missing
  | work known workless =>
    obtain rfl := known.unique hd
    exact nomatch workless.symm.trans hwork
  | book known belongs missing =>
    obtain rfl := known.unique hd
    obtain rfl := Option.some.inj (belongs.symm.trans hwork)
    intro hbook
    exact nomatch hbook.symm.trans ((c.fetchesBook network _).missing_iff.mpr missing)

theorem BreaksIsbn.not_found (h : c.BreaksIsbn network isbn e)
    (hd : (Request.isbn isbn).Has c network d) (hwork : d.workId? = some id) :
    (c.fetchBook id).run network ≠ .ok (some info) := by
  cases h with
  | number fails => exact absurd fails hd.not_fails
  | book known belongs breaks =>
    obtain rfl := known.unique hd
    obtain rfl := Option.some.inj (belongs.symm.trans hwork)
    obtain ⟨e', he'⟩ := (c.fetchesBook network _).failed_iff.mpr ⟨e, breaks⟩
    intro hbook
    exact nomatch hbook.symm.trans he'

theorem searchesIsbn (c : Config) (network : Network) (isbn : String) :
    c.SearchesIsbn network isbn := by
  rcases c.searchIsbn_cases network isbn with
    ⟨hunknown, hrun⟩ | ⟨d, id, info, hd, hwork, hbook, hrun⟩ | ⟨e, hbreaks, hrun⟩
  · refine ⟨iff_of_true hrun hunknown, ?_, fun _ h => (nomatch hrun.symm.trans h), fun books h hne => ?_⟩
    · exact iff_of_false (fun ⟨_, h⟩ => nomatch hrun.symm.trans h) fun ⟨_, h⟩ => h.not_unknown hunknown
    · exact absurd (Except.ok.inj (hrun.symm.trans h)).symm hne
  · refine ⟨?_, ?_, fun _ h => (nomatch hrun.symm.trans h), fun books h _ => ?_⟩
    · exact iff_of_false (fun h => nomatch hrun.symm.trans h) fun h => h.not_found hd hwork hbook
    · exact iff_of_false (fun ⟨_, h⟩ => nomatch hrun.symm.trans h)
        fun ⟨_, h⟩ => h.not_found hd hwork hbook
    · have hcoherent : c.Coherent network id info := (c.fetchesBook network id).coherent info hbook
      exact ⟨d, id, info, _, hd, hwork, hcoherent, (Except.ok.inj (hrun.symm.trans h)).symm,
        hcoherent.book.withMatched _, matched_withMatched info.book _⟩
  · refine ⟨?_, iff_of_true ⟨e, hrun⟩ ⟨e, hbreaks⟩, fun e' h => ?_, fun _ h => nomatch hrun.symm.trans h⟩
    · exact iff_of_false (fun h => nomatch hrun.symm.trans h) hbreaks.not_unknown
    · exact Except.error.inj (hrun.symm.trans h) ▸ hbreaks

/-- **Books that are looked up are coherent**, whatever a network answers. -/
theorem coherent_lookups (c : Config) (network : Network) :
    (∀ id, c.FetchesBook network id) ∧ ∀ isbn, c.SearchesIsbn network isbn :=
  ⟨c.fetchesBook network, c.searchesIsbn network⟩

/-! ### A network with one book -/

/-- The documents of a work by two authors, of whom one has no record any more. -/
def duneDocuments : List (String × Json) :=
  [ ("https://openlibrary.org/isbn/9780441172719.json",
      .obj [("key", .str "/books/OL2M"), ("works", keysJson ["/works/OL1W"])]),
    ("https://openlibrary.org/works/OL1W.json",
      .obj
        [ ("authors", .arr
            [ .obj [("author", keyJson "/authors/OL9A")],
              .obj [("author", keyJson "/authors/OL1A")] ]),
          ("key", .str "/works/OL1W"),
          ("title", .str "Dune") ]),
    ("https://openlibrary.org/works/OL1W/editions.json?limit=50",
      .obj [("entries", keysJson ["/books/OL1M", "/books/OL2M", "/books/OL3M"])]),
    ("https://openlibrary.org/authors/OL1A.json",
      .obj [("key", .str "/authors/OL1A"), ("name", .str "Frank Herbert")]) ]

/-- The network with these documents and no other, where one work cannot be reached. -/
def duneNetwork : Network := fun address =>
  match duneDocuments.lookup address with
  | some document => .response 200 none document.render
  | none =>
    if address = "https://openlibrary.org/works/OL7W.json" then .unreachable "unreachable"
    else .response 404 none ""

theorem legible_duneDocuments : ∀ m ∈ duneDocuments, Json.Legible 5 m.2 := by
  have hcredit (key : String) : Json.Legible 3 (.obj [("author", keyJson key)]) :=
    .obj (List.pairwise_singleton _ _) (List.forall_mem_singleton.mpr (legible_keyJson 1 key))
  simp only [duneDocuments, List.forall_mem_cons]
  refine ⟨.obj (by decide) ?_, .obj (by decide) ?_, .obj (List.pairwise_singleton _ _) ?_,
    .obj (by decide) ?_, List.forall_mem_nil _⟩ <;> simp only [List.forall_mem_cons]
  · exact ⟨.str _, legible_keysJson 2 _, List.forall_mem_nil _⟩
  · have hcredits : Json.Legible 4 (.arr
        [.obj [("author", keyJson "/authors/OL9A")], .obj [("author", keyJson "/authors/OL1A")]]) :=
      .arr (by simpa using ⟨hcredit _, hcredit _⟩)
    exact ⟨hcredits, .str _, .str _, List.forall_mem_nil _⟩
  · exact ⟨legible_keysJson 2 _, List.forall_mem_nil _⟩
  · exact ⟨.str _, .str _, List.forall_mem_nil _⟩

theorem has_duneNetwork {α : Type} {q : Request α} {j : Json} {a : α} (address : String)
    (haddress : ({} : Config).address q.path q.query = address)
    (hfound : duneDocuments.lookup address = some j)
    (hread : q.decoder Json.nestingLimit (Json.toDocument j) = .ok a) : q.Has {} duneNetwork a := by
  have hlegible : Json.Legible 5 j := legible_duneDocuments _ (Table.mem_of_lookup hfound)
  have hbody : Json.Decoder.ofString q.decoder j.render = .ok a := by
    rw [Json.Decoder.ofString, hlegible.ofString_render]
    simp only [hread, Bool.false_eq_true, if_false]
  rw [Request.Has, Request.reply, haddress, duneNetwork, hfound]
  simp only [Reply.read, hbody]
  rfl

theorem missing_duneNetwork {α : Type} {q : Request α} (address : String)
    (haddress : ({} : Config).address q.path q.query = address)
    (hlost : duneDocuments.lookup address = none)
    (hreached : address ≠ "https://openlibrary.org/works/OL7W.json") : q.Missing {} duneNetwork := by
  rw [Request.Missing, Request.reply, haddress, duneNetwork, hlost]
  exact ⟨none, "", if_neg hreached⟩

/-- The record of the edition with the number. -/
def paperback : EditionDocument := { key := "/books/OL2M", works := ["/works/OL1W"] }

theorem has_paperback : (Request.isbn "978-0-441-17271-9").Has {} duneNetwork paperback :=
  has_duneNetwork "https://openlibrary.org/isbn/9780441172719.json" (by decide +kernel)
    (by rfl) (by rfl)

/-- The record of the work. -/
def dune : WorkDocument :=
  { key := "/works/OL1W", title := "Dune", authors := ["/authors/OL9A", "/authors/OL1A"] }

theorem has_dune : (Request.work "OL1W").Has {} duneNetwork dune :=
  has_duneNetwork "https://openlibrary.org/works/OL1W.json" (by decide +kernel)
    (by rfl) (by rfl)

/-- All editions of the work. -/
def duneEditions : Listing EditionDocument :=
  { entries := [{ key := "/books/OL1M" }, { key := "/books/OL2M" }, { key := "/books/OL3M" }] }

theorem has_duneEditions : (Request.editions "OL1W").Has {} duneNetwork duneEditions :=
  has_duneNetwork "https://openlibrary.org/works/OL1W/editions.json?limit=50" (by decide +kernel)
    (by rfl) (by rfl)

/-- The record of the author who is left. -/
def herbert : AuthorDocument := { key := "/authors/OL1A", name := some "Frank Herbert" }

theorem credited_dune : Credited {} duneNetwork dune.authorIds
    [(herbert.author ({} : Config).coversUrl 0).metadata] := by
  have hids : dune.authorIds = ["OL9A", "OL1A"] := by decide
  rw [hids]
  refine .missing ?_ (.found ?_ .nil)
  · exact missing_duneNetwork "https://openlibrary.org/authors/OL9A.json" (by decide +kernel)
      (by rfl) (by decide +kernel)
  · exact has_duneNetwork "https://openlibrary.org/authors/OL1A.json" (by decide +kernel)
      (by rfl) (by rfl)

theorem fails_lost :
    (Request.work "OL7W").Fails {} duneNetwork (.transport "unreachable") := by
  have haddress : ({} : Config).address (Request.work "OL7W").path (Request.work "OL7W").query =
      "https://openlibrary.org/works/OL7W.json" := by decide +kernel
  have hreply : duneNetwork "https://openlibrary.org/works/OL7W.json" = .unreachable "unreachable" := rfl
  rw [Request.Fails, Request.Missing, Request.reply, haddress, hreply]
  refine ⟨?_, rfl⟩
  rintro ⟨_, _, h⟩
  cases h

/-- The edition of the number comes first, then the others; the first author with a record is the author.
A work without a record is no book, and one that cannot be reached fails. -/
theorem coherent_dune :
    (∃ book, (({} : Config).searchIsbn "978-0-441-17271-9").run duneNetwork = .ok [book] ∧
      book.editions.map Edition.foreignId = ["OL2M", "OL1M", "OL3M"] ∧
      book.authorName = some "Frank Herbert") ∧
    (({} : Config).fetchBook "OL8W").run duneNetwork = .ok none ∧
    ∃ e, (({} : Config).fetchBook "OL7W").run duneNetwork = .error e := by
  obtain ⟨hbooks, -⟩ := coherent_lookups {} duneNetwork
  refine ⟨?_, (hbooks "OL8W").missing_iff.mpr ?_, (hbooks "OL7W").failed_iff.mpr ⟨_, .work fails_lost⟩⟩
  · have hfetch := run_fetchBook has_dune (.inr has_duneEditions)
    rw [credited_dune.run_eq] at hfetch
    have hwork : paperback.workId? = some "OL1W" := by decide
    have hsearch := run_searchIsbn has_paperback hwork
    rw [hfetch] at hsearch
    exact ⟨_, hsearch, rfl, rfl⟩
  · exact missing_duneNetwork "https://openlibrary.org/works/OL8W.json" (by decide +kernel)
      (by rfl) (by decide +kernel)

end Config
end OpenLibrary
end Biblio
