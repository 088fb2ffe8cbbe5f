import Biblio.OpenLibrary.Source
import Biblio.Proofs.Moment.Order
import Biblio.Proofs.OpenLibrary.Lookup

/-!
# Reading the list of changes

The list of changes has the newest first and is read page by page.  Reading ends with the first page that
goes back beyond the moment that is asked about, and after ten pages in any case.

* `Feed` is a list of changes that are in order, and `Config.Serves` says that a network has its pages, as
  far as it answers.
* `Feed.older_of_drop` — behind an older change there are only older ones, so that
  `changedSince_pages_of_older` loses nothing.
* `Config.Walk` says which pages are asked for, and with which result.  `exists_walk` is the induction on
  the pages that may still be read; a page fails, ends the walk or is followed by another.
* `readsChanges_of_serves` is the result for all changes since a moment.
-/

set_option autoImplicit false

namespace Biblio
namespace OpenLibrary

/-! ## Changes -/

namespace ChangeDocument

variable {since : Moment} {e : ChangeDocument}

/-- A change from before a moment. -/
def OlderThan (since : Moment) (e : ChangeDocument) : Prop := ∃ m, e.moment? = some m ∧ m < since

/-- A change from that moment on. -/
def NotBefore (since : Moment) (e : ChangeDocument) : Prop := ∃ m, e.moment? = some m ∧ since ≤ m

theorem OlderThan.not_notBefore (h : e.OlderThan since) : ¬ e.NotBefore since := by
  rintro ⟨n, hn, hle⟩
  obtain ⟨m, hm, hlt⟩ := h
  obtain rfl := Option.some.inj (hm.symm.trans hn)
  exact absurd hlt (not_lt.mpr hle)

/-- The authors that a change names are those under the mark. -/
theorem mem_authorIds {id : String} :
    id ∈ e.authorIds ↔ ∃ key ∈ e.changes, authorMark <+: key.toList ∧ keyId key = id := by
  simp only [authorIds, List.mem_map, List.mem_filter, List.isPrefixOf_iff_prefix, and_assoc]

end ChangeDocument

variable {since : Moment} {es : List ChangeDocument}

theorem reachesBefore_iff : reachesBefore since es = true ↔ ∃ e ∈ es, e.OlderThan since := by
  rw [reachesBefore, List.any_eq_true]
  refine exists_congr fun e => and_congr_right fun _ => ?_
  rw [ChangeDocument.OlderThan]
  cases e.moment? with
  | none => simp
  | some m => simp [Moment.lt_iff_precedes]

theorem mem_changedSince {id : String} : id ∈ changedSince since es ↔
    ∃ e ∈ es, e.NotBefore since ∧ id ∈ e.authorIds := by
  have hkept (e : ChangeDocument) : (e.moment?.map fun m => !m.precedes since).getD false = true ↔
      e.NotBefore since := by
    rw [ChangeDocument.NotBefore]
    cases e.moment? with
    | none => simp
    | some m => simp [← not_lt, Moment.lt_iff_precedes]
  simp only [changedSince, List.mem_flatMap, List.mem_filter, hkept, and_assoc]

theorem changedSince_append (es rest : List ChangeDocument) :
    changedSince since (es ++ rest) = changedSince since es ++ changedSince since rest := by
  rw [changedSince, List.filter_append, List.flatMap_append]
  rfl

theorem changedSince_of_older (h : ∀ e ∈ es, e.OlderThan since) : changedSince since es = [] := by
  refine List.eq_nil_iff_forall_not_mem.mpr fun id hid => ?_
  obtain ⟨e, he, hnot, -⟩ := mem_changedSince.mp hid
  exact (h e he).not_notBefore hnot

/-! ## Feeds -/

/-- A list of changes, the newest first, all of them with moments that can be read. -/
structure Feed where
  entries : List ChangeDocument
  timed : ∀ e ∈ entries, ∃ m, e.moment? = some m
  newestFirst : entries.Pairwise fun a b =>
    ∀ m n, a.moment? = some m → b.moment? = some n → n ≤ m

namespace Feed

variable {f : Feed} {k n : Nat}

/-- The page with a number; beyond the end, pages are empty. -/
def page (f : Feed) (k : Nat) : List ChangeDocument :=
  (f.entries.drop (k * changePage)).take changePage

/-- Some pages in a row. -/
def pages (f : Feed) (k n : Nat) : List ChangeDocument :=
  (f.entries.drop (k * changePage)).take (n * changePage)

theorem pages_zero (f : Feed) (k : Nat) : f.pages k 0 = [] := by
  rw [pages, Nat.zero_mul, List.take_zero]

theorem pages_succ (f : Feed) (k n : Nat) : f.pages k (n + 1) = f.page k ++ f.pages (k + 1) n := by
  rw [pages, Nat.succ_mul, Nat.add_comm, List.take_add, List.drop_drop, ← Nat.succ_mul]
  rfl

theorem pages_of_page_eq_nil (h : f.page k = []) (n : Nat) : f.pages k n = [] := by
  have hend : f.entries.drop (k * changePage) = [] :=
    (List.take_eq_nil_iff.mp h).resolve_left (by decide)
  rw [pages, hend, List.take_nil]

theorem mem_pages {e : ChangeDocument} : e ∈ f.pages k n ↔ ∃ j < n, e ∈ f.page (k + j) := by
  induction n generalizing k with
  | zero => simp [pages_zero]
  | succ n ih =>
    rw [pages_succ, List.mem_append, ih]
    constructor
    · rintro (he | ⟨j, hj, he⟩)
      · exact ⟨0, Nat.succ_pos n, he⟩
      · refine ⟨j + 1, Nat.succ_lt_succ hj, ?_⟩
        rwa [← Nat.add_assoc, Nat.add_right_comm]
    · rintro ⟨_ | j, hj, he⟩
      · exact .inl he
      · refine .inr ⟨j, Nat.lt_of_succ_lt_succ hj, ?_⟩
        rwa [Nat.add_right_comm, Nat.add_assoc]

/-- **Behind an older change there are only older ones.** -/
theorem older_of_drop (h : ∃ e ∈ f.page k, e.OlderThan since) :
    ∀ e ∈ f.entries.drop ((k + 1) * changePage), e.OlderThan since := by
  obtain ⟨a, ha, m, hm, hlt⟩ := h
  intro e he
  have hsplit : f.entries.drop (k * changePage) =
      f.page k ++ f.entries.drop ((k + 1) * changePage) := by
    rw [page, Nat.succ_mul, ← List.drop_drop, List.take_append_drop]
  have hordered := f.newestFirst.sublist (List.drop_sublist (k * changePage) f.entries)
  rw [hsplit] at hordered
  obtain ⟨n, hn⟩ := f.timed e (List.mem_of_mem_drop he)
  have hle : n ≤ m := (List.pairwise_append.mp hordered).2.2 a ha e he m n hm hn
  exact ⟨n, hn, hle.trans_lt hlt⟩

/-- **Nothing is lost** behind a page that is empty or goes back beyond the moment. -/
theorem changedSince_pages_of_older (h : f.page k = [] ∨ ∃ e ∈ f.page k, e.OlderThan since)
    (n : Nat) : changedSince since (f.pages k (n + 1)) = changedSince since (f.page k) := by
  rcases h with hempty | holder
  · rw [pages_of_page_eq_nil hempty, hempty]
  · have hrest : changedSince since (f.pages (k + 1) n) = [] :=
      changedSince_of_older fun e he => older_of_drop holder e (List.mem_of_mem_take he)
    rw [pages_succ, changedSince_append, hrest, List.append_nil]

end Feed

/-! ## One page after the other -/

namespace Config

variable {c : Config} {network : Network} {f : Feed} {k n m : Nat} {e : SourceError}

/-- The address of a page of the list of changes. -/
def changesAddress (c : Config) (k : Nat) : String :=
  c.address "/recentchanges.json"
    [("limit", Decimal.text changePage), ("offset", Decimal.text (k * changePage))]

/-- What the network serves are the pages of a feed; it need not serve all of them, and which it serves
beyond those that may be read does not matter. -/
def Serves (c : Config) (network : Network) (f : Feed) : Prop :=
  ∀ k < greatestChangePages, ∀ es, (c.changes k).run network = .ok es → es = f.page k

/-- A page after which reading goes on. -/
def Continues (c : Config) (network : Network) (since : Moment) (k : Nat) : Prop :=
  ∃ es, (c.changes k).run network = .ok es ∧ es ≠ [] ∧ ∀ e ∈ es, ¬ e.OlderThan since

theorem changedFrom_of_error (h : (c.changes k).run network = .error e) :
    (c.changedFrom since k (n + 1)).run network = .error e ∧
      (c.changedFrom since k (n + 1)).sent network = [c.changesAddress k] := by
  rw [changedFrom, Lookup.run_bind, Lookup.sent_bind, h]
  exact ⟨rfl, rfl⟩

theorem changedFrom_of_last (h : (c.changes k).run network = .ok es)
    (hlast : es = [] ∨ ∃ e ∈ es, e.OlderThan since) :
    (c.changedFrom since k (n + 1)).run network = .ok (changedSince since es) ∧
      (c.changedFrom since k (n + 1)).sent network = [c.changesAddress k] := by
  rw [changedFrom, Lookup.run_bind, Lookup.sent_bind, h]
  cases es with
  | nil => exact ⟨rfl, rfl⟩
  | cons first rest =>
    have hbefore : reachesBefore since (first :: rest) = true :=
      reachesBefore_iff.mpr (hlast.resolve_left (List.cons_ne_nil first rest))
    simp only [List.isEmpty_cons, Bool.false_eq_true, if_false, hbefore, if_true]
    exact ⟨rfl, rfl⟩

theorem changedFrom_of_continues (h : (c.changes k).run network = .ok es) (hne : es ≠ [])
    (hnone : ∀ e ∈ es, ¬ e.OlderThan since) :
    (c.changedFrom since k (n + 1)).run network =
        ((c.changedFrom since (k + 1) n).run network).map (changedSince since es ++ ·) ∧
      (c.changedFrom since k (n + 1)).sent network =
        c.changesAddress k :: (c.changedFrom since (k + 1) n).sent network := by
  have hempty : es.isEmpty = false := by
    rw [← Bool.not_eq_true, List.isEmpty_iff]
    exact hne
  have hbefore : reachesBefore since es = false := by
    rw [← Bool.not_eq_true, reachesBefore_iff]
    rintro ⟨e, he, holder⟩
    exact hnone e he holder
  rw [changedFrom, Lookup.run_bind, Lookup.sent_bind, h]
  simp only [hempty, hbefore, Bool.false_eq_true, if_false, Lookup.run_bind, Lookup.sent_bind]
  cases (c.changedFrom since (k + 1) n).run network with
  | error e => exact ⟨rfl, congrArg (c.changesAddress k :: ·) (List.append_nil _)⟩
  | ok ids => exact ⟨rfl, congrArg (c.changesAddress k :: ·) (List.append_nil _)⟩

/-! ### Walks -/

/-- Reading up to some pages from one on, of which some are asked for. -/
structure Walk (c : Config) (network : Network) (f : Feed) (since : Moment) (k n asked : Nat) :
    Prop where
  sent : (c.changedFrom since k n).sent network = (List.range' k asked).map c.changesAddress
  le : asked ≤ n
  continues : ∀ j, j + 1 < asked → c.Continues network since (k + j)
  ends : asked = n ∨ ∃ j, asked = j + 1 ∧ ¬ c.Continues network since (k + j)
  complete : (∀ j < asked, ∃ es, (c.changes (k + j)).run network = .ok es) →
    (c.changedFrom since k n).run network = .ok (changedSince since (f.pages k n))
  failed : ∀ j < asked, ∀ e, (c.changes (k + j)).run network = .error e →
    (c.changedFrom since k n).run network = .error e

theorem walk_zero (c : Config) (network : Network) (f : Feed) (since : Moment) (k : Nat) :
    c.Walk network f since k 0 0 where
  sent := rfl
  le := Nat.le_refl 0
  continues _ h := absurd h (Nat.not_lt_zero _)
  ends := .inl rfl
  complete _ := by
    rw [Feed.pages_zero]
    rfl
  failed _ h := absurd h (Nat.not_lt_zero _)

theorem walk_of_error (h : (c.changes k).run network = .error e) :
    c.Walk network f since k (n + 1) 1 where
  sent := (changedFrom_of_error h).2
  le := Nat.succ_pos n
  continues _ hj := absurd hj (by omega)
  ends := by
    refine .inr ⟨0, rfl, ?_⟩
    rintro ⟨es, hes, -⟩
    cases h.symm.trans hes
  complete hserved := by
    obtain ⟨es, hes⟩ := hserved 0 Nat.one_pos
    cases h.symm.trans hes
  failed j hj e' he' := by
    obtain rfl : j = 0 := Nat.lt_one_iff.mp hj
    obtain rfl := Except.error.inj (h.symm.trans he')
    exact (changedFrom_of_error h).1

theorem walk_of_last (h : (c.changes k).run network = .ok (f.page k))
    (hlast : f.page k = [] ∨ ∃ e ∈ f.page k, e.OlderThan since) :
    c.Walk network f since k (n + 1) 1 where
  sent := (changedFrom_of_last h hlast).2
  le := Nat.succ_pos n
  continues _ hj := absurd hj (by omega)
  ends := by
    refine .inr ⟨0, rfl, ?_⟩
    rintro ⟨es, hes, hne, hnone⟩
    obtain rfl := Except.ok.inj (h.symm.trans hes)
    rcases hlast with hempty | ⟨e, he, holder⟩
    · exact hne hempty
    · exact hnone e he holder
  complete _ := by rw [(changedFrom_of_last h hlast).1, Feed.changedSince_pages_of_older hlast]
  failed j hj e he := by
    obtain rfl : j = 0 := Nat.lt_one_iff.mp hj
    cases h.symm.trans he

/-- **One more page** before a walk. -/
theorem Walk.of_continues (hwalk : c.Walk network f since (k + 1) n m)
    (h : (c.changes k).run network = .ok (f.page k)) (hne : f.page k ≠ [])
    (hnone : ∀ e ∈ f.page k, ¬ e.OlderThan since) : c.Walk network f since k (n + 1) (m + 1) := by
  obtain ⟨hrun, hsent⟩ := changedFrom_of_continues (n := n) h hne hnone
  have hshift (j : Nat) : k + 1 + j = k + (j + 1) := by omega
  refine ⟨?_, Nat.succ_le_succ hwalk.le, ?_, ?_, fun hserved => ?_, ?_⟩
  · rw [hsent, hwalk.sent]
    rfl
  · rintro (_ | j) hj
    · exact ⟨_, h, hne, hnone⟩
    · exact hshift j ▸ hwalk.continues j (Nat.lt_of_succ_lt_succ hj)
  · rcases hwalk.ends with rfl | ⟨j, rfl, hstop⟩
    · exact .inl rfl
    · exact .inr ⟨j + 1, rfl, hshift j ▸ hstop⟩
  · have hrest := hwalk.complete fun j hj => hshift j ▸ hserved (j + 1) (Nat.succ_lt_succ hj)
    rw [hrun, hrest, Feed.pages_succ, changedSince_append]
    rfl
  · rintro (_ | j) hj e he
    · cases h.symm.trans he
    · have hrest := hwalk.failed j (Nat.lt_of_succ_lt_succ hj) e (hshift j ▸ he)
      rw [hrun, hrest]
      rfl

/-- **Every reading is a walk.**  The induction is on the pages that may still be read. -/
theorem exists_walk (h : c.Serves network f) (since : Moment) (n k : Nat)
    (hbound : k + n ≤ greatestChangePages) : ∃ asked, c.Walk network f since k n asked := by
  induction n generalizing k with
  | zero => exact ⟨0, c.walk_zero network f since k⟩
  | succ n ih =>
    cases hpage : (c.changes k).run network with
    | error e => exact ⟨1, walk_of_error hpage⟩
    | ok es =>
      obtain rfl := h k (by omega) es hpage
      by_cases hlast : f.page k = [] ∨ ∃ e ∈ f.page k, e.OlderThan since
      · exact ⟨1, walk_of_last hpage hlast⟩
      · obtain ⟨hne, hnone⟩ := not_or.mp hlast
        obtain ⟨asked, hwalk⟩ := ih (k + 1) (by omega)
        exact ⟨asked + 1, hwalk.of_continues hpage hne fun e he holder => hnone ⟨e, he, holder⟩⟩

/-! ## All changes since a moment -/

/-- What is promised of reading the authors that have changed since a moment, when some pages of a feed
are asked for. -/
structure ReadsChanges (c : Config) (network : Network) (f : Feed) (since : Moment) (asked : Nat) :
    Prop where
  /-- The first pages are asked for, one after the other, and nothing else. -/
  sent : (c.changedAuthors since).sent network = (List.range asked).map c.changesAddress
  bounded : asked ≤ greatestChangePages
  /-- Every page but the last of them has come, is not empty and has no older change. -/
  continues : ∀ k, k + 1 < asked → c.Continues network since k
  /-- The last one is the last that may be read, or it does not allow to go on. -/
  ends : asked = greatestChangePages ∨ ∃ k, asked = k + 1 ∧ ¬ c.Continues network since k
  /-- So no page is asked for after the first with an older change. -/
  stops : ∀ k < asked, (∃ e ∈ f.page k, e.OlderThan since) → asked = k + 1
  /-- If all of them come, the result are the authors that changes which are not older name on the pages
  that may be read, whether these were asked for or not, and each of them once. -/
  complete : (∀ k < asked, ∃ es, (c.changes k).run network = .ok es) →
    ∃ ids, (c.changedAuthors since).run network = .ok ids ∧ ids.Nodup ∧
      ∀ id, id ∈ ids ↔ ∃ k < greatestChangePages, ∃ e ∈ f.page k, e.NotBefore since ∧
        ∃ key ∈ e.changes, ChangeDocument.authorMark <+: key.toList ∧ keyId key = id
  /-- If one of them fails, everything fails with its error. -/
  failed : ∀ k < asked, ∀ e, (c.changes k).run network = .error e →
    (c.changedAuthors since).run network = .error e

/-- **The early end loses nothing**: whatever feed a network serves, all authors that have changed since
a moment are found within the pages that may be read, and no page is asked for in vain. -/
theorem readsChanges_of_serves (h : c.Serves network f) (since : Moment) :
    ∃ asked, c.ReadsChanges network f since asked := by
  obtain ⟨asked, hwalk⟩ := exists_walk h since greatestChangePages 0 (Nat.zero_add _).le
  have hcontinues (k : Nat) (hk : k + 1 < asked) : c.Continues network since k :=
    Nat.zero_add k ▸ hwalk.continues k hk
  refine ⟨asked, ?_, hwalk.le, hcontinues, ?_, ?_, fun hserved => ?_, ?_⟩
  · rw [changedAuthors, Lookup.sent_bind, hwalk.sent, ← List.range_eq_range']
    cases (c.changedFrom since 0 greatestChangePages).run network <;> exact List.append_nil _
  · simpa only [Nat.zero_add] using hwalk.ends
  · rintro k hk ⟨e, he, holder⟩
    by_contra hne
    obtain ⟨es, hes, -, hnone⟩ := hcontinues k (by omega)
    obtain rfl := h k (hk.trans_le hwalk.le) es hes
    exact hnone e he holder
  · have hrun := hwalk.complete fun j hj => (Nat.zero_add j).symm ▸ hserved j hj
    refine ⟨Text.sortedSet (changedSince since (f.pages 0 greatestChangePages)), ?_,
      Text.nodup_sortedSet _, fun id => ?_⟩
    · rw [changedAuthors, Lookup.run_bind, hrun]
      rfl
    · rw [Text.mem_sortedSet, mem_changedSince]
      simp only [Feed.mem_pages, Nat.zero_add, ChangeDocument.mem_authorIds]
      constructor
      · rintro ⟨e, ⟨k, hk, he⟩, hnot, hid⟩
        exact ⟨k, hk, e, he, hnot, hid⟩
      · rintro ⟨k, hk, e, he, hnot, hid⟩
        exact ⟨e, ⟨k, hk, he⟩, hnot, hid⟩
  · intro k hk e he
    rw [changedAuthors, Lookup.run_bind, hwalk.failed k hk e ((Nat.zero_add k).symm ▸ he)]

/-- A change as it stands in the list of changes. -/
def changeJson (e : ChangeDocument) : Json :=
  .obj [("changes", .arr (e.changes.map fun key => .obj [("key", .str key)])),
    ("timestamp", .str e.timestamp)]

theorem legible_changes (es : List ChangeDocument) :
    Json.Legible 4 (.arr (es.map changeJson)) := by
  refine .arr fun j hj => ?_
  obtain ⟨e, -, rfl⟩ := List.mem_map.mp hj
  have hordered : Text.precedes "changes" "timestamp" = true := by decide
  refine .obj (List.pairwise_pair.mpr hordered) fun m hm => ?_
  rcases List.mem_cons.mp hm with rfl | hm
  · exact legible_keysJson 0 e.changes
  · rw [List.mem_singleton.mp hm]
    exact .str e.timestamp

/-- A change of a day. -/
def laterChange : ChangeDocument := ⟨"2026-10-18T12:00:00.5", ["/authors/OL1A", "/works/OL9W"]⟩

/-- A change of the day before. -/
def earlierChange : ChangeDocument := ⟨"2026-10-17T23:00:00", ["/authors/OL3A"]⟩

theorem moment_laterChange : laterChange.moment? = some ⟨1792324800, 500000000⟩ := by rfl

theorem moment_earlierChange : earlierChange.moment? = some ⟨1792278000, 0⟩ := by rfl

/-- Both changes. -/
def shortFeed : Feed where
  entries := [laterChange, earlierChange]
  timed := List.forall_mem_cons.mpr
    ⟨⟨_, moment_laterChange⟩, List.forall_mem_singleton.mpr ⟨_, moment_earlierChange⟩⟩
  newestFirst := by
    refine List.pairwise_pair.mpr fun m n hm hn => ?_
    obtain rfl := Option.some.inj (moment_laterChange.symm.trans hm)
    obtain rfl := Option.some.inj (moment_earlierChange.symm.trans hn)
    decide

/-- A network with the first page of the list, where nobody answers any other request. -/
def shortNetwork : Network := fun address =>
  if address = ({} : Config).changesAddress 0 then
    .response 200 none (Json.arr (shortFeed.entries.map changeJson)).render
  else .unreachable "unreachable"

theorem run_changes_zero : (({} : Config).changes 0).run shortNetwork = .ok shortFeed.entries := by
  have hread : Json.Decoder.ofString (Json.Decoder.list ChangeDocument.decoder)
      (Json.arr (shortFeed.entries.map changeJson)).render = .ok shortFeed.entries := by
    rw [Json.Decoder.ofString, (legible_changes _).ofString_render]
    rfl
  show (shortNetwork (({} : Config).changesAddress 0)).read _ _ = _
  rw [shortNetwork, if_pos rfl, Reply.read, hread]
  rfl

theorem run_changes_succ (k : Nat) (hk : k + 1 < greatestChangePages) :
    (({} : Config).changes (k + 1)).run shortNetwork = .error (.transport "unreachable") := by
  have hother : ∀ k < greatestChangePages,
      k = 0 ∨ ({} : Config).changesAddress k ≠ ({} : Config).changesAddress 0 := by decide +kernel
  have hne := (hother (k + 1) hk).resolve_left (Nat.succ_ne_zero k)
  show (shortNetwork (({} : Config).changesAddress (k + 1))).read _ _ = _
  rw [shortNetwork, if_neg hne, Reply.read]

theorem serves_shortNetwork : ({} : Config).Serves shortNetwork shortFeed := by
  rintro (_ | k) hk es hes
  · exact Except.ok.inj (hes.symm.trans run_changes_zero)
  · cases (run_changes_succ k hk).symm.trans hes

/-- The midnight between the changes. -/
def midnight : Moment := ⟨1792281600, 0⟩

/-- The midnight before. -/
def dayBefore : Moment := ⟨1792195200, 0⟩

theorem notBefore_midnight_iff (e : ChangeDocument) (he : e ∈ shortFeed.entries) :
    e.NotBefore midnight ↔ e = laterChange := by
  rcases List.mem_cons.mp he with rfl | he
  · exact iff_of_true ⟨_, moment_laterChange, by decide⟩ rfl
  · obtain rfl := List.mem_singleton.mp he
    have holder : earlierChange.OlderThan midnight := ⟨_, moment_earlierChange, by decide⟩
    have hne : earlierChange.timestamp ≠ laterChange.timestamp := by decide
    exact iff_of_false holder.not_notBefore fun h => hne (congrArg ChangeDocument.timestamp h)

theorem continues_dayBefore : ({} : Config).Continues shortNetwork dayBefore 0 := by
  refine ⟨_, run_changes_zero, List.cons_ne_nil _ _, fun e he holder => ?_⟩
  refine holder.not_notBefore ?_
  rcases List.mem_cons.mp he with rfl | he
  · exact ⟨_, moment_laterChange, by decide⟩
  · obtain rfl := List.mem_singleton.mp he
    exact ⟨_, moment_earlierChange, by decide⟩

/-- Since midnight one author was changed, and one page says so; for the day before, the next page is
asked for as well, and as nobody answers there is no result. -/
theorem readsChanges_shortNetwork :
    ({} : Config).Serves shortNetwork shortFeed ∧
      (({} : Config).changedAuthors midnight).sent shortNetwork = [({} : Config).changesAddress 0] ∧
      (∃ ids, (({} : Config).changedAuthors midnight).run shortNetwork = .ok ids ∧ ids.Nodup ∧
        ∀ id, id ∈ ids ↔ id = "OL1A") ∧
      (({} : Config).changedAuthors dayBefore).run shortNetwork =
        .error (.transport "unreachable") := by
  obtain ⟨asked, hreads⟩ := readsChanges_of_serves serves_shortNetwork midnight
  obtain ⟨asked', hreads'⟩ := readsChanges_of_serves serves_shortNetwork dayBefore
  have hpages : shortFeed.pages 0 greatestChangePages = shortFeed.entries := by rfl
  have hmost : greatestChangePages = 10 := rfl
  have hpositive : 0 < asked := by
    rcases hreads.ends with hlast | ⟨k, hk, -⟩ <;> omega
  obtain rfl : asked = 1 :=
    hreads.stops 0 hpositive
      ⟨earlierChange, List.mem_cons_of_mem _ List.mem_cons_self, _, moment_earlierChange, by decide⟩
  obtain ⟨ids, hrun, hnodup, hids⟩ := hreads.complete fun k hk => by
    obtain rfl := Nat.lt_one_iff.mp hk
    exact ⟨_, run_changes_zero⟩
  refine ⟨serves_shortNetwork, hreads.sent, ⟨ids, hrun, hnodup, fun id => ?_⟩, ?_⟩
  · rw [hids]
    constructor
    · rintro ⟨k, hk, e, he, hnot, key, hkey, hmark, rfl⟩
      have hmem : e ∈ shortFeed.entries :=
        hpages ▸ Feed.mem_pages.mpr ⟨k, hk, (Nat.zero_add k).symm ▸ he⟩
      obtain rfl := (notBefore_midnight_iff e hmem).mp hnot
      rcases List.mem_cons.mp hkey with rfl | hkey
      · decide
      · obtain rfl := List.mem_singleton.mp hkey
        exact absurd hmark (by decide)
    · rintro rfl
      refine ⟨0, by decide, laterChange, List.mem_cons_self, ⟨_, moment_laterChange, by decide⟩, ?_⟩
      exact ⟨"/authors/OL1A", List.mem_cons_self, by decide, by decide⟩
  · have hmore : 1 < asked' := by
      rcases hreads'.ends with hlast | ⟨k, hk, hstop⟩
      · omega
      · have hk0 : k ≠ 0 := by
          rintro rfl
          exact hstop continues_dayBefore
        omega
    exact hreads'.failed 1 hmore _ (run_changes_succ 0 (by decide))

end Config
end OpenLibrary
end Biblio
