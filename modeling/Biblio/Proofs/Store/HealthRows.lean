import Biblio.Proofs.Store.Catalogue
import Biblio.Proofs.Store.Health

/-!
# Health records that are read back

A health record is kept in a row of eight columns, which are written and read by rules of their own.  A
count goes into a column as a signed number, and a moment as a text that the reader of moments does not
always take.

* `Health.kept` is what is left of a record, and `HealthRow.read_write` says so.  `Health.kept_eq_iff` —
  nothing is lost exactly if the counts are below 2 ^ 63 and the years have four digits.
* `putRow_eq` — a row goes to its place among the others, which stay as they are.
* `Store.Tidy` is what is known of the table, by `Tidy.answer` after a request and by `tidy_after`
  after all of them.
* `Store.stored_of_representable` puts this together; `not_readBack_endOfTime` is a suspension that is
  lost because it never ends.
-/

set_option autoImplicit false

namespace Biblio

/-! ## Columns -/

/-- A count that a column cannot hold is read back as none. -/
theorem toNat_signedCount_eq {n : Nat} (h : n ≤ greatestQueries) :
    (signedCount n).toNat = if n < 2 ^ 63 then n else 0 := by
  split
  · next hlt => exact toNat_signedCount hlt
  · next hge =>
    rw [greatestQueries] at h
    rw [signedCount, if_neg (by omega)]
    omega

/-- What is left in a column is the moment if its year has four digits. -/
theorem readMoment_writeMoment_eq {o : Option Moment} (h : ∀ m ∈ o, m.Counted) :
    readMoment (writeMoment o) = o.filter fun m => m.FourDigits := by
  cases o with
  | none => rfl
  | some m =>
    rw [(h m rfl).readMoment_writeMoment, Option.filter_some]
    simp only [decide_eq_true_eq]

theorem filter_fourDigits_eq_iff {o : Option Moment} :
    (o.filter fun m => m.FourDigits) = o ↔ ∀ m ∈ o, m.FourDigits := by
  cases o <;> simp [Option.filter_some]

/-! ## Rows -/

namespace Health

/-- Something is true of all moments of a record. -/
structure EveryMoment (p : Moment → Prop) (h : Health) : Prop where
  lastSuccess : ∀ m ∈ h.lastSuccess, p m
  firstFailure : ∀ m ∈ h.firstFailure, p m
  lastFailure : ∀ m ∈ h.lastFailure, p m
  suspendedTill : ∀ m ∈ h.suspendedTill, p m

/-- What a record can be made of: counts of 64 bits, a level of 32 bits, and moments that are counted. -/
structure Representable (h : Health) : Prop where
  successes_le : h.successes ≤ greatestQueries
  failures_le : h.failures ≤ greatestQueries
  level_le : h.level ≤ greatestLevel
  moments : h.EveryMoment Moment.Counted

/-- What is left of a record in a row. -/
def kept (h : Health) : Health where
  providerId := h.providerId
  lastSuccess := h.lastSuccess.filter fun m => m.FourDigits
  successes := if h.successes < 2 ^ 63 then h.successes else 0
  failures := if h.failures < 2 ^ 63 then h.failures else 0
  level := h.level
  firstFailure := h.firstFailure.filter fun m => m.FourDigits
  lastFailure := h.lastFailure.filter fun m => m.FourDigits
  suspendedTill := h.suspendedTill.filter fun m => m.FourDigits

/-- A record of which a row keeps everything. -/
structure Durable (h : Health) : Prop where
  successes_lt : h.successes < 2 ^ 63
  failures_lt : h.failures < 2 ^ 63
  moments : h.EveryMoment Moment.FourDigits

/-- **Nothing is lost** exactly of a record with counts below 2 ^ 63 and years of four digits. -/
theorem kept_eq_iff {h : Health} : h.kept = h ↔ h.Durable := by
  have hcount (n : Nat) : (if n < 2 ^ 63 then n else 0) = n ↔ n < 2 ^ 63 := by
    split <;> omega
  constructor
  · intro heq
    exact
      { successes_lt := (hcount _).mp (congrArg successes heq)
        failures_lt := (hcount _).mp (congrArg failures heq)
        moments :=
          { lastSuccess := filter_fourDigits_eq_iff.mp (congrArg lastSuccess heq)
            firstFailure := filter_fourDigits_eq_iff.mp (congrArg firstFailure heq)
            lastFailure := filter_fourDigits_eq_iff.mp (congrArg lastFailure heq)
            suspendedTill := filter_fourDigits_eq_iff.mp (congrArg suspendedTill heq) } }
  · rintro ⟨hsuccesses, hfailures, hlast, hfirst, hfailure, htill⟩
    rw [kept, filter_fourDigits_eq_iff.mpr hlast, filter_fourDigits_eq_iff.mpr hfirst,
      filter_fourDigits_eq_iff.mpr hfailure, filter_fourDigits_eq_iff.mpr htill, if_pos hsuccesses,
      if_pos hfailures]

end Health

/-- **What a row keeps of a record.** -/
theorem HealthRow.read_write {h : Health} (hr : h.Representable) : (HealthRow.write h).read = h.kept := by
  obtain ⟨hsuccesses, hfailures, -, hlast, hfirst, hfailure, htill⟩ := hr
  simp only [HealthRow.write, HealthRow.read, Health.kept, toNat_signedCount_eq hsuccesses,
    toNat_signedCount_eq hfailures, readMoment_writeMoment_eq hlast, readMoment_writeMoment_eq hfirst,
    readMoment_writeMoment_eq hfailure, readMoment_writeMoment_eq htill]

/-! ## The table -/

namespace Store

/-- A row goes to its place in a table in ascending order, and the others stay where they are. -/
theorem putRow_eq (row : HealthRow) {rows : List HealthRow}
    (h : rows.Pairwise fun r t => r.providerId < t.providerId) :
    putRow row rows = rows.filter (fun r => r.providerId < row.providerId) ++
      row :: rows.filter (fun r => row.providerId < r.providerId) := by
  induction rows with
  | nil => rfl
  | cons r rest ih =>
    obtain ⟨hfirst, hrest⟩ := List.pairwise_cons.mp h
    -- what follows a row that is not before the new one is behind it
    have hbehind (hle : row.providerId ≤ r.providerId) :
        rest.filter (fun t => t.providerId < row.providerId) = [] ∧
          rest.filter (fun t => row.providerId < t.providerId) = rest := by
      rw [List.filter_eq_nil_iff, List.filter_eq_self]
      constructor <;> intro t ht <;> have hlt := hfirst t ht
      · simpa using hle.trans hlt.le
      · simpa using hle.trans_lt hlt
    rw [putRow, List.filter_cons, List.filter_cons]
    split
    · next heq =>
      obtain ⟨hbefore, hafter⟩ := hbehind heq.le
      rw [hbefore, hafter]
      simp [heq]
    · next hne =>
      split
      · next hlt =>
        obtain ⟨hbefore, hafter⟩ := hbehind hlt.le
        rw [hbefore, hafter]
        simp [hlt, hlt.le]
      · next hge =>
        have hlt : r.providerId < row.providerId := by omega
        rw [ih hrest]
        simp [hlt, hlt.le]

theorem ascending_putRow (row : HealthRow) {rows : List HealthRow}
    (h : rows.Pairwise fun r t => r.providerId < t.providerId) :
    (putRow row rows).Pairwise fun r t => r.providerId < t.providerId := by
  rw [putRow_eq row h]
  refine List.pairwise_append.mpr ⟨h.filter _, List.pairwise_cons.mpr ⟨?_, h.filter _⟩, ?_⟩
  · exact fun t ht => of_decide_eq_true (List.mem_filter.mp ht).2
  · intro r hr t ht
    have hbefore : r.providerId < row.providerId := of_decide_eq_true (List.mem_filter.mp hr).2
    rcases List.mem_cons.mp ht with rfl | hafter
    · exact hbefore
    · exact hbefore.trans (of_decide_eq_true (List.mem_filter.mp hafter).2)

/-- What is known of the table of health records. -/
structure Tidy (s : Store) : Prop where
  healthFault : s.healthFault = none
  ascending : s.healths.Pairwise fun r t => r.providerId < t.providerId

namespace Tidy

variable {s s' : Store} {h : Health}

/-- Rows that are left of a table are still in order. -/
theorem of_sublist (hs : s.Tidy) (hfault : s'.healthFault = s.healthFault)
    (h : s'.healths.Sublist s.healths) : s'.Tidy :=
  ⟨hfault.trans hs.healthFault, hs.ascending.sublist h⟩

theorem putHealth_eq_ok (hs : s.Tidy) : s.putHealth h = .ok s' ↔
    s' = { s with healths := putRow (HealthRow.write h) s.healths } := by
  rw [Store.putHealth, hs.healthFault, checked_none, Except.ok.injEq, eq_comm]

theorem putHealth (hs : s.Tidy) (ok : s.putHealth h = .ok s') : s'.Tidy := by
  rw [hs.putHealth_eq_ok.mp ok]
  exact ⟨hs.healthFault, ascending_putRow _ hs.ascending⟩

theorem allHealths_eq (hs : s.Tidy) : s.allHealths = .ok (s.healths.map HealthRow.read) := by
  rw [allHealths, hs.healthFault, checked_none]

theorem findHealth?_eq (hs : s.Tidy) (id : Int) : s.findHealth? id =
    .ok ((s.healths.find? fun r => r.providerId == id).map HealthRow.read) := by
  rw [findHealth?, hs.healthFault, checked_none]

/-- What is left of a record is found. -/
theorem findHealth?_putHealth (hs : s.Tidy) (hr : h.Representable) (ok : s.putHealth h = .ok s') :
    s'.findHealth? h.providerId = .ok (some h.kept) := by
  have hrow : (putRow (HealthRow.write h) s.healths).find? (fun r => r.providerId == h.providerId) =
      some (HealthRow.write h) := find?_putRow_self (HealthRow.write h) s.healths
  rw [(hs.putHealth ok).findHealth?_eq, hs.putHealth_eq_ok.mp ok]
  simp only [hrow, Option.map_some, HealthRow.read_write hr]

/-- It is the record exactly if nothing of it is lost. -/
theorem findHealth?_putHealth_iff (hs : s.Tidy) (hr : h.Representable)
    (ok : s.putHealth h = .ok s') : s'.findHealth? h.providerId = .ok (some h) ↔ h.Durable := by
  rw [hs.findHealth?_putHealth hr ok, Except.ok.injEq, Option.some.injEq, Health.kept_eq_iff]

/-- The records of other providers are found as before. -/
theorem findHealth?_putHealth_ne (hs : s.Tidy) (ok : s.putHealth h = .ok s') {id : Int}
    (hid : id ≠ h.providerId) : s'.findHealth? id = s.findHealth? id := by
  rw [(hs.putHealth ok).findHealth?_eq, hs.findHealth?_eq, hs.putHealth_eq_ok.mp ok]
  simp only [find?_putRow_ne (HealthRow.write h) s.healths hid]

/-- What is left of a record is listed at its place among the others. -/
theorem allHealths_putHealth (hs : s.Tidy) (hr : h.Representable) (ok : s.putHealth h = .ok s') :
    s'.allHealths = .ok
      ((s.healths.map HealthRow.read).filter (fun r => r.providerId < h.providerId) ++
        h.kept :: (s.healths.map HealthRow.read).filter (fun r => h.providerId < r.providerId)) := by
  rw [(hs.putHealth ok).allHealths_eq, hs.putHealth_eq_ok.mp ok, ← HealthRow.read_write hr,
    List.filter_map, List.filter_map, ← List.map_cons, ← List.map_append]
  have hrows := putRow_eq (HealthRow.write h) hs.ascending
  exact congrArg (fun rows => Except.ok (rows.map HealthRow.read)) hrows

end Tidy

/-! ## Requests -/

/-- A change is made or leaves the store as it is. -/
theorem change_induction {α : Type} {p : Store → Prop} {s : Store} {made : Except StoreError α}
    {shown : α → Response × Store} (hs : p s) (h : ∀ a, made = .ok a → p (shown a).2) :
    p (s.change (made.map shown)).2 := by
  cases made with
  | error e => exact hs
  | ok a => exact h a rfl

theorem snd_reply {α : Type} (s : Store) (shown : α → Response) (found : Except StoreError α) :
    (s.reply shown found).2 = s := by
  cases found <;> rfl

/-- A store that is opened again is the one that was kept, or an empty one where none is kept. -/
theorem openStore_keep_cases {folder : Server.Folder} {path : String} {s s' : Store}
    (ok : (folder.keep path s).openStore path = .ok s') : s' = s ∨ s' = {} := by
  rw [Server.Folder.openStore] at ok
  split at ok
  · exact .inr (Except.ok.inj ok).symm
  · next htransient =>
    split at ok
    · cases ok
    · split at ok
      · exact .inr (Except.ok.inj ok).symm
      · next name hname =>
        rw [Server.Folder.keep, if_neg htransient, hname] at ok
        simp only [List.lookup_cons_self] at ok
        exact .inl (Except.ok.inj ok).symm

/-- **One request** leaves the table in order. -/
theorem Tidy.answer {s : Store} (hs : s.Tidy) (r : Request) : (s.answer r).2.Tidy := by
  cases r with
  | insert d =>
    refine change_induction hs fun a ok => ?_
    obtain ⟨-, -, hstore⟩ := insert_eq_ok.mp ok
    rw [hstore]
    exact ⟨hs.healthFault, hs.ascending⟩
  | update d =>
    refine change_induction hs fun a ok => ?_
    obtain ⟨-, -, -, hstore⟩ := update_eq_ok.mp ok
    rw [hstore]
    exact ⟨hs.healthFault, hs.ascending⟩
  | delete id =>
    refine change_induction hs fun a ok => ?_
    obtain ⟨-, -, -, hstore⟩ := delete_eq_ok.mp ok
    exact hs.of_sublist (by rw [hstore]) (by rw [hstore]; exact List.filter_sublist)
  | find id => rwa [Store.answer, snd_reply]
  | all => rwa [Store.answer, snd_reply]
  | putHealth h => exact change_induction hs fun a ok => hs.putHealth ok
  | findHealth id => rwa [Store.answer, snd_reply]
  | deleteHealth id =>
    refine change_induction hs fun a ok => ?_
    obtain ⟨-, hstore⟩ := checked_eq_ok.mp ok
    rw [← Except.ok.inj hstore]
    exact hs.of_sublist rfl List.filter_sublist
  | reopen folder path =>
    refine change_induction hs fun a ok => ?_
    rcases openStore_keep_cases ok with rfl | rfl
    · exact hs
    · exact ⟨rfl, List.Pairwise.nil⟩

/-- **All requests** leave the table in order. -/
theorem tidy_after (rs : List Request) : (after rs).Tidy := by
  have hrun (s : Store) (hs : s.Tidy) : (run s rs).2.Tidy := by
    induction rs generalizing s with
    | nil => exact hs
    | cons r rs ih => exact ih _ (hs.answer r)
  exact hrun {} ⟨rfl, List.Pairwise.nil⟩

/-! ## What is read back -/

/-- What a store shows after a health record was put into another one. -/
structure Stored (s s' : Store) (h : Health) : Prop where
  /-- What is left of the record is found. -/
  found : s'.findHealth? h.providerId = .ok (some h.kept)
  /-- It is the record exactly if the counts are below 2 ^ 63 and the years have four digits. -/
  found_iff : s'.findHealth? h.providerId = .ok (some h) ↔ h.Durable
  /-- It is listed once, between the records of the smaller and those of the greater providers, which are
  listed as they were. -/
  listed : ∃ records, s.allHealths = .ok records ∧
    s'.allHealths = .ok (records.filter (fun r => r.providerId < h.providerId) ++
      h.kept :: records.filter (fun r => h.providerId < r.providerId))
  /-- The list is in ascending order of the providers. -/
  ascending : ∀ records, s'.allHealths = .ok records →
    records.Pairwise fun r t => r.providerId < t.providerId
  /-- No other record has changed. -/
  others : ∀ id ≠ h.providerId, s'.findHealth? id = s.findHealth? id
  /-- Nor has anything else. -/
  rest : s' = { s with healths := s'.healths }

/-- **A health record that is stored** after any requests is read back as far as a row keeps it, and is
all that has changed. -/
theorem stored_of_representable (rs : List Request) {h : Health} (hr : h.Representable) :
    ∃ s', (after rs).putHealth h = .ok s' ∧ Stored (after rs) s' h := by
  have hs := tidy_after rs
  have ok : (after rs).putHealth h =
      .ok { after rs with healths := putRow (HealthRow.write h) (after rs).healths } :=
    hs.putHealth_eq_ok.mpr rfl
  refine ⟨_, ok, hs.findHealth?_putHealth hr ok, hs.findHealth?_putHealth_iff hr ok,
    ⟨_, hs.allHealths_eq, hs.allHealths_putHealth hr ok⟩, ?_,
    fun id hid => hs.findHealth?_putHealth_ne ok hid, rfl⟩
  intro records hrecords
  have hs' := hs.putHealth ok
  rw [hs'.allHealths_eq, Except.ok.injEq] at hrecords
  rw [← hrecords]
  exact List.pairwise_map.mpr hs'.ascending

/-- A record whose last success was in a leap second. -/
def leapRecord : Health where
  providerId := 7
  lastSuccess := some ⟨1483228799, 1500000000⟩
  successes := 2 ^ 63 - 1
  failures := 2
  level := 1
  firstFailure := some ⟨1700000000, 0⟩
  lastFailure := some ⟨1700000000, 0⟩
  suspendedTill := some ⟨1700000000, 1⟩

/-- All of it is read back in place of an older one, between those of two other providers. -/
theorem stored_leapRecord : leapRecord.Representable ∧
    ∃ s', (after [.putHealth (.fresh 9), .putHealth (.fresh 7), .putHealth (.fresh 3)]).putHealth
        leapRecord = .ok s' ∧
      Stored (after [.putHealth (.fresh 9), .putHealth (.fresh 7), .putHealth (.fresh 3)]) s'
        leapRecord ∧
      s'.findHealth? 7 = .ok (some leapRecord) := by
  have hmoments {p : Moment → Prop} (hsuccess : p ⟨1483228799, 1500000000⟩)
      (hfailure : p ⟨1700000000, 0⟩) (htill : p ⟨1700000000, 1⟩) : leapRecord.EveryMoment p :=
    ⟨by simpa [leapRecord], by simpa [leapRecord], by simpa [leapRecord], by simpa [leapRecord]⟩
  have hr : leapRecord.Representable :=
    ⟨by decide, by decide, by decide, hmoments ⟨by decide, by decide, by decide⟩
      ⟨by decide, by decide, by decide⟩ ⟨by decide, by decide, by decide⟩⟩
  obtain ⟨s', ok, hstored⟩ :=
    stored_of_representable [.putHealth (.fresh 9), .putHealth (.fresh 7), .putHealth (.fresh 3)] hr
  exact ⟨hr, s', ok, hstored, hstored.found_iff.mpr
    ⟨by decide, by decide, hmoments (by decide) (by decide) (by decide)⟩⟩

/-- A record that a new store shows as it was put into it. -/
def ReadBack (h : Health) : Prop :=
  ∃ s', (after []).putHealth h = .ok s' ∧ s'.findHealth? h.providerId = .ok (some h)

theorem durable_of_readBack {h : Health} (hr : h.Representable) (hback : ReadBack h) : h.Durable := by
  obtain ⟨s', ok, hfound⟩ := hback
  exact ((tidy_after []).findHealth?_putHealth_iff hr ok).mp hfound

/-- A record after a failure whose source asks for the longest suspension. -/
def endOfTime : Health :=
  (Health.fresh 1).fail ⟨1700000000, 0⟩ (Span.seconds Span.greatestSeconds)

/-- A record of more successes than a column holds. -/
def pastCounting : Health := { Health.fresh 2 with successes := 2 ^ 63 }

/-- **Two records that are not read back**: one is suspended until the last moment that is counted, and
one has a count that a column takes for a negative number. -/
theorem not_readBack_endOfTime :
    (endOfTime.Representable ∧ ¬ ReadBack endOfTime) ∧
      pastCounting.Representable ∧ ¬ ReadBack pastCounting := by
  have hnow : (⟨1700000000, 0⟩ : Moment).Shown := .of_ordinary (by decide) (by decide) (by decide)
  have htill : endOfTime.suspendedTill = some Moment.latest := by decide +kernel
  have htime : endOfTime.Representable := by
    refine ⟨by decide, by decide, by decide, ?_, ?_, ?_, ?_⟩
    · simp [endOfTime, Health.fail, Health.fresh]
    · simpa [endOfTime, Health.fail, Health.fresh] using hnow.toCounted
    · simpa [endOfTime, Health.fail] using hnow.toCounted
    · simpa [endOfTime, Health.fail, Health.fresh] using (hnow.add _).toCounted
  have hcount : pastCounting.Representable :=
    ⟨by decide, by decide, by decide, by constructor <;> simp [pastCounting, Health.fresh]⟩
  refine ⟨⟨htime, fun hback => ?_⟩, hcount, fun hback => ?_⟩
  · have hdurable := durable_of_readBack htime hback
    exact absurd (hdurable.moments.suspendedTill _ htill) (by decide +kernel)
  · have hdurable := durable_of_readBack hcount hback
    exact absurd hdurable.successes_lt (by decide)

end Store
end Biblio
