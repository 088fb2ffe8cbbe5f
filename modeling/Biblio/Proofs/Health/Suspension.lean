import Biblio.Proofs.Store.Health

/-!
# Suspensions that are kept

A failure suspends a provider, and the suspension has to outlive the way through the store: every
decision reads the record again.

* `Report` is what is recorded about a query, and `Store.reports` records one after the other.
* `Store.promisedEnd` is the end of the suspension that a failure asks for; `Store.till` is the end
  that the store shows afterwards.
* `Store.Sound.till_report` is the step: what a report does to the end that is shown.
* `Kept` is the promise, and `kept_iff` says when it is kept: if and only if no suspension reaches
  the year 10000.
-/

set_option autoImplicit false

namespace Biblio

/-- How a query went. -/
inductive Outcome where
  | succeeded
  /-- It failed, and the source asked for a least suspension. -/
  | failed (least : Span)
  deriving DecidableEq

/-- What is reported about a query to a provider. -/
structure Report where
  provider : Int
  /-- The time of the report. -/
  now : Moment
  outcome : Outcome
  /-- The time is one that a clock shows. -/
  shown : now.Shown

namespace Store

/-- Records one report. -/
def report (b : Backoff) (s : Store) (r : Report) : Store :=
  match r.outcome with
  | .succeeded => (s.noteSuccess r.now r.provider).2
  | .failed least => (s.noteFailure b r.now r.provider least).2

/-- Records reports, one after the other. -/
def reports (b : Backoff) (s : Store) (rs : List Report) : Store := rs.foldl (report b) s

/-- The end of the suspension that the record of a provider shows. -/
def till (s : Store) (id : Int) : Option Moment := (s.health id).suspendedTill

/-- Whether a provider is listed among the suspended ones. -/
def Lists (s : Store) (id : Int) (now : Moment) : Prop := ∃ h ∈ s.suspended now, h.providerId = id

/-- The end of the suspension for a failure: the span that the policy has for the new level, or the
least one that the source asked for, after the time of the failure. -/
def promisedEnd (b : Backoff) (s : Store) (id : Int) (t : Moment) (least : Span) : Moment :=
  t.add (max least (b.spanFor (s.noteFailure b t id least).1.level))

/-- The end of the suspension of a provider that a report asks for. -/
def promise (b : Backoff) (s : Store) (id : Int) (r : Report) : Option Moment :=
  match r.outcome with
  | .succeeded => none
  | .failed least => if r.provider = id then some (promisedEnd b s id r.now least) else none

/-- The ends of all suspensions of a provider that reports ask for. -/
def ends (b : Backoff) (id : Int) : Store → List Report → List Moment
  | _, [] => []
  | s, r :: rest => (promise b s id r).toList ++ ends b id (s.report b r) rest

/-! ## One report -/

theorem till_keepHealth_self {s : Store} (hs : s.healthFault = none) (h : Health) :
    (s.keepHealth h).till h.providerId = readMoment (writeMoment h.suspendedTill) := by
  rw [till, health_keepHealth_self hs]
  rfl

theorem till_keepHealth_ne {s : Store} (hs : s.healthFault = none) {h : Health} {id : Int}
    (hid : id ≠ h.providerId) : (s.keepHealth h).till id = s.till id := by
  rw [till, health_keepHealth_ne hs hid, till]

/-- A report is one record that is stored, that of its provider. -/
theorem report_eq (b : Backoff) (s : Store) (r : Report) :
    ∃ h : Health, h.providerId = r.provider ∧ s.report b r = s.keepHealth h := by
  rw [report]
  cases r.outcome with
  | succeeded => exact ⟨(s.health r.provider).succeed r.now, providerId_health s r.provider, rfl⟩
  | failed least =>
    exact ⟨(s.noteFailure b r.now r.provider least).1, providerId_health s r.provider, rfl⟩

/-- Reports about other providers change nothing. -/
theorem till_report_ne {s : Store} (hs : s.healthFault = none) (b : Backoff) {r : Report} {id : Int}
    (hid : r.provider ≠ id) : (s.report b r).till id = s.till id := by
  obtain ⟨h, hprovider, hreport⟩ := report_eq b s r
  rw [hreport]
  exact till_keepHealth_ne hs (hprovider ▸ hid.symm)

/-- After a success there is no suspension. -/
theorem till_report_succeeded {s : Store} (hs : s.healthFault = none) (b : Backoff) {r : Report}
    (hr : r.outcome = .succeeded) : (s.report b r).till r.provider = none := by
  have hself := till_keepHealth_self hs ((s.health r.provider).succeed r.now)
  have hprovider : ((s.health r.provider).succeed r.now).providerId = r.provider :=
    providerId_health s r.provider
  rw [hprovider] at hself
  rw [report, hr]
  exact hself

/-- A store whose records can be relied on: the ends of suspensions that it shows are those of a
clock, before the year 10000. -/
structure Sound (s : Store) : Prop where
  healthFault : s.healthFault = none
  till : ∀ (id : Int) (e : Moment), s.till id = some e → e.Shown ∧ e < Moment.yearTenThousand

/-- A store without records. -/
theorem sound_of_nil {s : Store} (hs : s.healthFault = none) (hnil : s.healths = []) : s.Sound := by
  refine ⟨hs, fun id e he => ?_⟩
  rw [Store.till, health_eq hs, hnil] at he
  exact nomatch he

/-- The end of a suspension that is asked for while another may still last: the later of the two. -/
def extended (current : Option Moment) (e : Moment) : Moment := current.elim e (max e)

theorem le_extended (current : Option Moment) (e : Moment) : e ≤ extended current e := by
  cases current with
  | none => exact le_refl e
  | some c => exact le_max_left e c

theorem extended_lt_iff {current : Option Moment} {e bound : Moment}
    (h : ∀ c, current = some c → c < bound) : extended current e < bound ↔ e < bound := by
  cases current with
  | none => exact Iff.rfl
  | some c => exact max_lt_iff.trans (and_iff_left (h c rfl))

theorem extended_shown {current : Option Moment} {e : Moment} (he : e.Shown)
    (h : ∀ c, current = some c → c.Shown) : (extended current e).Shown := by
  cases current with
  | none => exact he
  | some c =>
    show (max e c).Shown
    rcases max_choice e c with hmax | hmax
    · rw [hmax]
      exact he
    · rw [hmax]
      exact h c rfl

/-- The end that a failure leaves on record, before it is stored. -/
theorem suspendedTill_noteFailure (b : Backoff) (s : Store) (id : Int) (t : Moment) (least : Span) :
    (s.noteFailure b t id least).1.suspendedTill =
      some (extended (s.till id) (promisedEnd b s id t least)) := by
  have hspan : b.suspension (s.health id) least =
      max least (b.spanFor (s.noteFailure b t id least).1.level) := Nat.max_comm _ _
  show some _ = some _
  rw [hspan, ← promisedEnd, till]
  cases (s.health id).suspendedTill with
  | none => rfl
  | some current => exact congrArg some (Moment.later_eq_max _ _)

theorem promise_shown {b : Backoff} {s : Store} {id : Int} {r : Report} {e : Moment}
    (h : promise b s id r = some e) : e.Shown := by
  rw [promise] at h
  split at h
  · exact nomatch h
  · split at h
    · rw [← Option.some.inj h]
      exact r.shown.add _
    · exact nomatch h

/-- What the store shows after a failure: the later one of the promised end and the end so far, unless
the promised one is beyond what a column keeps. -/
theorem Sound.till_noteFailure {s : Store} (hs : s.Sound) (b : Backoff) (id : Int) {t : Moment}
    (ht : t.Shown) (least : Span) :
    (s.noteFailure b t id least).2.till id =
      if promisedEnd b s id t least < Moment.yearTenThousand then
        some (extended (s.till id) (promisedEnd b s id t least))
      else none := by
  have hshown : (promisedEnd b s id t least).Shown := ht.add _
  have hext := extended_shown hshown fun c hc => (hs.till id c hc).1
  have hself := till_keepHealth_self hs.healthFault (s.noteFailure b t id least).1
  have hprovider : (s.noteFailure b t id least).1.providerId = id := providerId_health s id
  rw [hprovider, suspendedTill_noteFailure, hext.readMoment_writeMoment] at hself
  simp only [extended_lt_iff fun c hc => (hs.till id c hc).2] at hself
  exact hself

theorem report_of_failed {b : Backoff} {s : Store} {r : Report} {least : Span}
    (h : r.outcome = .failed least) :
    s.report b r = (s.noteFailure b r.now r.provider least).2 := by
  rw [report, h]

theorem promise_of_failed {b : Backoff} {s : Store} {r : Report} {least : Span}
    (h : r.outcome = .failed least) :
    promise b s r.provider r = some (promisedEnd b s r.provider r.now least) := by
  rw [promise, h]
  exact if_pos rfl

theorem promise_of_ne {b : Backoff} {s : Store} {id : Int} {r : Report} (h : r.provider ≠ id) :
    promise b s id r = none := by
  rw [promise]
  cases r.outcome with
  | succeeded => rfl
  | failed least => exact if_neg h

/-- **The step.**  A report that is no success of a provider leaves the end that the store shows
alone, or moves it to the promised one if that is later, or loses it in the year 10000. -/
theorem Sound.till_report {s : Store} (hs : s.Sound) (b : Backoff) {r : Report} {id : Int}
    (hr : r.provider = id → r.outcome ≠ .succeeded) :
    (s.report b r).till id =
      match promise b s id r with
      | none => s.till id
      | some e =>
        if e < Moment.yearTenThousand then some (extended (s.till id) e) else none := by
  by_cases hid : r.provider = id
  · subst hid
    cases hout : r.outcome with
    | succeeded => exact absurd hout (hr rfl)
    | failed least =>
      rw [report_of_failed hout, promise_of_failed hout]
      exact hs.till_noteFailure b r.provider r.shown least
  · rw [till_report_ne hs.healthFault b hid, promise_of_ne hid]

/-- Every report leaves a store that can be relied on. -/
theorem Sound.report {s : Store} (hs : s.Sound) (b : Backoff) (r : Report) :
    (s.report b r).Sound := by
  refine ⟨?_, fun id e he => ?_⟩
  · obtain ⟨h, -, hreport⟩ := report_eq b s r
    rw [hreport]
    exact healthFault_keepHealth hs.healthFault h
  · by_cases hr : r.provider = id → r.outcome ≠ .succeeded
    · rw [hs.till_report b hr] at he
      cases hpromise : promise b s id r with
      | none =>
        rw [hpromise] at he
        exact hs.till id e he
      | some new =>
        have hnew := promise_shown hpromise
        rw [hpromise] at he
        simp only at he
        split at he
        · next hlt =>
          rw [← Option.some.inj he]
          exact ⟨extended_shown hnew fun c hc => (hs.till id c hc).1,
            (extended_lt_iff fun c hc => (hs.till id c hc).2).mpr hlt⟩
        · exact nomatch he
    · obtain ⟨rfl, hout⟩ := Classical.not_imp.mp hr
      rw [till_report_succeeded hs.healthFault b (not_ne_iff.mp hout)] at he
      exact nomatch he

theorem Sound.reports {s : Store} (hs : s.Sound) (b : Backoff) (rs : List Report) :
    (s.reports b rs).Sound := by
  induction rs generalizing s with
  | nil => exact hs
  | cons r rest ih => exact ih (hs.report b r)

/-! ## What is shown is not taken back -/

/-- **One report.**  A report that is no success of a provider, and promises no end beyond the year
10000, leaves an end that is shown where it is or moves it on. -/
theorem Sound.le_till_report {s : Store} (hs : s.Sound) (b : Backoff) {r : Report} {id : Int}
    (hr : r.provider = id → r.outcome ≠ .succeeded)
    (hend : ∀ e, promise b s id r = some e → e < Moment.yearTenThousand) {c : Moment}
    (hc : s.till id = some c) : ∃ d, (s.report b r).till id = some d ∧ c ≤ d := by
  rw [hs.till_report b hr]
  cases hpromise : promise b s id r with
  | none => exact ⟨c, hc, le_refl c⟩
  | some e =>
    refine ⟨max e c, ?_, le_max_right e c⟩
    rw [hc]
    exact if_pos (hend e hpromise)

theorem mem_ends_cons {b : Backoff} {id : Int} {s : Store} {r : Report} {rest : List Report}
    {e : Moment} :
    e ∈ ends b id s (r :: rest) ↔ promise b s id r = some e ∨ e ∈ ends b id (s.report b r) rest := by
  rw [ends, List.mem_append, Option.mem_toList]

/-- **All reports.** -/
theorem Sound.le_till_reports {s : Store} (hs : s.Sound) (b : Backoff) {rs : List Report} {id : Int}
    (hrs : ∀ r ∈ rs, r.provider = id → r.outcome ≠ .succeeded)
    (hends : ∀ e ∈ ends b id s rs, e < Moment.yearTenThousand) {c : Moment}
    (hc : s.till id = some c) : ∃ d, (s.reports b rs).till id = some d ∧ c ≤ d := by
  induction rs generalizing s c with
  | nil => exact ⟨c, hc, le_refl c⟩
  | cons r rest ih =>
    obtain ⟨d, hd, hcd⟩ := hs.le_till_report b (hrs r List.mem_cons_self)
      (fun e he => hends e (mem_ends_cons.mpr (.inl he))) hc
    obtain ⟨d', hd', hdd'⟩ := ih (hs.report b r) (fun r' hr' => hrs r' (List.mem_cons_of_mem r hr'))
      (fun e he => hends e (mem_ends_cons.mpr (.inr he))) hd
    exact ⟨d', hd', hcd.trans hdd'⟩

/-- Once an end in the year 10000 or later is promised, nothing is shown. -/
theorem Sound.exists_till_eq_none {s : Store} (hs : s.Sound) (b : Backoff) {rs : List Report}
    {id : Int} (hrs : ∀ r ∈ rs, r.provider = id → r.outcome ≠ .succeeded) {e : Moment}
    (he : e ∈ ends b id s rs) (hlate : Moment.yearTenThousand ≤ e) :
    ∃ r p, r :: p <+: rs ∧ (s.reports b (r :: p)).till id = none := by
  induction rs generalizing s with
  | nil => exact nomatch he
  | cons r rest ih =>
    rcases mem_ends_cons.mp he with hpromise | he
    · refine ⟨r, [], ⟨rest, rfl⟩, ?_⟩
      show (s.report b r).till id = none
      rw [hs.till_report b (hrs r List.mem_cons_self), hpromise]
      exact if_neg (not_lt.mpr hlate)
    · obtain ⟨r', p, hp, hnone⟩ :=
        ih (hs.report b r) (fun r' hr' => hrs r' (List.mem_cons_of_mem r hr')) he
      exact ⟨r, r' :: p, (List.cons_prefix_cons).mpr ⟨rfl, hp⟩, hnone⟩

theorem reports_append (b : Backoff) (s : Store) (rs rs' : List Report) :
    s.reports b (rs ++ rs') = (s.reports b rs).reports b rs' := List.foldl_append ..

theorem ends_append (b : Backoff) (id : Int) (s : Store) (rs rs' : List Report) :
    ends b id s (rs ++ rs') = ends b id s rs ++ ends b id (s.reports b rs) rs' := by
  induction rs generalizing s with
  | nil => rfl
  | cons r rest ih =>
    rw [List.cons_append, ends, ends, ih, List.append_assoc]
    rfl

/-- A provider whose suspension is shown is listed until it ends. -/
theorem Sound.lists_of_till {s : Store} (hs : s.Sound) {id : Int} {c now : Moment}
    (hc : s.till id = some c) (hnow : now < c) : s.Lists id now := by
  have hknown : s.health id ≠ Health.fresh id := fun h => by
    rw [Store.till, h] at hc
    exact nomatch hc
  have hsuspended : (s.health id).suspendedAt now = true := by
    rw [Store.till] at hc
    rw [Health.suspendedAt, hc]
    exact Moment.lt_iff_precedes.mp hnow
  exact ⟨s.health id,
    List.mem_filter.mpr ⟨health_mem_healthRecords hs.healthFault hknown, hsuspended⟩,
    providerId_health s id⟩

/-! ## The promise -/

/-- What is promised to a provider after a failure, as long as no success follows. -/
structure Kept (b : Backoff) (s : Store) (f : Report) (least : Span) (later : List Report) :
    Prop where
  /-- After any of the later reports the provider is listed until the promised end. -/
  listed : ∀ p, p <+: later → ∀ now, f.now ≤ now →
    now < promisedEnd b s f.provider f.now least → (s.reports b (f :: p)).Lists f.provider now
  /-- An end is shown after any of the later reports, and after further ones no earlier end. -/
  shown : ∀ p q, p <+: q → q <+: later → ∃ d e, (s.reports b (f :: p)).till f.provider = some d ∧
    (s.reports b (f :: q)).till f.provider = some e ∧ d ≤ e

/-- If the suspensions for a failure and for all later ones end before the year 10000, the promise
is kept. -/
theorem Sound.kept {s : Store} (hs : s.Sound) {b : Backoff} {f : Report} {least : Span}
    (hf : f.outcome = .failed least) {later : List Report}
    (hlater : ∀ r ∈ later, r.provider = f.provider → r.outcome ≠ .succeeded)
    (hends : ∀ e ∈ ends b f.provider s (f :: later), e < Moment.yearTenThousand) :
    Kept b s f least later := by
  have hfirst : promisedEnd b s f.provider f.now least < Moment.yearTenThousand :=
    hends _ (mem_ends_cons.mpr (.inl (promise_of_failed hf)))
  have hsound := hs.report b f
  obtain ⟨c, hc, hle⟩ : ∃ c, (s.report b f).till f.provider = some c ∧
      promisedEnd b s f.provider f.now least ≤ c := by
    rw [report_of_failed hf, hs.till_noteFailure b f.provider f.shown least, if_pos hfirst]
    exact ⟨_, rfl, le_extended _ _⟩
  -- the end that is shown after a part of the later reports, and after a longer part
  have hparts : ∀ p u, p ++ u <+: later → ∃ d e,
      (s.reports b (f :: p)).till f.provider = some d ∧
      (s.reports b (f :: (p ++ u))).till f.provider = some e ∧ c ≤ d ∧ d ≤ e := by
    rintro p u ⟨v, rfl⟩
    have hends' : ∀ e ∈ ends b f.provider (s.report b f) (p ++ u ++ v),
        e < Moment.yearTenThousand := fun e he => hends e (mem_ends_cons.mpr (.inr he))
    simp only [ends_append, List.mem_append] at hends' hlater
    obtain ⟨d, hd, hcd⟩ := hsound.le_till_reports b
      (fun r hr => hlater r (.inl (.inl hr))) (fun e he => hends' e (.inl (.inl he))) hc
    obtain ⟨e, he, hde⟩ := (hsound.reports b p).le_till_reports b
      (fun r hr => hlater r (.inl (.inr hr))) (fun e he => hends' e (.inl (.inr he))) hd
    refine ⟨d, e, hd, ?_, hcd, hde⟩
    rw [← List.cons_append, reports_append]
    exact he
  refine ⟨fun p hp now _ hnow => ?_, ?_⟩
  · obtain ⟨d, -, hd, -, hcd, -⟩ := hparts p [] (by rwa [List.append_nil])
    exact (hsound.reports b p).lists_of_till hd (hnow.trans_le (hle.trans hcd))
  · rintro p q ⟨u, rfl⟩ hq
    obtain ⟨d, e, hd, he, -, hde⟩ := hparts p u hq
    exact ⟨d, e, hd, he, hde⟩

/-- If one of the suspensions ends in the year 10000 or later, the promise is broken. -/
theorem Sound.not_kept {s : Store} (hs : s.Sound) {b : Backoff} {f : Report} {least : Span}
    (hf : f.outcome = .failed least) {later : List Report}
    (hlater : ∀ r ∈ later, r.provider = f.provider → r.outcome ≠ .succeeded) {e : Moment}
    (he : e ∈ ends b f.provider s (f :: later)) (hlate : Moment.yearTenThousand ≤ e) :
    ¬ Kept b s f least later := by
  have hall : ∀ r ∈ f :: later, r.provider = f.provider → r.outcome ≠ .succeeded := by
    intro r hr
    rcases List.mem_cons.mp hr with rfl | hr
    · rw [hf]
      exact fun _ h => nomatch h
    · exact hlater r hr
  intro hkept
  obtain ⟨r, p, hp, hnone⟩ := hs.exists_till_eq_none b hall he hlate
  obtain ⟨rfl, hpart⟩ := List.cons_prefix_cons.mp hp
  obtain ⟨d, -, hd, -, -⟩ := hkept.shown p p (List.prefix_refl p) hpart
  exact nomatch hd.symm.trans hnone

/-- **Suspensions outlive the store.**  After any reports to a store without health records, a
failure suspends its provider until the promised end, and no later failure takes anything back, if
and only if none of these suspensions reaches the year 10000. -/
theorem kept_iff {b : Backoff} {s : Store} (hs : s.healthFault = none) (hnil : s.healths = [])
    (history : List Report) {f : Report} {least : Span} (hf : f.outcome = .failed least)
    {later : List Report}
    (hlater : ∀ r ∈ later, r.provider = f.provider → r.outcome ≠ .succeeded) :
    Kept b (s.reports b history) f least later ↔
      ∀ e ∈ ends b f.provider (s.reports b history) (f :: later), e < Moment.yearTenThousand := by
  have hsound := (sound_of_nil hs hnil).reports b history
  refine ⟨fun hkept e he => ?_, hsound.kept hf hlater⟩
  by_contra hlate
  exact hsound.not_kept hf hlater he (not_lt.mp hlate) hkept

/-- A failure on 14 November 2023 whose source asks for a least suspension of some seconds. -/
def failureAsking (seconds : Nat) : Report where
  provider := 1
  now := ⟨1700000000, 0⟩
  outcome := .failed (Span.seconds seconds)
  shown := .of_ordinary (by decide) (by decide) (by decide)

/-- A source that asks for an hour, and then for a minute, is suspended for the hour. -/
theorem kept_hour :
    (({} : Store).healthFault = none ∧ ({} : Store).healths = [] ∧
      (failureAsking 3600).outcome = .failed (Span.seconds 3600) ∧
      ∀ r ∈ [failureAsking 60], r.provider = 1 → r.outcome ≠ .succeeded) ∧
    Kept Backoff.standard (({} : Store).reports Backoff.standard []) (failureAsking 3600)
      (Span.seconds 3600) [failureAsking 60] := by
  have hlater : ∀ r ∈ [failureAsking 60], r.provider = 1 → r.outcome ≠ .succeeded := by
    simp [failureAsking]
  refine ⟨⟨rfl, rfl, rfl, hlater⟩, (kept_iff rfl rfl [] rfl hlater).mpr ?_⟩
  decide +kernel

/-- A source that asks for as many seconds as 64 bits hold is not suspended at all. -/
theorem not_kept_greatestSeconds :
    ¬ Kept Backoff.standard {} (failureAsking Span.greatestSeconds)
      (Span.seconds Span.greatestSeconds) [] := by
  refine (sound_of_nil rfl rfl).not_kept rfl (fun _ h => nomatch h)
    (mem_ends_cons.mpr (.inl (promise_of_failed rfl))) ?_
  decide +kernel

end Store
end Biblio
