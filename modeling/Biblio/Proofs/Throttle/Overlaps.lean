import Biblio.Proofs.Throttle.GivingUp
import Biblio.Proofs.Throttle.Meter
import Mathlib

/-!
# Waits that overlap

A call can be held back by several rate limits at once, and its meter counts the time once.

* `Wait` is a wait for a rate limit, which is charged to the meter of at most one call.
  `Interleaved` says that waits are entered and left in some order that agrees with the time, and
  `metersAfter` is what that does to the meters.
* `pending` are the waits of a call that are in progress.  `waiting_metersAfter` says that the meter
  counts them, and `heldBack_iff_nonempty` that the call is held back as long as there are any.
* `measures_metersAfter` is the run: `Measures.pass` lets time pass, `Measures.apply` is one end of a
  wait.
* `throttled_of_interleaved` — a meter shows how long its call has been held back, whatever else
  happens.  `wide_narrowMetersAfter` says when 32 bits are enough for that.
-/

set_option autoImplicit false

namespace Biblio

/-! ## Waits -/

/-- A wait for a rate limit. -/
structure Wait (κ : Type) where
  /-- The call whose meter it is charged to, if it belongs to one. -/
  call : Option κ
  /-- The instant at which it begins. -/
  entered : Instant
  /-- The instant at which it ends: with an admission, or because it is given up. -/
  left : Instant
  deriving DecidableEq, Repr

namespace Wait

variable {ι κ : Type}

/-- The two ends of a wait. -/
inductive Side where
  | entry
  | exit
  deriving DecidableEq, Repr

/-- One of the ends of one of several waits. -/
structure Event (ι : Type) where
  wait : ι
  side : Side
  deriving DecidableEq, Repr

/-- The instant at which a wait is entered or left. -/
def Event.instant (waits : ι → Wait κ) (e : Event ι) : Instant :=
  match e.side with
  | .entry => (waits e.wait).entered
  | .exit => (waits e.wait).left

/-- Waits are entered and left in the order of a log. -/
structure Interleaved [DecidableEq ι] (waits : ι → Wait κ) (log : List (Event ι)) : Prop where
  /-- The order is that of time. -/
  inOrder : log.Pairwise fun e f => e.instant waits ≤ f.instant waits
  /-- Each wait is entered once, and then left once. -/
  once : ∀ i, log.filter (·.wait = i) = [⟨i, .entry⟩, ⟨i, .exit⟩]

/-- At an instant a call is held back by at least one wait. -/
def HeldBack (waits : ι → Wait κ) (c : κ) (t : Instant) : Prop :=
  ∃ i, (waits i).call = some c ∧ (waits i).entered ≤ t ∧ t < (waits i).left

instance [Fintype ι] [DecidableEq κ] (waits : ι → Wait κ) (c : κ) :
    DecidablePred (HeldBack waits c) := fun t =>
  inferInstanceAs (Decidable
    (∃ i, (waits i).call = some c ∧ (waits i).entered ≤ t ∧ t < (waits i).left))

/-! ### Meters of several calls -/

section

variable {M : Type} (begin finish : M → Instant → M) (waits : ι → Wait κ)

/-- What the end of a wait does to a meter. -/
def Event.apply (m : M) (e : Event ι) : M :=
  match e.side with
  | .entry => begin m (e.instant waits)
  | .exit => finish m (e.instant waits)

variable [DecidableEq κ]

/-- Charges the end of a wait to the meter of its call. -/
def charge (meters : κ → M) (e : Event ι) : κ → M :=
  match (waits e.wait).call with
  | none => meters
  | some c => Function.update meters c (e.apply begin finish waits (meters c))

variable {begin finish waits} {meters : κ → M} {e : Event ι} {c : κ}

theorem charge_of_eq (h : (waits e.wait).call = some c) :
    charge begin finish waits meters e c = e.apply begin finish waits (meters c) := by
  rw [charge, h]
  exact Function.update_self c _ meters

/-- Other meters stay as they are. -/
theorem charge_of_ne (h : (waits e.wait).call ≠ some c) :
    charge begin finish waits meters e c = meters c := by
  rw [charge]
  cases hcall : (waits e.wait).call with
  | none => rfl
  | some d =>
    exact Function.update_of_ne (fun heq => h (hcall.trans (congrArg some heq.symm))) _ meters

variable (waits) in
/-- The meters of all calls after waits have been entered and left. -/
def metersAfter (log : List (Event ι)) : κ → Meter :=
  log.foldl (charge Meter.begin Meter.finish waits) fun _ => {}

variable (waits) in
/-- The meters as they are if their counts have 32 bits. -/
def narrowMetersAfter (log : List (Event ι)) : κ → NarrowMeter :=
  log.foldl (charge NarrowMeter.begin NarrowMeter.finish waits) fun _ => {}

variable (waits) in
theorem metersAfter_snoc (log : List (Event ι)) (e : Event ι) :
    metersAfter waits (log ++ [e]) =
      charge Meter.begin Meter.finish waits (metersAfter waits log) e :=
  List.foldl_concat ..

/-- **Only the waits of a call matter** to its meter. -/
theorem metersAfter_filter (log : List (Event ι)) (c : κ) :
    metersAfter waits (log.filter fun e => (waits e.wait).call = some c) c =
      metersAfter waits log c := by
  induction log using List.reverseRecOn with
  | nil => rfl
  | append_singleton log e ih =>
    rw [List.filter_append, metersAfter_snoc]
    by_cases hcall : (waits e.wait).call = some c
    · rw [List.filter_singleton, decide_eq_true hcall, cond_true, metersAfter_snoc,
        charge_of_eq hcall, charge_of_eq hcall, ih]
    · rw [List.filter_singleton, decide_eq_false hcall, cond_false, List.append_nil, ih,
        charge_of_ne hcall]

end

/-! ### Waits in progress -/

section

variable [DecidableEq ι] {waits : ι → Wait κ} {before after : List (Event ι)} {e : Event ι}

theorem mem_iff_mem_filter {log : List (Event ι)} :
    e ∈ log ↔ e ∈ log.filter (·.wait = e.wait) := by
  rw [List.mem_filter]
  simp

/-- What has happened to a wait before one of its ends. -/
theorem Interleaved.filter_before (h : Interleaved waits (before ++ e :: after)) :
    before.filter (·.wait = e.wait) =
      match e.side with
      | .entry => []
      | .exit => [⟨e.wait, .entry⟩] := by
  have honce := h.once e.wait
  rw [List.filter_append, List.filter_cons_of_pos (by simp)] at honce
  obtain ⟨i, side⟩ := e
  cases hbefore : before.filter (·.wait = i) with
  | nil =>
    rw [hbefore] at honce
    cases side with
    | entry => rfl
    | exit => simp at honce
  | cons f rest =>
    rw [hbefore] at honce
    cases rest with
    | nil =>
      cases side with
      | entry => simp at honce
      | exit => simpa using (List.cons.inj honce).1
    | cons g rest => simp at honce

/-- An end of a wait comes after those before it and before those after it. -/
theorem Interleaved.instant_le (h : Interleaved waits (before ++ e :: after)) :
    (∀ f ∈ before ++ [e], f.instant waits ≤ e.instant waits) ∧
      ∀ f ∈ e :: after, e.instant waits ≤ f.instant waits := by
  obtain ⟨-, hlater, hearlier⟩ := List.pairwise_append.mp h.inOrder
  constructor
  · intro f hf
    rcases List.mem_append.mp hf with hf | hf
    · exact hearlier f hf e List.mem_cons_self
    · exact Nat.le_of_eq (by rw [List.mem_singleton.mp hf])
  · intro f hf
    rcases List.mem_cons.mp hf with rfl | hf
    · exact Nat.le_refl _
    · exact List.rel_of_pairwise_cons hlater hf

/-- Between any two parts of a log there is an instant. -/
theorem Interleaved.exists_instant (h : Interleaved waits (before ++ after)) :
    ∃ t, (∀ e ∈ before, e.instant waits ≤ t) ∧ ∀ e ∈ after, t ≤ e.instant waits := by
  rcases List.eq_nil_or_concat before with rfl | ⟨before, e, rfl⟩
  · exact ⟨0, (fun _ he => nomatch he), fun _ _ => Nat.zero_le _⟩
  · rw [List.concat_eq_append, List.append_assoc, List.singleton_append] at h
    obtain ⟨hbefore, hafter⟩ := h.instant_le
    rw [List.concat_eq_append]
    exact ⟨e.instant waits, hbefore, fun f hf => hafter f (List.mem_cons_of_mem e hf)⟩

/-- Every instant is between two parts of it. -/
theorem Interleaved.exists_parts {log : List (Event ι)} (h : Interleaved waits log) (t : Instant) :
    ∃ before after, log = before ++ after ∧
      (∀ e ∈ before, e.instant waits ≤ t) ∧ ∀ e ∈ after, t < e.instant waits := by
  let early (e : Event ι) : Bool := decide (e.instant waits ≤ t)
  refine ⟨log.takeWhile early, log.dropWhile early, List.takeWhile_append_dropWhile.symm, ?_, ?_⟩
  · intro e he
    have hearly : early e = true := List.mem_takeWhile_imp he
    exact of_decide_eq_true hearly
  · intro e he
    cases hlater : log.dropWhile early with
    | nil => exact nomatch hlater ▸ he
    | cons first rest =>
      have hfirst : t < first.instant waits := by
        have hnot := List.head?_dropWhile_not early log
        rw [hlater] at hnot
        simpa [early] using hnot
      have horder := h.inOrder.sublist (List.dropWhile_sublist early)
      rw [hlater] at horder he
      rcases List.mem_cons.mp he with rfl | he
      · exact hfirst
      · exact Nat.lt_of_lt_of_le hfirst (List.rel_of_pairwise_cons horder he)

variable [Fintype ι] [DecidableEq κ] {c : κ} {i : ι} {now t : Instant}

/-- The waits of a call that have been entered and not left. -/
def pending (waits : ι → Wait κ) (log : List (Event ι)) (c : κ) : Finset ι :=
  {i | (waits i).call = some c ∧ ⟨i, .entry⟩ ∈ log ∧ ⟨i, .exit⟩ ∉ log}

theorem mem_pending {log : List (Event ι)} : i ∈ pending waits log c ↔
    (waits i).call = some c ∧ ⟨i, .entry⟩ ∈ log ∧ ⟨i, .exit⟩ ∉ log := by
  simp [pending]

theorem pending_snoc_of_ne (h : (waits e.wait).call ≠ some c) :
    pending waits (before ++ [e]) c = pending waits before c := by
  ext i
  rw [mem_pending, mem_pending]
  refine and_congr_right fun hi => ?_
  have hne (side : Side) : (⟨i, side⟩ : Event ι) ≠ e := fun heq => h (heq ▸ hi)
  simp [hne]

/-- A wait that is entered is in progress, -/
theorem pending_snoc_entry (h : Interleaved waits (before ++ ⟨i, .entry⟩ :: after))
    (hcall : (waits i).call = some c) :
    i ∉ pending waits before c ∧
      pending waits (before ++ [⟨i, .entry⟩]) c = insert i (pending waits before c) := by
  have hfresh (side : Side) : (⟨i, side⟩ : Event ι) ∉ before := by
    rw [mem_iff_mem_filter]
    simp [h.filter_before]
  refine ⟨fun hi => hfresh .entry (mem_pending.mp hi).2.1, ?_⟩
  ext j
  rw [Finset.mem_insert, mem_pending, mem_pending]
  by_cases hj : j = i
  · subst hj
    simp [hcall, hfresh]
  · simp [hj]

/-- until it is left. -/
theorem pending_snoc_exit (h : Interleaved waits (before ++ ⟨i, .exit⟩ :: after))
    (hcall : (waits i).call = some c) :
    i ∈ pending waits before c ∧
      pending waits (before ++ [⟨i, .exit⟩]) c = (pending waits before c).erase i := by
  have hentered : (⟨i, .entry⟩ : Event ι) ∈ before := by
    rw [mem_iff_mem_filter]
    simp [h.filter_before]
  have hstays : (⟨i, .exit⟩ : Event ι) ∉ before := by
    rw [mem_iff_mem_filter]
    simp [h.filter_before]
  refine ⟨mem_pending.mpr ⟨hcall, hentered, hstays⟩, ?_⟩
  ext j
  rw [Finset.mem_erase, mem_pending, mem_pending]
  by_cases hj : j = i
  · subst hj
    simp
  · simp [hj]

/-- **A meter counts the waits in progress.** -/
theorem waiting_metersAfter (h : Interleaved waits (before ++ after)) (c : κ) :
    (metersAfter waits before c).waiting = (pending waits before c).card := by
  induction before using List.reverseRecOn generalizing after with
  | nil => simp [metersAfter, pending]
  | append_singleton before e ih =>
    rw [List.append_assoc, List.singleton_append] at h
    have hbefore := ih h
    rw [metersAfter_snoc]
    by_cases hcall : (waits e.wait).call = some c
    · rw [charge_of_eq hcall]
      obtain ⟨i, side⟩ := e
      cases side with
      | entry =>
        obtain ⟨hfresh, hpending⟩ := pending_snoc_entry h hcall
        rw [hpending, Finset.card_insert_of_notMem hfresh, ← hbefore]
        rfl
      | exit =>
        obtain ⟨hentered, hpending⟩ := pending_snoc_exit h hcall
        rw [hpending, Finset.card_erase_of_mem hentered, ← hbefore]
        exact Meter.waiting_finish _ _
    · rw [charge_of_ne hcall, pending_snoc_of_ne hcall, hbefore]

/-- **A call is held back** as long as waits of it are in progress. -/
theorem heldBack_iff_nonempty (h : Interleaved waits (before ++ after))
    (hbefore : ∀ e ∈ before, e.instant waits ≤ t) (hafter : ∀ e ∈ after, t < e.instant waits)
    (c : κ) : HeldBack waits c t ↔ (pending waits before c).Nonempty := by
  have hmem (i : ι) (side : Side) : (⟨i, side⟩ : Event ι) ∈ before ∨ ⟨i, side⟩ ∈ after := by
    rw [← List.mem_append, mem_iff_mem_filter, h.once]
    cases side <;> simp
  have hentered (i : ι) : (waits i).entered ≤ t ↔ ⟨i, .entry⟩ ∈ before := by
    refine ⟨fun hle => (hmem i .entry).resolve_right fun hlater => ?_, hbefore ⟨i, .entry⟩⟩
    exact absurd hle (Nat.not_le.mpr (hafter _ hlater))
  have hleft (i : ι) : t < (waits i).left ↔ ⟨i, .exit⟩ ∉ before := by
    refine ⟨fun hlt hearlier => ?_, fun hlater => hafter _ ((hmem i .exit).resolve_left hlater)⟩
    exact absurd (hbefore _ hearlier) (Nat.not_le.mpr hlt)
  refine exists_congr fun i => ?_
  rw [mem_pending, hentered, hleft]

/-! ### Readings -/

/-- While nothing is entered or left a call is held back all the time or not at all. -/
theorem count_heldBack (h : Interleaved waits (before ++ after)) (hnow : now ≤ t)
    (hbefore : ∀ e ∈ before, e.instant waits ≤ now) (hafter : ∀ e ∈ after, t ≤ e.instant waits)
    (c : κ) : Nat.count (HeldBack waits c) t = Nat.count (HeldBack waits c) now +
      if (pending waits before c).card = 0 then 0 else t - now := by
  obtain ⟨d, rfl⟩ := Nat.exists_eq_add_of_le hnow
  rw [Nat.count_add, Nat.add_sub_cancel_left]
  have hheld (k : Nat) (hk : k < d) : HeldBack waits c (now + k) ↔ (pending waits before c).Nonempty :=
    heldBack_iff_nonempty h (fun e he => Nat.le_trans (hbefore e he) (Nat.le_add_right now k))
      (fun e he => Nat.lt_of_lt_of_le (Nat.add_lt_add_left hk now) (hafter e he)) c
  refine Nat.add_left_cancel_iff.mpr ?_
  split
  · next hidle =>
    refine Nat.count_of_forall_not fun k hk hback => ?_
    exact Finset.card_ne_zero.mpr ((hheld k hk).mp hback) hidle
  · next hrunning =>
    exact Nat.count_of_forall fun k hk => (hheld k hk).mpr (Finset.card_ne_zero.mp hrunning)

/-- A meter that is sound and shows how long its call has been held back. -/
structure Measures (waits : ι → Wait κ) (c : κ) (m : Meter) (t : Instant) : Prop where
  sound : m.Sound t
  reading : m.reading t = Nat.count (HeldBack waits c) t

/-- **Time passes**, and nothing is entered or left. -/
theorem Measures.pass (hm : Measures waits c (metersAfter waits before c) now)
    (h : Interleaved waits (before ++ after)) (hnow : now ≤ t)
    (hbefore : ∀ e ∈ before, e.instant waits ≤ now) (hafter : ∀ e ∈ after, t ≤ e.instant waits) :
    Measures waits c (metersAfter waits before c) t := by
  refine ⟨hm.sound.mono hnow, ?_⟩
  have hwaiting := waiting_metersAfter h c
  rw [count_heldBack h hnow hbefore hafter, ← hwaiting, ← hm.reading]
  split
  · next hidle => exact hm.sound.reading_of_idle hidle t
  · next hrunning => exact hm.sound.reading_of_running hrunning hnow

omit [DecidableEq ι] in
/-- **A wait is entered or left** at an instant, which takes no time. -/
theorem Measures.apply {m : Meter} {e : Event ι} (hm : Measures waits c m (e.instant waits)) :
    Measures waits c (e.apply Meter.begin Meter.finish waits m) (e.instant waits) := by
  rw [Event.apply]
  cases e.side with
  | entry => exact ⟨hm.sound.begin, hm.sound.reading_begin.trans hm.reading⟩
  | exit => exact ⟨hm.sound.finish, (m.reading_finish _).trans hm.reading⟩

/-- **The run.**  After any part of a log a meter measures, up to the next event. -/
theorem measures_metersAfter (h : Interleaved waits (before ++ after))
    (hbefore : ∀ e ∈ before, e.instant waits ≤ t) (hafter : ∀ e ∈ after, t ≤ e.instant waits)
    (c : κ) : Measures waits c (metersAfter waits before c) t := by
  induction before using List.reverseRecOn generalizing after t with
  | nil =>
    have hstart : Measures waits c (metersAfter waits ([] : List (Event ι)) c) 0 :=
      ⟨Meter.sound_new 0, (Nat.count_zero _).symm⟩
    exact hstart.pass h (Nat.zero_le t) (fun _ he => nomatch he) hafter
  | append_singleton before e ih =>
    have hlog := h
    rw [List.append_assoc, List.singleton_append] at hlog
    obtain ⟨hearlier, hlater⟩ := hlog.instant_le
    have hm := ih hlog (fun f hf => hearlier f (List.mem_append_left _ hf)) hlater
    have hstep : Measures waits c (metersAfter waits (before ++ [e]) c) (e.instant waits) := by
      rw [metersAfter_snoc]
      by_cases hcall : (waits e.wait).call = some c
      · rw [charge_of_eq hcall]
        exact hm.apply
      · rw [charge_of_ne hcall]
        exact hm
    exact hstep.pass h (hbefore e (by simp)) hearlier hafter

/-- A meter is running exactly if it counts any waits. -/
theorem isSome_since_metersAfter_iff (h : Interleaved waits (before ++ after)) (c : κ) :
    (metersAfter waits before c).since.isSome = true ↔ 0 < (metersAfter waits before c).waiting := by
  obtain ⟨t, hbefore, hafter⟩ := h.exists_instant
  obtain ⟨hidle, hrunning⟩ := (measures_metersAfter h hbefore hafter c).sound
  rcases Nat.eq_zero_or_pos (metersAfter waits before c).waiting with hnone | hsome
  · simp [hidle hnone, hnone]
  · obtain ⟨start, -, hsince⟩ := hrunning (Nat.ne_of_gt hsome)
    simp [hsince, hsome]

/-! ### Counts of 32 bits -/

/-- **32 bits are enough** as long as no more waits of the call are in progress than they can count. -/
theorem wide_narrowMetersAfter (h : Interleaved waits (before ++ after))
    (hfits : ∀ first, first <+: before → (pending waits first c).card ≤ NarrowMeter.greatestCount) :
    (narrowMetersAfter waits before c).wide = metersAfter waits before c := by
  induction before using List.reverseRecOn generalizing after with
  | nil => rfl
  | append_singleton before e ih =>
    have hlog := h
    rw [List.append_assoc, List.singleton_append] at hlog
    have hbefore := ih hlog fun first hfirst => hfits first (hfirst.trans (List.prefix_append _ _))
    have hsnoc : narrowMetersAfter waits (before ++ [e]) =
        charge NarrowMeter.begin NarrowMeter.finish waits (narrowMetersAfter waits before) e :=
      List.foldl_concat ..
    rw [hsnoc, metersAfter_snoc]
    by_cases hcall : (waits e.wait).call = some c
    · rw [charge_of_eq hcall, charge_of_eq hcall]
      obtain ⟨i, side⟩ := e
      cases side with
      | entry =>
        have hroom : (narrowMetersAfter waits before c).wide.waiting < NarrowMeter.greatestCount := by
          obtain ⟨hfresh, hpending⟩ := pending_snoc_entry hlog hcall
          have hcard := hfits _ List.prefix_rfl
          rw [hpending, Finset.card_insert_of_notMem hfresh] at hcard
          rw [hbefore, waiting_metersAfter hlog]
          exact hcard
        exact (NarrowMeter.wide_begin hroom _).trans (congrArg (Meter.begin · _) hbefore)
      | exit => exact (NarrowMeter.wide_finish _ _).trans (congrArg (Meter.finish · _) hbefore)
    · rw [charge_of_ne hcall, charge_of_ne hcall, hbefore]

/-! ### Requests to limiters -/

/-- A limiter holds a request back at an instant: it has arrived, and has been neither admitted nor
given up. -/
def HoldsBack (l : Limiter) (a : Arrival) (t : Instant) : Prop :=
  a.arrivedAt ≤ t ∧ (∀ s, (l.serve a).1 = some s → t < s) ∧
    ((l.serve a).1 = none → ∀ d, a.givenUpAt = some d → t < d)

/-- The wait of a request that is made under a call.  A limiter without a limit has nobody wait. -/
def ofRequest (l : Limiter) (call : Option κ) (a : Arrival) : Wait κ where
  call := if l.unlimited then none else call
  entered := a.arrivedAt
  left := (l.serve a).1.getD (a.givenUpAt.getD a.arrivedAt)

omit [DecidableEq ι] [Fintype ι] [DecidableEq κ] in
theorem heldBack_ofRequest_iff (limiter : ι → Limiter) (call : ι → Option κ)
    (arrival : ι → Arrival) (c : κ) (t : Instant) :
    HeldBack (fun i => ofRequest (limiter i) (call i) (arrival i)) c t ↔
      ∃ i, call i = some c ∧ HoldsBack (limiter i) (arrival i) t := by
  refine exists_congr fun i => ?_
  simp only [ofRequest, HoldsBack]
  by_cases hlimit : (limiter i).unlimited = true
  · -- it is admitted when it arrives
    have hserve : ((limiter i).serve (arrival i)).1 = some (arrival i).arrivedAt := by
      rw [Limiter.serve, if_pos hlimit]
    simp only [hlimit, if_true, hserve, Option.some.injEq, reduceCtorEq, false_and, false_iff]
    rintro ⟨-, harrived, hlater, -⟩
    exact absurd (hlater _ rfl) (Nat.not_lt.mpr harrived)
  · rw [if_neg hlimit]
    refine and_congr_right fun _ => and_congr_right fun _ => ?_
    cases hserve : ((limiter i).serve (arrival i)).1 with
    | some s => simp
    | none =>
      have hl : (limiter i).perMinute ≠ 0 := by simpa [Limiter.unlimited] using hlimit
      obtain ⟨d, hd, -⟩ := (Limiter.serve_fst_eq_none_iff hl _).mp hserve
      simp [hd]

/-! ### The promise -/

/-- What is promised of the meters while waits are entered and left. -/
structure Throttled (waits : ι → Wait κ) (log : List (Event ι)) : Prop where
  /-- There is a moment of the log for every instant. -/
  moment : ∀ t, ∃ before after, log = before ++ after ∧
    (∀ e ∈ before, e.instant waits ≤ t) ∧ ∀ e ∈ after, t < e.instant waits
  /-- A meter that is read at an instant shows for how many nanoseconds before it the call has been
  held back by at least one wait. -/
  reading : ∀ before after, log = before ++ after → ∀ t,
    (∀ e ∈ before, e.instant waits ≤ t) → (∀ e ∈ after, t ≤ e.instant waits) →
      ∀ c, (metersAfter waits before c).reading t = Nat.count (HeldBack waits c) t
  /-- At every moment it counts the waits that are in progress, -/
  waiting : ∀ before after, log = before ++ after → ∀ c,
    (metersAfter waits before c).waiting = (pending waits before c).card
  /-- and is running exactly if there are any. -/
  running_iff : ∀ before after, log = before ++ after → ∀ c,
    (metersAfter waits before c).since.isSome = true ↔ 0 < (metersAfter waits before c).waiting
  /-- Waits that do not belong to the call leave no trace in it. -/
  alone : ∀ before after, log = before ++ after → ∀ c,
    metersAfter waits (before.filter fun e => (waits e.wait).call = some c) c =
      metersAfter waits before c
  /-- If the waits are those of requests to limiters, the call is held back exactly while one of its
  requests is. -/
  requests : ∀ (limiter : ι → Limiter) (call : ι → Option κ) (arrival : ι → Arrival),
    (∀ i, waits i = ofRequest (limiter i) (call i) (arrival i)) → ∀ c t,
      HeldBack waits c t ↔ ∃ i, call i = some c ∧ HoldsBack (limiter i) (arrival i) t
  /-- All this is so with counts of 32 bits, unless there are more waits in progress than they can
  count. -/
  narrow : ∀ before after, log = before ++ after → ∀ c,
    (∀ first, first <+: before → (pending waits first c).card ≤ NarrowMeter.greatestCount) →
      (narrowMetersAfter waits before c).wide = metersAfter waits before c

/-- **A meter shows how long its call has been held back**, however its waits overlap. -/
theorem throttled_of_interleaved {waits : ι → Wait κ} {log : List (Event ι)}
    (h : Interleaved waits log) : Throttled waits log where
  moment := h.exists_parts
  reading before after hlog t hbefore hafter c := by
    subst hlog
    exact (measures_metersAfter h hbefore hafter c).reading
  waiting before after hlog c := by
    subst hlog
    exact waiting_metersAfter h c
  running_iff before after hlog c := by
    subst hlog
    exact isSome_since_metersAfter_iff h c
  alone before _ _ c := metersAfter_filter before c
  requests limiter call arrival hwaits c t := by
    obtain rfl := funext hwaits
    exact heldBack_ofRequest_iff limiter call arrival c t
  narrow before after hlog c hfits := by
    subst hlog
    exact wide_narrowMetersAfter h hfits

/-- Two calls that are held back at the same time: the first by two limiters, the second by one; and a
wait that belongs to no call. -/
def waitsOfTwoCalls : Fin 4 → Wait Bool :=
  ![⟨some false, 10, 30⟩, ⟨some false, 20, 50⟩, ⟨some true, 25, 90⟩, ⟨none, 5, 60⟩]

/-- How these waits are entered and left. -/
def logOfTwoCalls : List (Event (Fin 4)) :=
  [⟨3, .entry⟩, ⟨0, .entry⟩, ⟨1, .entry⟩, ⟨2, .entry⟩, ⟨0, .exit⟩, ⟨1, .exit⟩, ⟨3, .exit⟩, ⟨2, .exit⟩]

/-- The time in which both waits of the first call are in progress counts once. -/
theorem throttled_waitsOfTwoCalls : Interleaved waitsOfTwoCalls logOfTwoCalls ∧
    Throttled waitsOfTwoCalls logOfTwoCalls ∧
    (metersAfter waitsOfTwoCalls logOfTwoCalls false).reading 100 = 40 ∧
    (metersAfter waitsOfTwoCalls logOfTwoCalls true).reading 100 = 65 := by
  have hinterleaved : Interleaved waitsOfTwoCalls logOfTwoCalls := ⟨by decide, by decide⟩
  exact ⟨hinterleaved, throttled_of_interleaved hinterleaved, by decide, by decide⟩

end

end Wait
end Biblio
