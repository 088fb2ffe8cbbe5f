import Biblio.Proofs.Provider.Mirror
import Biblio.Sample

/-!
# What a provider remembers

A provider is asked one thing after another while time passes.  Whether it calls its source for an
inquiry can be read off what was asked and answered before.

* `Event` records an inquiry that was answered.  `Event.Renews` says that its answer is stored then, or
  that the life of the stored answer begins anew, and `Event.Keeps` that it is still alive.
* `Turn` is what one inquiry does to the caches, and `turn_of_ask` proves it.
* `Run` is a history of inquiries, and `Run.told` — what is live in the caches is what its events
  keep.
* `Recalls` is what is promised of the next inquiry, and `recalls_of_run` proves it.
-/

set_option autoImplicit false

namespace Biblio

variable {W : Type}

/-! ## Events -/

/-- An inquiry that was answered. -/
structure Event where
  inquiry : Inquiry
  answer : Answer
  /-- Whether the source was called. -/
  called : Bool
  /-- The instant of the answer. -/
  ended : Instant

namespace Event

/-- The answer found something, and was stored in a slot or read there where a read counts as a use. -/
def Renews (e : Event) (slot : Slot) : Prop :=
  e.inquiry.slot? = some slot ∧ e.answer.Finds ∧ (e.called || slot.name.rolls) = true

/-- The answer is alive at an instant. -/
def Keeps (e : Event) (w : CacheWindows) (slot : Slot) (t : Instant) : Prop :=
  e.Renews slot ∧ t < e.ended + slot.name.window w

end Event

/-! ## One inquiry -/

/-- What an inquiry does to the caches of a provider. -/
structure Turn (p : Provider W) (e : Event) (s s' : State (W × List Question)) : Prop where
  now_le : s.now ≤ s'.now
  /-- The source is called if nothing is live in the slot, and else the answer is what is live there. -/
  answered : p.supports e.inquiry.operation = true → ∀ slot, e.inquiry.slot? = some slot →
    slot.live (s.cachesOf p.journaled) s.now = if e.called then none else some e.answer
  supported : e.answer.Finds → p.supports e.inquiry.operation = true
  stored : ∀ slot, e.Renews slot →
    Caches.Stored slot e.answer (s'.now + slot.name.window p.rules.windows) s'.now
      (s.cachesOf p.journaled) (s'.cachesOf p.journaled)
  same : (∀ slot, ¬ e.Renews slot) →
    Caches.SameFrom s'.now (s.cachesOf p.journaled) (s'.cachesOf p.journaled)

/-- The event of an inquiry between two states. -/
def Event.between (q : Inquiry) (a : Answer) (s s' : State (W × List Question)) : Event where
  inquiry := q
  answer := a
  called := s'.asked ≠ s.asked
  ended := s'.now

section Turn

variable {p : Provider W} {q : Inquiry} {a : Answer} {s s' : State (W × List Question)}

theorem called_of_eq (h : s'.asked = s.asked) : (Event.between q a s s').called = false :=
  decide_eq_false fun hne => hne h

theorem called_of_append {x : Question} (h : s'.asked = s.asked ++ [x]) :
    (Event.between q a s s').called = true := by
  refine decide_eq_true ?_
  simp [h]

/-- An inquiry with a slot settles it. -/
theorem Turn.of_settles {slot : Slot} (hslot : q.slot? = some slot)
    (hsupports : p.supports q.operation = true) (hnow : s.now ≤ s'.now)
    (hanswered : slot.live (s.cachesOf p.journaled) s.now =
      if (Event.between q a s s').called then none else some a)
    (hsettles : Settles p.rules.windows slot (Event.between q a s s').called a s'.now
      (s.cachesOf p.journaled) (s'.cachesOf p.journaled)) :
    Turn p (Event.between q a s s') s s' where
  now_le := hnow
  answered _ other hother := by
    obtain rfl := Option.some.inj (hslot.symm.trans hother)
    exact hanswered
  supported _ := hsupports
  stored other h := by
    obtain rfl := Option.some.inj (hslot.symm.trans h.1)
    exact hsettles.stored h.2
  same h := hsettles.same fun hrenews => h slot ⟨hslot, hrenews⟩

/-- **Every inquiry that is answered.** -/
theorem turn_of_ask (htimed : (s.cachesOf p.journaled).Timed p.rules.windows)
    (h : (q.ask p.journaled).eval s = (.ok a, s')) : Turn p (Event.between q a s s') s s' := by
  cases hsupports : p.supports q.operation with
  | false =>
    have hunsupported : p.journaled.supports q.operation = false := hsupports
    obtain ⟨b, heval, hvain⟩ := Inquiry.eval_ask_of_unsupported hunsupported s
    rw [heval] at h
    obtain ⟨hb, rfl⟩ := Prod.mk.inj h
    obtain rfl := Except.ok.inj hb
    refine ⟨Nat.le_refl _, fun hsup => ?_, fun hfinds => absurd hfinds hvain,
      fun slot hrenews => absurd hrenews.2.1 hvain, fun _ => Caches.SameFrom.refl _ _⟩
    exact absurd (hsupports.symm.trans hsup) Bool.false_ne_true
  | true =>
    cases hslot : q.slot? with
    | none =>
      -- nothing is looked up and nothing is stored, but the source is called
      have hno (slot : Slot) : ¬ (Event.between q a s s').Renews slot := fun hrenews =>
        nomatch hslot.symm.trans hrenews.1
      obtain ⟨limit, hstart⟩ := Inquiry.start_of_slot?_eq_none (p := p.journaled) hslot hsupports h
      obtain ⟨hasked, hnow⟩ := Inquiry.asked_of_slot?_eq_none hslot hsupports hstart
      have hcaches := (Inquiry.ignoresCaches_of_slot?_eq_none p.journaled hslot).caches_eq s
      rw [h] at hnow hcaches
      refine ⟨hnow, fun _ slot hother => (nomatch hslot.symm.trans hother), fun _ => hsupports,
        fun slot hrenews => absurd hrenews (hno slot), fun _ => ?_⟩
      rw [State.cachesOf_congr p.journaled hcaches]
      exact Caches.SameFrom.refl _ _
    | some slot =>
      obtain ⟨A, f, call, hf, hoperation, hcall, hask⟩ := Inquiry.exists_consultation p hslot
      have hsup : p.journaled.supports f.operation = true := hoperation ▸ hsupports
      rw [hask] at h
      cases hlive : slot.live (s.cachesOf p.journaled) s.now with
      | some b =>
        rw [← hf] at hlive
        have hroom := f.room_of_ask hsup htimed hlive h
        obtain ⟨s₁, heval, hnow, hworld, hsettles⟩ := f.ask_of_live hsup htimed hlive hroom
        rw [heval] at h
        obtain ⟨hb, rfl⟩ := Prod.mk.inj h
        obtain rfl := Except.ok.inj hb
        have hcalled : (Event.between q b s s₁).called = false :=
          called_of_eq (congrArg Prod.snd hworld)
        rw [hf] at hlive hsettles
        refine .of_settles hslot hsupports (Nat.le_of_eq hnow.symm) ?_ ?_
        · rw [hcalled, hlive]
          rfl
        · rw [hcalled, hnow]
          exact hsettles
      | none =>
        rw [← hf] at hlive
        obtain ⟨limit, hstart⟩ := f.start_of_ask hsup hlive h
        obtain ⟨hasked, hnow⟩ := Consultation.asked_ask_of_not_live hcall hsup hlive hstart
        rw [h] at hasked hnow
        have hsettles := f.settles_of_not_live hsup htimed hlive h hnow
        have hcalled : (Event.between q a s s').called = true := called_of_append hasked
        rw [hf] at hlive hsettles
        refine .of_settles hslot hsupports hnow ?_ ?_
        · rw [hcalled, hlive]
          rfl
        · rw [hcalled]
          exact hsettles

end Turn

/-! ## Histories -/

/-- What a provider was asked, one thing after the other: the last event first.  The provider is new
at the start.  In between anything may happen that leaves its caches alone. -/
inductive Run (p : Provider W) : List Event → State (W × List Question) → Prop
  | start {s : State (W × List Question)}
      (fresh : s.cachesOf p.journaled = Caches.empty p.rules.windows) : Run p [] s
  | ask {es : List Event} {s s' : State (W × List Question)} {q : Inquiry} {a : Answer}
      (before : Run p es s) (answered : (q.ask p.journaled).eval s = (.ok a, s')) :
      Run p (.between q a s s' :: es) s'
  | meanwhile {es : List Event} {s s' : State (W × List Question)} (before : Run p es s)
      (later : s.now ≤ s'.now) (caches : s'.cachesOf p.journaled = s.cachesOf p.journaled) :
      Run p es s'

/-- What the events of a history say about the caches. -/
structure Told (p : Provider W) (es : List Event) (s : State (W × List Question)) : Prop where
  timed : (s.cachesOf p.journaled).Timed p.rules.windows
  ended_le : ∀ e ∈ es, e.ended ≤ s.now
  /-- What is live is what an event keeps. -/
  live_iff : ∀ (slot : Slot) (t : Instant) (a : Answer), s.now ≤ t →
    (slot.live (s.cachesOf p.journaled) t = some a ↔
      ∃ e ∈ es, e.Keeps p.rules.windows slot t ∧ e.answer = a)

variable {p : Provider W} {es : List Event} {s s' : State (W × List Question)}

theorem Told.start (hfresh : s.cachesOf p.journaled = Caches.empty p.rules.windows) :
    Told p [] s where
  timed k := by rw [hfresh, k.expiry_empty]
  ended_le := fun _ h => nomatch h
  live_iff slot t a _ := by
    rw [hfresh, Caches.live_empty]
    exact iff_of_false (fun h => nomatch h) (fun ⟨_, h, _⟩ => nomatch h)

theorem Told.meanwhile (h : Told p es s) (hnow : s.now ≤ s'.now)
    (hcaches : s'.cachesOf p.journaled = s.cachesOf p.journaled) : Told p es s' where
  timed := hcaches ▸ h.timed
  ended_le e he := Nat.le_trans (h.ended_le e he) hnow
  live_iff slot t a ht := by
    rw [hcaches]
    exact h.live_iff slot t a (Nat.le_trans hnow ht)

/-- An event that does not renew a slot says nothing about it. -/
theorem keeps_cons_iff {e : Event} {slot : Slot} (h : ¬ e.Renews slot) (es : List Event)
    (w : CacheWindows) (t : Instant) (a : Answer) :
    (∃ e' ∈ e :: es, e'.Keeps w slot t ∧ e'.answer = a) ↔
      ∃ e' ∈ es, e'.Keeps w slot t ∧ e'.answer = a := by
  simp only [List.mem_cons, exists_eq_or_imp]
  exact or_iff_right fun hkeeps => h hkeeps.1.1

/-- What the events say about a slot that one more event renews.  Answers that are kept from before are
the same. -/
theorem Told.live_iff_renewed (h : Told p es s) {e : Event} (hturn : Turn p e s s')
    (hended : e.ended = s'.now) {slot : Slot} (hrenews : e.Renews slot) {t : Instant}
    (ht : s'.now ≤ t) (a : Answer) :
    slot.live (s'.cachesOf p.journaled) t = some a ↔
      ∃ e' ∈ e :: es, e'.Keeps p.rules.windows slot t ∧ e'.answer = a := by
  simp only [(hturn.stored slot hrenews).self, List.mem_cons, exists_eq_or_imp]
  constructor
  · intro hlive
    split at hlive
    · next hlt => exact .inl ⟨⟨hrenews, hended ▸ hlt⟩, Option.some.inj hlive⟩
    · exact nomatch hlive
  · rintro (⟨⟨-, hlt⟩, rfl⟩ | ⟨e', he', hkeeps, rfl⟩)
    · rw [if_pos (hended ▸ hlt)]
    · -- the slot was live, so the source was not called, and what was answered is what was kept
      have hlive := (h.live_iff slot t e'.answer (Nat.le_trans hturn.now_le ht)).mpr
        ⟨e', he', hkeeps, rfl⟩
      have hbefore := Caches.live_of_le (Nat.le_trans hturn.now_le ht) hlive
      rw [hturn.answered (hturn.supported hrenews.2.1) slot hrenews.1] at hbefore
      split at hbefore
      · exact nomatch hbefore
      · have hle : e'.ended ≤ s'.now := Nat.le_trans (h.ended_le e' he') hturn.now_le
        rw [if_pos (Nat.lt_of_lt_of_le hkeeps.2 (Nat.add_le_add_right hle _)), hbefore]

/-- **The step.** -/
theorem Told.step (h : Told p es s) {e : Event} (hturn : Turn p e s s') (hended : e.ended = s'.now) :
    Told p (e :: es) s' := by
  have hended_le : ∀ e' ∈ e :: es, e'.ended ≤ s'.now :=
    List.forall_mem_cons.mpr ⟨Nat.le_of_eq hended, fun e' he' =>
      Nat.le_trans (h.ended_le e' he') hturn.now_le⟩
  have hold (slot : Slot) (t : Instant) (a : Answer) (ht : s'.now ≤ t) :=
    h.live_iff slot t a (Nat.le_trans hturn.now_le ht)
  -- an event renews the slot of its inquiry or none, and leaves all others alone
  by_cases hsome : ∃ slot, e.Renews slot
  · obtain ⟨renewed, hrenews⟩ := hsome
    have hstored := hturn.stored renewed hrenews
    refine ⟨fun k => (hstored.expiry k).trans (h.timed k), hended_le, fun slot t a ht => ?_⟩
    by_cases hslot : slot = renewed
    · rw [hslot]
      exact h.live_iff_renewed hturn hended hrenews ht a
    · have hnot : ¬ e.Renews slot := fun hother =>
        hslot (Option.some.inj (hother.1.symm.trans hrenews.1))
      rw [hstored.others slot t ht hslot, hold slot t a ht, keeps_cons_iff hnot]
  · have hnone : ∀ slot, ¬ e.Renews slot := not_exists.mp hsome
    have hsame := hturn.same hnone
    refine ⟨fun k => (hsame.expiry k).trans (h.timed k), hended_le, fun slot t a ht => ?_⟩
    rw [hsame.live slot t ht, hold slot t a ht, keeps_cons_iff (hnone slot)]

/-- **What is live in the caches is what the history says.** -/
theorem Run.told (h : Run p es s) : Told p es s := by
  induction h with
  | start fresh => exact .start fresh
  | ask before answered ih => exact ih.step (turn_of_ask ih.timed answered) rfl
  | meanwhile before later caches ih => exact ih.meanwhile later caches

/-! ## The next inquiry -/

/-- There is room on the clock for the time limit of a call, and for the life of an entity. -/
def Provider.HasRoom (p : Provider W) (now : Instant) : Prop :=
  (∃ till, now.after p.rules.callTimeout = .ok till) ∧
    ∃ till, now.after p.rules.windows.entity = .ok till

/-- An answer to an inquiry is alive. -/
def Inquiry.Remembered (q : Inquiry) (p : Provider W) (es : List Event) (t : Instant) : Prop :=
  ∃ slot, q.slot? = some slot ∧ ∃ e ∈ es, e.Keeps p.rules.windows slot t

/-- What is promised of the next inquiry after a history. -/
structure Recalls (p : Provider W) (es : List Event) (s : State (W × List Question)) (q : Inquiry) :
    Prop where
  /-- The journal has no part in it: the provider does the same without one. -/
  mirrored : (q.ask p).eval s.forget =
    (((q.ask p.journaled).eval s).1, ((q.ask p.journaled).eval s).2.forget)
  /-- The source is called exactly if no answer is alive. -/
  called_iff : p.supports q.operation = true → p.HasRoom s.now →
    (((q.ask p.journaled).eval s).2.asked = s.asked ++ [q.question] ↔ ¬ q.Remembered p es s.now)
  /-- An answer that is alive is given, and the source is not called. -/
  remembered : p.supports q.operation = true → p.HasRoom s.now →
    ∀ slot, q.slot? = some slot → ∀ e ∈ es, e.Keeps p.rules.windows slot s.now →
      ∃ s', (q.ask p.journaled).eval s = (.ok e.answer, s') ∧ s'.asked = s.asked
  /-- An answer that finds nothing is not stored, and does not prolong anything. -/
  vain : ∀ a s', (q.ask p.journaled).eval s = (.ok a, s') → ¬ a.Finds →
    Caches.SameFrom s'.now (s.cachesOf p.journaled) (s'.cachesOf p.journaled)
  /-- Without a slot the caches have no part in it. -/
  bypassing : q.slot? = none → (q.ask p.journaled).IgnoresCaches

section Next

variable {q : Inquiry}

theorem Provider.HasRoom.start (h : p.HasRoom s.now) :
    ∃ limit, p.journaled.limit s = .ok limit := by
  obtain ⟨till, hafter⟩ := h.1
  exact ⟨_, Provider.limit_of_after (p := p.journaled) hafter⟩

theorem Provider.HasRoom.rolling (h : p.HasRoom s.now) {k : ShelfName} (hrolls : k.rolls = true) :
    ∃ till, s.now.after (k.window p.journaled.rules.windows) = .ok till := by
  cases k <;> first | exact h.2 | exact nomatch hrolls

theorem Told.remembered_iff (h : Told p es s) {slot : Slot} (hslot : q.slot? = some slot) :
    q.Remembered p es s.now ↔ ∃ a, slot.live (s.cachesOf p.journaled) s.now = some a := by
  simp only [h.live_iff slot s.now _ (Nat.le_refl _)]
  constructor
  · rintro ⟨other, hother, e, he, hkeeps⟩
    obtain rfl := Option.some.inj (hslot.symm.trans hother)
    exact ⟨e.answer, e, he, hkeeps, rfl⟩
  · rintro ⟨_, e, he, hkeeps, -⟩
    exact ⟨slot, hslot, e, he, hkeeps⟩

/-- What is live is the answer, and the source is not called. -/
theorem Told.eval_ask_of_live (h : Told p es s) (hsupports : p.supports q.operation = true)
    (hroom : p.HasRoom s.now) {slot : Slot} (hslot : q.slot? = some slot) {a : Answer}
    (hlive : slot.live (s.cachesOf p.journaled) s.now = some a) :
    ∃ s', (q.ask p.journaled).eval s = (.ok a, s') ∧ s'.asked = s.asked := by
  obtain ⟨A, f, call, hf, hoperation, -, hask⟩ := Inquiry.exists_consultation p hslot
  have hsup : p.journaled.supports f.operation = true := hoperation ▸ hsupports
  rw [← hf] at hlive
  obtain ⟨s', heval, -, hworld, -⟩ :=
    f.ask_of_live hsup h.timed hlive fun hrolls => hroom.rolling hrolls
  exact ⟨s', by rw [hask, heval], congrArg Prod.snd hworld⟩

/-- Without a live answer the source is called. -/
theorem asked_of_not_live (hsupports : p.supports q.operation = true) (hroom : p.HasRoom s.now)
    {slot : Slot} (hslot : q.slot? = some slot)
    (hlive : slot.live (s.cachesOf p.journaled) s.now = none) :
    ((q.ask p.journaled).eval s).2.asked = s.asked ++ [q.question] := by
  obtain ⟨A, f, call, hf, hoperation, hcall, hask⟩ := Inquiry.exists_consultation p hslot
  have hsup : p.journaled.supports f.operation = true := hoperation ▸ hsupports
  obtain ⟨limit, hstart⟩ := hroom.start
  rw [← hf] at hlive
  rw [hask]
  exact (Consultation.asked_ask_of_not_live hcall hsup hlive hstart).1

/-- **When the source is called.** -/
theorem Told.called_iff (h : Told p es s) (hsupports : p.supports q.operation = true)
    (hroom : p.HasRoom s.now) :
    ((q.ask p.journaled).eval s).2.asked = s.asked ++ [q.question] ↔
      ¬ q.Remembered p es s.now := by
  cases hslot : q.slot? with
  | none =>
    obtain ⟨limit, hstart⟩ := hroom.start
    refine iff_of_true (Inquiry.asked_of_slot?_eq_none hslot hsupports hstart).1 ?_
    rintro ⟨slot, hsome, -⟩
    exact nomatch hslot.symm.trans hsome
  | some slot =>
    rw [h.remembered_iff hslot]
    cases hlive : slot.live (s.cachesOf p.journaled) s.now with
    | none =>
      refine iff_of_true (asked_of_not_live hsupports hroom hslot hlive) ?_
      rintro ⟨a, ha⟩
      exact nomatch ha
    | some a =>
      refine iff_of_false ?_ fun hnone => hnone ⟨a, rfl⟩
      obtain ⟨s', heval, hasked⟩ := h.eval_ask_of_live hsupports hroom hslot hlive
      simp [heval, hasked]

end Next

/-- **What a provider remembers.**  After any history of inquiries, the source is called for the next
one exactly if no earlier answer to it is alive.  Else that answer is given. -/
theorem recalls_of_run (h : Run p es s) (q : Inquiry) : Recalls p es s q where
  mirrored := q.mirrors_ask p s
  called_iff hsupports hroom := h.told.called_iff hsupports hroom
  remembered hsupports hroom slot hslot e he hkeeps := by
    refine h.told.eval_ask_of_live hsupports hroom hslot ?_
    exact (h.told.live_iff slot s.now e.answer (Nat.le_refl _)).mpr ⟨e, he, hkeeps, rfl⟩
  vain a s' heval hvain :=
    (turn_of_ask h.told.timed heval).same fun slot hrenews => hvain hrenews.2.1
  bypassing hslot := Inquiry.ignoresCaches_of_slot?_eq_none p.journaled hslot

/-- A provider whose source finds one author. -/
def providerOfOne : Provider Unit where
  definition := Definition.new "first" "Mock"
  source := { Sample.source "Mock" with
    fetchAuthor := fun id => .done (.ok (if id = "1" then some (Sample.author id "Ann") else none)) }
  number := 0
  rules := { callTimeout := Span.seconds 30 }

/-- The state after this author was asked for. -/
def stateOfOne : State (Unit × List Question) :=
  (((Inquiry.author "1" true).ask providerOfOne.journaled).eval { world := ((), []) }).2

/-- The author is remembered. -/
theorem recalls_stateOfOne :
    Run providerOfOne [⟨.author "1" true, .author (.ok (some (Sample.author "1" "Ann"))), true, 0⟩]
        stateOfOne ∧
      ∀ q, Recalls providerOfOne
        [⟨.author "1" true, .author (.ok (some (Sample.author "1" "Ann"))), true, 0⟩] stateOfOne q := by
  have hrun : Run providerOfOne
      [.between (.author "1" true) (.author (.ok (some (Sample.author "1" "Ann"))))
        { world := ((), []) } stateOfOne] stateOfOne :=
    .ask (.start rfl) (Prod.ext rfl rfl)
  exact ⟨hrun, recalls_of_run hrun⟩

end Biblio
