import Biblio.Proofs.Provider.Recall

/-!
# One entry for several inquiries

Inquiries with the same key look into the same slot.  What one of them has found the other one is
answered with, as long as it is alive.

* `Provider.Serves` — an inquiry is answered without a call of the source, and `Told.serves_iff`
  that it is so exactly if the answer is live.
* `Shares` — two inquiries have one entry, and `Shares.of_slot` that they have if they look into
  one slot.
-/

set_option autoImplicit false

namespace Biblio

variable {W : Type} {p : Provider W} {q q' : Inquiry} {a : Answer} {es : List Event}
  {s : State (W × List Question)} {slot : Slot}

/-- An inquiry is answered, and the source is not called for it. -/
def Provider.Serves (p : Provider W) (s : State (W × List Question)) (q : Inquiry) (a : Answer) :
    Prop :=
  ∃ s', (q.ask p.journaled).eval s = (.ok a, s') ∧ s'.asked = s.asked

/-- **An inquiry is answered so** exactly if the answer is live in its slot. -/
theorem Told.serves_iff (h : Told p es s) (hsupports : p.supports q.operation = true)
    (hslot : q.slot? = some slot) (hfixed : slot.name.rolls = false) :
    p.Serves s q a ↔ slot.live (s.cachesOf p.journaled) s.now = some a := by
  constructor
  · rintro ⟨s', heval, hasked⟩
    have hanswered := (turn_of_ask h.timed heval).answered hsupports slot hslot
    rw [called_of_eq hasked] at hanswered
    exact hanswered
  · intro hlive
    obtain ⟨A, f, call, hf, hoperation, -, hask⟩ := Inquiry.exists_consultation p hslot
    have hsup : p.journaled.supports f.operation = true := hoperation ▸ hsupports
    rw [← hf] at hlive
    -- a read does not prolong the life of the answer, so no room is needed on the clock
    obtain ⟨s', heval, -, hworld, -⟩ :=
      f.ask_of_live hsup h.timed hlive fun hrolls => absurd (hrolls.symm.trans hfixed) nofun
    exact ⟨s', by rw [hask, heval], congrArg Prod.snd hworld⟩

/-- What the source has to support for the answers that a cache keeps. -/
def ShelfName.operation : ShelfName → Operation
  | .authors => .getAuthor
  | .books => .getBook
  | .authorSearches => .searchAuthors
  | .bookSearches => .searchBooks
  | .isbn => .searchIsbn
  | .asin => .searchAsin

theorem Inquiry.operation_of_slot (h : q.slot? = some slot) :
    q.operation = slot.name.operation := by
  cases q with
  | author id useCache =>
    cases useCache with
    | true => exact Option.some.inj h ▸ rfl
    | false => exact nomatch h
  | book | authors | books | isbn | asin => exact Option.some.inj h ▸ rfl

/-- Two inquiries have one entry in the caches of a provider. -/
structure Shares (p : Provider W) (q q' : Inquiry) : Prop where
  one_slot : ∃ slot, q.slot? = some slot ∧ q'.slot? = some slot
  /-- A history remembers both or none. -/
  remembered_alike : ∀ es t, q.Remembered p es t ↔ q'.Remembered p es t
  /-- After a history both are answered without a call of the source or none, and with the same
  answer. -/
  served_alike : ∀ es s, Run p es s → p.supports q.operation = true →
    ∀ a, p.Serves s q a ↔ p.Serves s q' a
  /-- An answer to the one that is alive is the answer to the other. -/
  handed_on : ∀ es s, Run p es s → p.supports q.operation = true →
    ∀ e ∈ es, e.inquiry = q → ∀ slot, e.Keeps p.rules.windows slot s.now → p.Serves s q' e.answer

theorem Inquiry.supports_of_slot (hslot : q.slot? = some slot) (hslot' : q'.slot? = some slot)
    (h : p.supports q.operation = true) : p.supports q'.operation = true := by
  rw [operation_of_slot hslot', ← operation_of_slot hslot]
  exact h

/-- **Inquiries with one slot** have one entry. -/
theorem Shares.of_slot (hslot : q.slot? = some slot) (hslot' : q'.slot? = some slot)
    (hfixed : slot.name.rolls = false) (p : Provider W) : Shares p q q' where
  one_slot := ⟨slot, hslot, hslot'⟩
  remembered_alike es t := by
    simp only [Inquiry.Remembered, hslot, hslot']
  served_alike es s hrun hsupports a := by
    have hsupports' := Inquiry.supports_of_slot hslot hslot' hsupports
    rw [hrun.told.serves_iff hsupports hslot hfixed, hrun.told.serves_iff hsupports' hslot' hfixed]
  handed_on es s hrun hsupports e he hinquiry other hkeeps := by
    have hsupports' := Inquiry.supports_of_slot hslot hslot' hsupports
    obtain rfl : other = slot :=
      Option.some.inj (hkeeps.1.1.symm.trans (hinquiry ▸ hslot))
    rw [hrun.told.serves_iff hsupports' hslot' hfixed]
    exact (hrun.told.live_iff other s.now e.answer (Nat.le_refl _)).mpr ⟨e, he, hkeeps, rfl⟩

end Biblio
