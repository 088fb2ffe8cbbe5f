import Biblio.Proofs.Provider.Recall

/-!
# Searches by title

The key of a search by title is made of the title, the author and the choice of editions, with strokes
between them.  It does not say which stroke is which.

* `TitleSearch` is such a search.  `TitleSearch.Same` says that two of them ask for the same, and
  `TitleSearch.Straddles` that a stroke within their texts is taken for one between them.
* `TitleSearch.key_eq_iff` — two searches have one key exactly if one of these is the case.
* `served_iff` — so exactly the answers to such searches are given from the cache.
-/

set_option autoImplicit false

namespace Biblio

variable {W : Type}

/-- A search by title, and by author if one is given. -/
structure TitleSearch where
  title : String
  author? : Option String
  allEditions : Bool
  deriving DecidableEq

namespace TitleSearch

/-- The title in the form in which it counts. -/
def titleKey (q : TitleSearch) : String := Text.textKey q.title

/-- The author in the form in which it counts; none is as good as an empty one. -/
def authorKey (q : TitleSearch) : String := (q.author?.map Text.textKey).getD ""

/-- The key of the search. -/
def key (q : TitleSearch) : String := Provider.bookSearchKey q.title q.author? q.allEditions

/-- The search as an inquiry. -/
def inquiry (q : TitleSearch) : Inquiry := .books q.title q.author? q.allEditions

/-- Both ask for the same. -/
def Same (q r : TitleSearch) : Prop :=
  q.titleKey = r.titleKey ∧ q.authorKey = r.authorKey ∧ q.allEditions = r.allEditions

/-- A stroke in the author of one search and a stroke in the title of the other stand where the other
has the stroke between the two. -/
def Straddles (q r : TitleSearch) : Prop :=
  ∃ middle, r.titleKey = q.titleKey ++ "|" ++ middle ∧ q.authorKey = middle ++ "|" ++ r.authorKey ∧
    q.allEditions = r.allEditions

/-! ## Keys -/

/-- Two lists that are cut at one of their strokes are equal exactly if they are cut at the same one, or
one of them at an earlier one. -/
theorem append_cons_eq_iff {α : Type} {x : α} {t t' a a' : List α} :
    t ++ x :: a = t' ++ x :: a' ↔ (t = t' ∧ a = a') ∨
      (∃ middle, t' = t ++ x :: middle ∧ a = middle ++ x :: a') ∨
      ∃ middle, t = t' ++ x :: middle ∧ a' = middle ++ x :: a := by
  constructor
  · intro h
    -- one of the first parts begins the other; what is left of that is empty or begins with a stroke
    rcases List.append_eq_append_iff.mp h with ⟨between, ht, ha⟩ | ⟨between, ht, ha⟩
    · cases between with
      | nil =>
        rw [List.append_nil] at ht
        exact .inl ⟨ht.symm, (List.cons.inj ha).2⟩
      | cons y middle =>
        obtain ⟨rfl, hrest⟩ := List.cons.inj ha
        exact .inr (.inl ⟨middle, ht, hrest⟩)
    · cases between with
      | nil =>
        rw [List.append_nil] at ht
        exact .inl ⟨ht, (List.cons.inj ha).2.symm⟩
      | cons y middle =>
        obtain ⟨rfl, hrest⟩ := List.cons.inj ha
        exact .inr (.inr ⟨middle, ht, hrest⟩)
  · rintro (⟨rfl, rfl⟩ | ⟨middle, rfl, rfl⟩ | ⟨middle, rfl, rfl⟩)
    · rfl
    · rw [List.append_assoc, List.cons_append]
    · rw [List.append_assoc, List.cons_append]

/-- The last part of the key. -/
def editionsKey (q : TitleSearch) : String := if q.allEditions then "true" else "false"

theorem toList_key (q : TitleSearch) : q.key.toList =
    (q.titleKey.toList ++ '|' :: q.authorKey.toList) ++ '|' :: q.editionsKey.toList := by
  have hkey : q.key = q.titleKey ++ "|" ++ q.authorKey ++ "|" ++ q.editionsKey := rfl
  have hstroke : "|".toList = ['|'] := rfl
  rw [hkey]
  simp only [String.toList_append, hstroke, List.append_assoc, List.cons_append, List.nil_append]

/-- The last part is determined by the key. -/
theorem allEditions_of_key_eq {q r : TitleSearch} (h : q.key = r.key) :
    q.allEditions = r.allEditions := by
  -- read from the end, the two words differ in their second letter
  have hlast := congrArg (fun s => s.toList.reverse) h
  simp only [toList_key, List.reverse_append, List.reverse_cons, List.append_assoc] at hlast
  cases hq : q.allEditions <;> cases hr : r.allEditions <;>
    simp [editionsKey, hq, hr] at hlast ⊢

theorem toList_eq_append_stroke {s t u : String} :
    s = t ++ "|" ++ u ↔ s.toList = t.toList ++ '|' :: u.toList := by
  have hstroke : "|".toList = ['|'] := rfl
  rw [← String.toList_inj]
  simp only [String.toList_append, hstroke, List.append_assoc, List.cons_append, List.nil_append]

/-- **What the key determines.** -/
theorem key_eq_iff {q r : TitleSearch} :
    q.key = r.key ↔ q.Same r ∨ q.Straddles r ∨ r.Straddles q := by
  have hcut (h : q.allEditions = r.allEditions) : q.key = r.key ↔
      q.titleKey.toList ++ '|' :: q.authorKey.toList =
        r.titleKey.toList ++ '|' :: r.authorKey.toList := by
    have hlast : q.editionsKey = r.editionsKey := by rw [editionsKey, editionsKey, h]
    rw [← String.toList_inj, toList_key, toList_key, hlast, List.append_left_inj]
  constructor
  · intro h
    have heditions := allEditions_of_key_eq h
    rw [hcut heditions, append_cons_eq_iff] at h
    rcases h with ⟨htitle, hauthor⟩ | ⟨middle, htitle, hauthor⟩ | ⟨middle, htitle, hauthor⟩
    · exact .inl ⟨String.toList_inj.mp htitle, String.toList_inj.mp hauthor, heditions⟩
    · rw [← String.toList_ofList (l := middle)] at htitle hauthor
      exact .inr (.inl ⟨String.ofList middle, toList_eq_append_stroke.mpr htitle,
        toList_eq_append_stroke.mpr hauthor, heditions⟩)
    · rw [← String.toList_ofList (l := middle)] at htitle hauthor
      exact .inr (.inr ⟨String.ofList middle, toList_eq_append_stroke.mpr htitle,
        toList_eq_append_stroke.mpr hauthor, heditions.symm⟩)
  · rintro (⟨htitle, hauthor, heditions⟩ | ⟨middle, htitle, hauthor, heditions⟩ |
      ⟨middle, htitle, hauthor, heditions⟩)
    · rw [hcut heditions, htitle, hauthor]
    · rw [hcut heditions, append_cons_eq_iff]
      exact .inr (.inl ⟨middle.toList, toList_eq_append_stroke.mp htitle,
        toList_eq_append_stroke.mp hauthor⟩)
    · rw [hcut heditions.symm, append_cons_eq_iff]
      exact .inr (.inr ⟨middle.toList, toList_eq_append_stroke.mp htitle,
        toList_eq_append_stroke.mp hauthor⟩)

/-- Only searches by title look into their cache. -/
theorem eq_inquiry_of_slot? {q : Inquiry} {key : String} (h : q.slot? = some ⟨.bookSearches, key⟩) :
    ∃ r : TitleSearch, q = r.inquiry ∧ r.key = key := by
  cases q with
  | author id useCache => cases useCache <;> exact nomatch h
  | book id => exact nomatch h
  | authors query => exact nomatch h
  | books title author? allEditions =>
    have hkey : Provider.bookSearchKey title author? allEditions = key :=
      congrArg Slot.key (Option.some.inj h)
    exact ⟨⟨title, author?, allEditions⟩, rfl, hkey⟩
  | isbn number => exact nomatch h
  | asin number => exact nomatch h

/-- The slot of the search. -/
def slot (q : TitleSearch) : Slot := ⟨.bookSearches, q.key⟩

/-- An event that keeps an answer in the slot of a search is one of such a search, for which the source
was called. -/
theorem keeps_iff {e : Event} {w : CacheWindows} {q : TitleSearch} {t : Instant} :
    e.Keeps w q.slot t ↔ ∃ r : TitleSearch, e.inquiry = r.inquiry ∧ q.key = r.key ∧
      e.called = true ∧ e.answer.Finds ∧ t < e.ended + w.search := by
  constructor
  · rintro ⟨⟨hslot, hfinds, hrenews⟩, hlt⟩
    obtain ⟨r, hr, hkey⟩ := eq_inquiry_of_slot? hslot
    have hrolls : q.slot.name.rolls = false := rfl
    rw [hrolls, Bool.or_false] at hrenews
    exact ⟨r, hr, hkey.symm, hrenews, hfinds, hlt⟩
  · rintro ⟨r, hr, hkey, hcalled, hfinds, hlt⟩
    have hslot : e.inquiry.slot? = some q.slot := by
      rw [hr, slot, hkey]
      rfl
    exact ⟨⟨hslot, hfinds, by rw [hcalled, Bool.true_or]⟩, hlt⟩

end TitleSearch

/-! ## Answers from the cache -/

variable {p : Provider W} {es : List Event} {s : State (W × List Question)}

/-- **When a search by title is not passed on.**  The answer is given without calling the source
exactly if the source gave it, less than a window ago, to a search with the same key: one that asks for
the same, or one whose strokes are mistaken. -/
theorem served_iff (h : Run p es s) (q : TitleSearch) (hsupports : p.supports .searchBooks = true)
    (hroom : p.HasRoom s.now) (a : Answer) :
    (∃ s', (q.inquiry.ask p.journaled).eval s = (.ok a, s') ∧ s'.asked = s.asked) ↔
      ∃ e ∈ es, ∃ r : TitleSearch, e.inquiry = r.inquiry ∧
        (q.Same r ∨ q.Straddles r ∨ r.Straddles q) ∧ e.called = true ∧ e.answer = a ∧ a.Finds ∧
        s.now < e.ended + p.rules.windows.search := by
  have hlive := h.told.live_iff q.slot s.now a (Nat.le_refl _)
  constructor
  · rintro ⟨s', heval, hquiet⟩
    have hanswered := (turn_of_ask h.told.timed heval).answered hsupports q.slot rfl
    rw [called_of_eq hquiet] at hanswered
    obtain ⟨e, he, hkeeps, ha⟩ := hlive.mp hanswered
    obtain ⟨r, hr, hkey, hcalled, hfinds, hlt⟩ := TitleSearch.keeps_iff.mp hkeeps
    exact ⟨e, he, r, hr, TitleSearch.key_eq_iff.mp hkey, hcalled, ha, ha ▸ hfinds, hlt⟩
  · rintro ⟨e, he, r, hr, hkey, hcalled, rfl, hfinds, hlt⟩
    have hkeeps : e.Keeps p.rules.windows q.slot s.now :=
      TitleSearch.keeps_iff.mpr ⟨r, hr, TitleSearch.key_eq_iff.mpr hkey, hcalled, hfinds, hlt⟩
    exact h.told.eval_ask_of_live (q := q.inquiry) hsupports hroom rfl (hlive.mpr ⟨e, he, hkeeps, rfl⟩)

/-- A provider whose source finds one book for every title. -/
def providerOfTitles : Provider Unit where
  definition := Definition.new "first" "Mock"
  source := { Sample.source "Mock" with
    searchBooks := fun title _ _ => .done (.ok [Sample.book "1" title "1"]) }
  number := 0
  rules := { callTimeout := Span.seconds 30 }

/-- A search with a stroke in the title. -/
def strokeInTitle : TitleSearch := ⟨"a|b", some "c", false⟩

/-- A search with the same stroke in the author. -/
def strokeInAuthor : TitleSearch := ⟨"a", some "b|c", false⟩

/-- The state after the first of them. -/
def stateOfStroke : State (Unit × List Question) :=
  ((strokeInTitle.inquiry.ask providerOfTitles.journaled).eval { world := ((), []) }).2

/-- The first of them, answered. -/
def eventOfStroke : Event :=
  ⟨strokeInTitle.inquiry, .books (.ok [Sample.book "1" "a|b" "1"]), true, 0⟩

theorem run_stateOfStroke : Run providerOfTitles [eventOfStroke] stateOfStroke := by
  have hrun : Run providerOfTitles
      [.between strokeInTitle.inquiry (.books (.ok [Sample.book "1" "a|b" "1"]))
        { world := ((), []) } stateOfStroke] stateOfStroke :=
    .ask (.start rfl) (Prod.ext rfl rfl)
  exact hrun

/-- The search is answered again. -/
theorem served_stateOfStroke :
    (Run providerOfTitles [eventOfStroke] stateOfStroke ∧
      providerOfTitles.supports .searchBooks = true ∧ providerOfTitles.HasRoom stateOfStroke.now) ∧
    ((∃ s', (strokeInTitle.inquiry.ask providerOfTitles.journaled).eval stateOfStroke =
        (.ok eventOfStroke.answer, s') ∧ s'.asked = stateOfStroke.asked) ↔
      ∃ e ∈ [eventOfStroke], ∃ r : TitleSearch, e.inquiry = r.inquiry ∧
        (strokeInTitle.Same r ∨ strokeInTitle.Straddles r ∨ r.Straddles strokeInTitle) ∧
        e.called = true ∧ e.answer = eventOfStroke.answer ∧ eventOfStroke.answer.Finds ∧
        stateOfStroke.now < e.ended + providerOfTitles.rules.windows.search) := by
  have hroom : providerOfTitles.HasRoom stateOfStroke.now := ⟨⟨_, rfl⟩, ⟨_, rfl⟩⟩
  exact ⟨⟨run_stateOfStroke, rfl, hroom⟩, served_iff run_stateOfStroke strokeInTitle rfl hroom _⟩

/-- **One search is answered with the results of another.**  The two titles differ, and the source was
never asked for the second. -/
theorem mistaken_stateOfStroke :
    Run providerOfTitles [eventOfStroke] stateOfStroke ∧
      (∃ s', (strokeInAuthor.inquiry.ask providerOfTitles.journaled).eval stateOfStroke =
        (.ok eventOfStroke.answer, s') ∧ s'.asked = stateOfStroke.asked) ∧
      ¬ strokeInAuthor.Same strokeInTitle := by
  refine ⟨run_stateOfStroke, ⟨_, Prod.ext rfl rfl, rfl⟩, fun h => ?_⟩
  exact absurd h.1 (by decide)

end Biblio
