/-!
# The order of texts

Texts are ordered by their code points, the shorter of two that agree first.  `precedes` is the
strict order; `precedes_irrefl`, `precedes_trans` and `eq_or_precedes` make it a linear order.
`insertSorted` keeps a list of keyed values in this order with one value per key, and `sortedSet` a list
of texts with one of each (`mem_sortedSet`, `nodup_sortedSet`).
-/

set_option autoImplicit false

namespace Biblio
namespace Text

/-- The strict lexicographic order by code points. -/
def precedesChars : List Char → List Char → Bool
  | _, [] => false
  | [], _ :: _ => true
  | a :: as, b :: bs => a.toNat < b.toNat || (a.toNat == b.toNat && precedesChars as bs)

/-- The strict order of strings. -/
def precedes (s t : String) : Bool := precedesChars s.toList t.toList

theorem precedesChars_irrefl (cs : List Char) : precedesChars cs cs = false := by
  induction cs with
  | nil => rfl
  | cons c cs ih => simp [precedesChars, ih]

theorem precedes_irrefl (s : String) : precedes s s = false := precedesChars_irrefl _

theorem precedesChars_trans {as bs cs : List Char} (h : precedesChars as bs = true)
    (h' : precedesChars bs cs = true) : precedesChars as cs = true := by
  induction as generalizing bs cs with
  | nil =>
    cases bs with
    | nil => simp [precedesChars] at h
    | cons b bs => cases cs <;> simp_all [precedesChars]
  | cons a as ih =>
    cases bs with
    | nil => simp [precedesChars] at h
    | cons b bs =>
      cases cs with
      | nil => simp [precedesChars] at h'
      | cons c cs =>
        simp only [precedesChars, Bool.or_eq_true, decide_eq_true_eq, Bool.and_eq_true,
          beq_iff_eq] at h h' ⊢
        rcases h with h | ⟨h, hs⟩ <;> rcases h' with h' | ⟨h', hs'⟩
        · exact .inl (by omega)
        · exact .inl (by omega)
        · exact .inl (by omega)
        · exact .inr ⟨by omega, ih hs hs'⟩

theorem precedes_trans {s t u : String} (h : precedes s t = true) (h' : precedes t u = true) :
    precedes s u = true := precedesChars_trans h h'

theorem eq_or_precedesChars (as bs : List Char) :
    as = bs ∨ precedesChars as bs = true ∨ precedesChars bs as = true := by
  induction as generalizing bs with
  | nil => cases bs <;> simp [precedesChars]
  | cons a as ih =>
    cases bs with
    | nil => simp [precedesChars]
    | cons b bs =>
      simp only [precedesChars, Bool.or_eq_true, decide_eq_true_eq, Bool.and_eq_true, beq_iff_eq]
      rcases Nat.lt_trichotomy a.toNat b.toNat with h | h | h
      · exact .inr (.inl (.inl h))
      · have hab : a = b := Char.ext (UInt32.toNat_inj.mp h)
        subst hab
        rcases ih bs with rfl | h' | h'
        · exact .inl rfl
        · exact .inr (.inl (.inr ⟨rfl, h'⟩))
        · exact .inr (.inr (.inr ⟨rfl, h'⟩))
      · exact .inr (.inr (.inl h))

/-- Of two different strings one precedes the other. -/
theorem eq_or_precedes (s t : String) : s = t ∨ precedes s t = true ∨ precedes t s = true := by
  rcases eq_or_precedesChars s.toList t.toList with h | h
  · exact .inl (String.toList_inj.mp h)
  · exact .inr h

/-- Puts a value under a key into a list in key order, in place of the value it has there. -/
def insertSorted {α : Type} (k : String) (v : α) : List (String × α) → List (String × α)
  | [] => [(k, v)]
  | (k', v') :: rest =>
    if k = k' then (k, v) :: rest
    else if precedes k k' then (k, v) :: (k', v') :: rest
    else (k', v') :: insertSorted k v rest

/-- Inserts a text into a sorted list of texts, unless it is there already. -/
def insertDistinct (s : String) : List String → List String
  | [] => [s]
  | t :: rest =>
    if s = t then t :: rest
    else if precedes s t then s :: t :: rest
    else t :: insertDistinct s rest

theorem mem_insertDistinct {s x : String} {ts : List String} :
    x ∈ insertDistinct s ts ↔ x = s ∨ x ∈ ts := by
  induction ts with
  | nil => simp [insertDistinct]
  | cons t rest ih =>
    unfold insertDistinct
    split
    · rename_i h; subst h; simp
    · split
      · simp
      · simp only [List.mem_cons, ih]
        exact or_left_comm

/-- The distinct texts of a list, in order. -/
def sortedSet (ts : List String) : List String := ts.foldr insertDistinct []

@[simp] theorem mem_sortedSet {x : String} {ts : List String} : x ∈ sortedSet ts ↔ x ∈ ts := by
  induction ts with
  | nil => simp [sortedSet]
  | cons t rest ih =>
    have : sortedSet (t :: rest) = insertDistinct t (sortedSet rest) := rfl
    simp [this, mem_insertDistinct, ih]

theorem pairwise_insertDistinct {s : String} {ts : List String}
    (h : ts.Pairwise fun a b => precedes a b = true) :
    (insertDistinct s ts).Pairwise fun a b => precedes a b = true := by
  induction ts with
  | nil => exact List.pairwise_singleton _ s
  | cons t rest ih =>
    obtain ⟨hfirst, hrest⟩ := List.pairwise_cons.mp h
    unfold insertDistinct
    split
    · exact h
    · next hne =>
      split
      · next hbefore =>
        refine List.pairwise_cons.mpr ⟨fun a ha => ?_, h⟩
        rcases List.mem_cons.mp ha with rfl | ha
        · exact hbefore
        · exact precedes_trans hbefore (hfirst a ha)
      · next hnot =>
        have hafter := ((eq_or_precedes s t).resolve_left hne).resolve_left hnot
        refine List.pairwise_cons.mpr ⟨fun a ha => ?_, ih hrest⟩
        rcases mem_insertDistinct.mp ha with rfl | ha
        · exact hafter
        · exact hfirst a ha

/-- They are in strictly ascending order. -/
theorem pairwise_sortedSet (ts : List String) :
    (sortedSet ts).Pairwise fun a b => precedes a b = true := by
  induction ts with
  | nil => exact .nil
  | cons t rest ih => exact pairwise_insertDistinct ih

theorem nodup_sortedSet (ts : List String) : (sortedSet ts).Nodup := by
  refine (pairwise_sortedSet ts).imp fun {a b} hab => ?_
  rintro rfl
  rw [precedes_irrefl] at hab
  cases hab

end Text
end Biblio
