import Biblio.Proofs.Metrics.Segments
import Mathlib.Data.List.Basic

/-!
# Identifiers in the labels of paths

A label has the segments of its path, and a placeholder for those that are hidden.  Both passes go
over the segments from the left; something that one of them finds takes the next segment with it, which
is then passed over.

* `passedOver` says which places are passed over when something fits at a place before them.
  `getElem?_hideEntities` and `getElem?_hideNumbers` are the two passes, segment by segment.
* `hide` is both passes, `segmentsOf_pathLabel` is that they give the segments of a label, and
  `getElem?_hide` says which of them are hidden.
* `labels` — what is neither a number nor behind the name of an entity stays as it is.  Numbers are left
  exactly if two stand together: the second is passed over with the first.  `number_left` is such a path.
-/

set_option autoImplicit false

namespace Biblio
namespace Metrics

/-! ## What is passed over -/

/-- Whether a place is passed over from left to right: something that fits at a place takes the next
one with it, unless the place has been passed over itself. -/
def passedOver (fits : Nat → Bool) : Nat → Bool
  | 0 => false
  | i + 1 => fits i && !passedOver fits i

variable {fits : Nat → Bool} {ss : List (List Char)} {i : Nat}

@[simp] theorem passedOver_zero : passedOver fits 0 = false := rfl

theorem passedOver_succ : passedOver fits (i + 1) = (fits i && !passedOver fits i) := rfl

theorem passedOver_succ_eq_true_iff :
    passedOver fits (i + 1) = true ↔ fits i = true ∧ passedOver fits i = false := by
  simp [passedOver_succ]

/-- What fits at the first place takes the second with it, -/
theorem passedOver_of_fits (h : fits 0 = true) (i : Nat) :
    passedOver fits (i + 2) = passedOver (fun j => fits (j + 2)) i := by
  induction i with
  | zero => simp [passedOver_succ, h]
  | succ i ih => rw [passedOver_succ, ih, passedOver_succ]

/-- and without that one begins anew at the second. -/
theorem passedOver_of_not_fits (h : fits 0 = false) (i : Nat) :
    passedOver fits (i + 1) = passedOver (fun j => fits (j + 1)) i := by
  induction i with
  | zero => simp [passedOver_succ, h]
  | succ i ih => rw [passedOver_succ, ih, passedOver_succ]

/-! ## Identifiers -/

/-- At a segment stands the name of an entity, and something behind it. -/
def namesEntity (ss : List (List Char)) (i : Nat) : Bool :=
  entityNames.contains (ss.getD i []) && !(ss.getD (i + 1) []).isEmpty

/-- A segment is what the name of an entity before it is the name of. -/
def isIdentifier (ss : List (List Char)) : Nat → Bool := passedOver (namesEntity ss)

theorem not_isEmpty_of_isIdentifier (h : isIdentifier ss i = true) :
    ∃ s, ss[i]? = some s ∧ s ≠ [] := by
  cases i with
  | zero => exact nomatch h
  | succ i =>
    have hnames := (passedOver_succ_eq_true_iff.mp h).1
    rw [namesEntity, List.getD_eq_getElem?_getD, List.getD_eq_getElem?_getD] at hnames
    cases hs : ss[i + 1]? with
    | none => simp [hs] at hnames
    | some s => exact ⟨s, rfl, by simpa [hs] using (Bool.and_eq_true_iff.mp hnames).2⟩

/-- Before an identifier stands the name of an entity. -/
theorem exists_name_of_isIdentifier (h : isIdentifier ss (i + 1) = true) :
    ∃ name ∈ entityNames, ss[i]? = some name := by
  have hnames := (Bool.and_eq_true_iff.mp (passedOver_succ_eq_true_iff.mp h).1).1
  rw [List.getD_eq_getElem?_getD, List.contains_iff_mem] at hnames
  cases hs : ss[i]? with
  | none =>
    rw [hs] at hnames
    exact absurd hnames (by decide)
  | some name => exact ⟨name, by rwa [hs] at hnames, rfl⟩

/-- **Hiding identifiers**, segment by segment. -/
theorem getElem?_hideEntities (ss : List (List Char)) (i : Nat) :
    (hideEntities ss)[i]? = if isIdentifier ss i then some placeholder else ss[i]? := by
  fun_induction hideEntities ss generalizing i with
  | case1 s t rest hname ih =>
    have hfits : namesEntity (s :: t :: rest) 0 = true := hname
    obtain _ | _ | i := i
    · rfl
    · exact (if_pos (passedOver_succ_eq_true_iff.mpr ⟨hfits, rfl⟩)).symm
    · have hrest : isIdentifier (s :: t :: rest) (i + 2) = isIdentifier rest i :=
        passedOver_of_fits hfits i
      rw [hrest]
      exact ih i
  | case2 s t rest hname ih =>
    have hfits : namesEntity (s :: t :: rest) 0 = false := Bool.eq_false_iff.mpr hname
    cases i with
    | zero => rfl
    | succ i =>
      have hrest : isIdentifier (s :: t :: rest) (i + 1) = isIdentifier (t :: rest) i :=
        passedOver_of_not_fits hfits i
      rw [hrest]
      exact ih i
  | case3 ss hshort =>
    refine (if_neg fun hidentifier => ?_).symm
    -- a segment and a name before it are two segments
    obtain ⟨s, hs, -⟩ := not_isEmpty_of_isIdentifier hidentifier
    cases i with
    | zero => exact Bool.false_ne_true hidentifier
    | succ i =>
      obtain _ | ⟨s, _ | ⟨t, rest⟩⟩ := ss
      · simp at hs
      · simp at hs
      · exact hshort s t rest rfl

/-! ## Numbers -/

/-- At a segment stands a number. -/
def numberAt (ss : List (List Char)) (i : Nat) : Bool := isNumber (ss.getD i [])

theorem numberAt_eq_true_iff : numberAt ss i = true ↔ ∃ s, ss[i]? = some s ∧ isNumber s = true := by
  rw [numberAt, List.getD_eq_getElem?_getD]
  cases ss[i]? with
  | none => exact iff_of_false (by decide) (fun ⟨_, h, _⟩ => nomatch h)
  | some s => simp

/-- **Hiding numbers**, segment by segment. -/
theorem getElem?_hideNumbers (ss : List (List Char)) (i : Nat) :
    (hideNumbers ss)[i]? =
      if numberAt ss i && !passedOver (numberAt ss) i then some placeholder else ss[i]? := by
  fun_induction hideNumbers ss generalizing i with
  | case1 => simp [numberAt, isNumber]
  | case2 s =>
    cases i with
    | zero => by_cases hs : isNumber s = true <;> simp [numberAt, hs]
    | succ i => simp [numberAt, isNumber]
  | case3 s t rest hnumber ih =>
    have hfits : numberAt (s :: t :: rest) 0 = true := hnumber
    obtain _ | _ | i := i
    · rw [hfits]
      rfl
    · rw [passedOver_succ, hfits, passedOver_zero, Bool.not_false, Bool.and_true, Bool.not_true,
        Bool.and_false]
      rfl
    · have hrest : passedOver (numberAt (s :: t :: rest)) (i + 2) = passedOver (numberAt rest) i :=
        passedOver_of_fits hfits i
      rw [hrest]
      exact ih i
  | case4 s t rest hnumber ih =>
    have hfits : numberAt (s :: t :: rest) 0 = false := Bool.eq_false_iff.mpr hnumber
    cases i with
    | zero =>
      rw [hfits]
      rfl
    | succ i =>
      have hrest : passedOver (numberAt (s :: t :: rest)) (i + 1) =
          passedOver (numberAt (t :: rest)) i := passedOver_of_not_fits hfits i
      rw [hrest]
      exact ih i

theorem length_hideEntities (ss : List (List Char)) : (hideEntities ss).length = ss.length := by
  fun_induction hideEntities ss with
  | case1 s t rest hname ih => rw [List.length_cons, List.length_cons, ih]; rfl
  | case2 s t rest hname ih => rw [List.length_cons, ih, ← List.length_cons]
  | case3 ss hshort => rfl

theorem length_hideNumbers (ss : List (List Char)) : (hideNumbers ss).length = ss.length := by
  fun_induction hideNumbers ss with
  | case1 => rfl
  | case2 s => rfl
  | case3 s t rest hnumber ih => rw [List.length_cons, List.length_cons, ih]; rfl
  | case4 s t rest hnumber ih => rw [List.length_cons, ih, ← List.length_cons]

/-! ## Labels -/

/-- At a segment stands a number that is not an identifier. -/
def numberLeft (ss : List (List Char)) (i : Nat) : Bool := numberAt ss i && !isIdentifier ss i

/-- Whether a segment does not appear in the label: it is an identifier, or a number that is not
passed over with another one. -/
def isHidden (ss : List (List Char)) (i : Nat) : Bool :=
  isIdentifier ss i || numberLeft ss i && !passedOver (numberLeft ss) i

theorem isHidden_eq_false_iff : isHidden ss i = false ↔
    isIdentifier ss i = false ∧ (numberAt ss i = true → passedOver (numberLeft ss) i = true) := by
  rw [isHidden, numberLeft]
  cases isIdentifier ss i <;> cases numberAt ss i <;> simp

theorem isNumber_placeholder : isNumber placeholder = false := by decide

/-- A placeholder is no number. -/
theorem numberAt_of_getElem? {hidden : Bool} {ts : List (List Char)}
    (h : ts[i]? = if hidden then some placeholder else ss[i]?) :
    numberAt ts i = (numberAt ss i && !hidden) := by
  rw [numberAt, List.getD_eq_getElem?_getD, h]
  cases hidden with
  | true => rw [Bool.not_true, Bool.and_false]; exact isNumber_placeholder
  | false => rw [Bool.not_false, Bool.and_true, numberAt, List.getD_eq_getElem?_getD]; rfl

/-- Numbers are looked for among the segments that identifiers have been hidden from. -/
theorem numberAt_hideEntities (ss : List (List Char)) : numberAt (hideEntities ss) = numberLeft ss :=
  funext fun i => numberAt_of_getElem? (getElem?_hideEntities ss i)

/-- Both passes. -/
def hide (ss : List (List Char)) : List (List Char) := hideNumbers (hideEntities ss)

/-- **Both passes**, segment by segment. -/
theorem getElem?_hide (ss : List (List Char)) (i : Nat) :
    (hide ss)[i]? = if isHidden ss i then some placeholder else ss[i]? := by
  rw [hide, getElem?_hideNumbers, numberAt_hideEntities, getElem?_hideEntities, isHidden]
  cases isIdentifier ss i <;> cases numberLeft ss i && !passedOver (numberLeft ss) i <;> rfl

theorem length_hide (ss : List (List Char)) : (hide ss).length = ss.length := by
  rw [hide, length_hideNumbers, length_hideEntities]

theorem hide_nil_cons (ss : List (List Char)) : hide ([] :: ss) = [] :: hide ss := by
  have hentities : hideEntities ([] :: ss) = [] :: hideEntities ss := by cases ss <;> rfl
  rw [hide, hide, hentities]
  cases hideEntities ss <;> rfl

theorem slash_not_mem_of_mem_hide {s : List Char} (hss : ∀ s ∈ ss, '/' ∉ s) (h : s ∈ hide ss) :
    '/' ∉ s := by
  rcases eq_or_mem_of_mem_hideNumbers h with rfl | h
  · exact slash_not_mem_placeholder
  · rcases eq_or_mem_of_mem_hideEntities h with rfl | h
    · exact slash_not_mem_placeholder
    · exact hss s h

/-- The label of a path that begins with a slash. -/
theorem pathLabel_slash (rest : String) :
    pathLabel ("/" ++ rest) = String.ofList (joinSegments ([] :: hide (segmentsOf rest))) := by
  rw [pathLabel, ← segmentsOf, segmentsOf_slash]
  rfl

/-- **The segments of a label.** -/
theorem segmentsOf_pathLabel (rest : String) :
    segmentsOf (pathLabel ("/" ++ rest)) = hide (segmentsOf ("/" ++ rest)) := by
  rw [pathLabel_slash, ← hide_nil_cons, ← segmentsOf_slash, segmentsOf, String.toList_ofList]
  refine segments_joinSegments ?_ fun s hs => slash_not_mem_of_mem_hide ?_ hs
  · rw [segmentsOf_slash, hide_nil_cons]
    exact List.cons_ne_nil _ _
  · exact fun s hs => not_mem_of_mem_segments hs

/-- A label begins with a slash. -/
theorem exists_pathLabel_eq (rest : String) : ∃ label, pathLabel ("/" ++ rest) = "/" ++ label := by
  obtain ⟨t, ts, hlater⟩ : ∃ t ts, hide (segmentsOf rest) = t :: ts := by
    refine List.exists_cons_of_ne_nil (List.ne_nil_of_length_pos ?_)
    rw [length_hide, segmentsOf, segments_eq_splitOn]
    exact List.length_pos_iff.mpr (List.splitOn_ne_nil _ _)
  refine ⟨String.ofList (t ++ trail ts), ?_⟩
  rw [pathLabel_slash, hlater, joinSegments_cons, List.nil_append, trail_cons, ← List.singleton_append,
    String.ofList_append]

/-! ### Numbers that are left -/

/-- Two numbers stand side by side, and the first of them is not an identifier. -/
def NumbersTogether (ss : List (List Char)) : Prop :=
  ∃ i, numberLeft ss i = true ∧ numberAt ss (i + 1) = true

/-- What stands behind a number is not an identifier. -/
theorem isIdentifier_succ_of_number (h : numberAt ss i = true) : isIdentifier ss (i + 1) = false := by
  refine Bool.eq_false_iff.mpr fun hidentifier => ?_
  obtain ⟨name, hname, hs⟩ := exists_name_of_isIdentifier hidentifier
  obtain ⟨s, hs', hnumber⟩ := numberAt_eq_true_iff.mp h
  obtain rfl := Option.some.inj (hs.symm.trans hs')
  have hwords : ∀ s ∈ entityNames, isNumber s = false := by decide
  rw [hwords name hname] at hnumber
  exact nomatch hnumber

theorem numberAt_hide_iff :
    numberAt (hide ss) i = true ↔ numberAt ss i = true ∧ isHidden ss i = false := by
  rw [numberAt_of_getElem? (getElem?_hide ss i), Bool.and_eq_true_iff, Bool.not_eq_true']

/-- A number that is left is passed over. -/
theorem passedOver_of_numberAt_hide (h : numberAt (hide ss) i = true) :
    passedOver (numberLeft ss) i = true := by
  obtain ⟨hnumber, hvisible⟩ := numberAt_hide_iff.mp h
  exact (isHidden_eq_false_iff.mp hvisible).2 hnumber

theorem exists_isNumber_iff : (∃ s ∈ ss, isNumber s = true) ↔ ∃ i, numberAt ss i = true := by
  simp only [numberAt_eq_true_iff, List.mem_iff_getElem?]
  exact ⟨fun ⟨s, ⟨i, hi⟩, hs⟩ => ⟨i, s, hi, hs⟩, fun ⟨i, s, hi, hs⟩ => ⟨s, ⟨i, hi⟩, hs⟩⟩

/-- **A number is left exactly if two stand together.** -/
theorem exists_number_hide_iff : (∃ s ∈ hide ss, isNumber s = true) ↔ NumbersTogether ss := by
  rw [exists_isNumber_iff]
  constructor
  · rintro ⟨i, hi⟩
    have hpassed := passedOver_of_numberAt_hide hi
    cases i with
    | zero => exact nomatch hpassed
    | succ i => exact ⟨i, (passedOver_succ_eq_true_iff.mp hpassed).1, (numberAt_hide_iff.mp hi).1⟩
  · rintro ⟨i, hfirst, hsecond⟩
    obtain ⟨hnumber, hidentifier⟩ : numberAt ss i = true ∧ isIdentifier ss i = false := by
      simpa [numberLeft] using hfirst
    by_cases hpassed : passedOver (numberLeft ss) i = true
    · exact ⟨i, numberAt_hide_iff.mpr
        ⟨hnumber, isHidden_eq_false_iff.mpr ⟨hidentifier, fun _ => hpassed⟩⟩⟩
    · have hnext : passedOver (numberLeft ss) (i + 1) = true :=
        passedOver_succ_eq_true_iff.mpr ⟨hfirst, Bool.eq_false_iff.mpr hpassed⟩
      exact ⟨i + 1, numberAt_hide_iff.mpr ⟨hsecond, isHidden_eq_false_iff.mpr
        ⟨isIdentifier_succ_of_number hnumber, fun _ => hnext⟩⟩⟩

/-- Of two numbers that stand together one is hidden. -/
theorem not_numbersTogether_hide (ss : List (List Char)) : ¬ NumbersTogether (hide ss) := by
  rintro ⟨i, hfirst, hsecond⟩
  have hpassed := passedOver_of_numberAt_hide (Bool.and_eq_true_iff.mp hfirst).1
  have hnext := (passedOver_succ_eq_true_iff.mp (passedOver_of_numberAt_hide hsecond)).2
  exact nomatch hpassed.symm.trans hnext

/-! ### Labels of labels -/

/-- In a label no further identifiers are hidden. -/
theorem hideEntities_hide (ss : List (List Char)) :
    hideEntities (hide ss) = hide ss := by
  refine List.ext_getElem? fun i => ?_
  rw [getElem?_hideEntities]
  split
  · next hidentifier =>
    cases i with
    | zero => exact nomatch hidentifier
    | succ i =>
      obtain ⟨name, hname, hi⟩ := exists_name_of_isIdentifier hidentifier
      obtain ⟨s, hs, hne⟩ := not_isEmpty_of_isIdentifier hidentifier
      rw [getElem?_hide] at hi hs ⊢
      split at hi
      · -- the placeholder is not the name of an entity
        rw [← Option.some.inj hi] at hname
        exact absurd hname (by decide)
      · next hvisible =>
        have hbefore := (isHidden_eq_false_iff.mp (Bool.eq_false_iff.mpr hvisible)).1
        split at hs
        · next hhidden => rw [if_pos hhidden]
        · have hnames : namesEntity ss i = true := by
            rw [namesEntity, List.getD_eq_getElem?_getD, List.getD_eq_getElem?_getD, hi, hs]
            simpa [hname] using hne
          have hhidden : isIdentifier ss (i + 1) = true :=
            passedOver_succ_eq_true_iff.mpr ⟨hnames, hbefore⟩
          rw [if_pos (by rw [isHidden, hhidden]; rfl)]
  · rfl

theorem hideNumbers_eq_self_iff : hideNumbers ss = ss ↔ ∀ s ∈ ss, isNumber s = false := by
  have hplaceholder {s : List Char} (hs : isNumber s = true) : placeholder ≠ s := by
    rintro rfl
    exact nomatch isNumber_placeholder.symm.trans hs
  fun_induction hideNumbers ss with
  | case1 => simp
  | case2 s => by_cases hs : isNumber s = true <;> simp [hs, hplaceholder]
  | case3 s t rest hnumber ih => simp [hnumber, hplaceholder hnumber]
  | case4 s t rest hnumber ih => simp [hnumber, ih]

/-- **Hiding again changes nothing** exactly if no number has been left. -/
theorem hide_hide_eq_self_iff : hide (hide ss) = hide ss ↔ ¬ NumbersTogether ss := by
  have hagain : hide (hide ss) = hideNumbers (hide ss) := congrArg hideNumbers (hideEntities_hide ss)
  rw [hagain, hideNumbers_eq_self_iff, ← exists_number_hide_iff]
  simp

/-! ### The promise -/

/-- What is promised of the label of a path. -/
structure Labels (path : String) : Prop where
  /-- There are as many segments. -/
  length : (segmentsOf (pathLabel path)).length = (segmentsOf path).length
  /-- Each of them is hidden or stays as it is. -/
  segment : ∀ i, (segmentsOf (pathLabel path))[i]? =
    if isHidden (segmentsOf path) i then some placeholder else (segmentsOf path)[i]?
  /-- What is neither a number nor right behind the name of an entity stays as it is. -/
  kept : ∀ i s, (segmentsOf path)[i]? = some s → isNumber s = false →
    (∀ j, i = j + 1 → ∀ name ∈ entityNames, (segmentsOf path)[j]? ≠ some name) →
      (segmentsOf (pathLabel path))[i]? = some s
  /-- Numbers are left exactly if two stand together, -/
  number_iff : (∃ s ∈ segmentsOf (pathLabel path), isNumber s = true) ↔
    NumbersTogether (segmentsOf path)
  /-- and only then the label has another label. -/
  again_iff : pathLabel (pathLabel path) = pathLabel path ↔ ¬ NumbersTogether (segmentsOf path)
  /-- That one has no numbers. -/
  twice : ∀ s ∈ segmentsOf (pathLabel (pathLabel path)), isNumber s = false
  /-- In the text this is what the rule for entities makes of the path, and the rule for numbers of
  that. -/
  text : pathLabel path =
    String.ofList (substitute numberRule (substitute entityRule path.toList))

/-- **The label of a path** hides all identifiers and all numbers that stand alone, and nothing else. -/
theorem labels (rest : String) : Labels ("/" ++ rest) := by
  have hlabel := segmentsOf_pathLabel rest
  have hagain : segmentsOf (pathLabel (pathLabel ("/" ++ rest))) =
      hide (hide (segmentsOf ("/" ++ rest))) := by
    obtain ⟨label, hslash⟩ := exists_pathLabel_eq rest
    rw [hslash, segmentsOf_pathLabel, ← hslash, hlabel]
  constructor
  case length => rw [hlabel, length_hide]
  case segment => exact fun i => by rw [hlabel, getElem?_hide]
  case kept =>
    intro i s hs hnumber hname
    have hidentifier : isIdentifier (segmentsOf ("/" ++ rest)) i = false := by
      refine Bool.eq_false_iff.mpr fun h => ?_
      cases i with
      | zero => exact nomatch h
      | succ i =>
        obtain ⟨name, hmem, hi⟩ := exists_name_of_isIdentifier h
        exact hname i rfl name hmem hi
    have hvisible : isHidden (segmentsOf ("/" ++ rest)) i = false := by
      refine isHidden_eq_false_iff.mpr ⟨hidentifier, fun hat => ?_⟩
      obtain ⟨t, ht, htrue⟩ := numberAt_eq_true_iff.mp hat
      obtain rfl := Option.some.inj (hs.symm.trans ht)
      exact nomatch hnumber.symm.trans htrue
    rw [hlabel, getElem?_hide, hvisible]
    exact hs
  case number_iff => rw [hlabel, exists_number_hide_iff]
  case again_iff => rw [← segmentsOf_injective.eq_iff, hagain, hlabel, hide_hide_eq_self_iff]
  case twice =>
    have hnone := mt exists_number_hide_iff.mp (not_numbersTogether_hide (segmentsOf ("/" ++ rest)))
    rw [hagain]
    exact fun s hs => Bool.eq_false_iff.mpr fun hnumber => hnone ⟨s, hs, hnumber⟩
  case text => exact pathLabel_eq_substitute _

/-- Of two numbers that stand together the second is left, and hidden in the label of the label. -/
theorem number_left : segmentsOf "/1/2" = [[], ['1'], ['2']] ∧ pathLabel "/1/2" = "/\x7bid\x7d/2" ∧
    ['2'] ∈ segmentsOf (pathLabel "/1/2") ∧ isNumber ['2'] = true ∧
    pathLabel (pathLabel "/1/2") = "/\x7bid\x7d/\x7bid\x7d" ∧
    pathLabel (pathLabel "/1/2") ≠ pathLabel "/1/2" := by
  decide

end Metrics
end Biblio
