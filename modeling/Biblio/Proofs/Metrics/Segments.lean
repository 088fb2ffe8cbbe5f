import Biblio.Metrics.PathLabel
import Mathlib.Data.List.TakeWhile

/-!
# Segments of paths

A path is its segments, so what is done to the segments of a path can also be done in its text.

* `segments_eq_splitOn` and `joinSegments_eq_intercalate` — segments are what stands between the
  slashes; `segmentsOf_injective` is that a path has no more to it.
* `substitute` applies a rule to a text wherever it applies, from the left, and goes on behind what the
  rule has taken.
* `entityRule` takes the name of an entity and the segment behind it, each with the slash in front.
  `numberRule` takes a number with both the slash in front and the one behind.
* `pathLabel_eq_substitute` — a label is what the two rules make of the text of a path.
-/

set_option autoImplicit false

namespace Biblio
namespace Metrics

theorem segments_eq_splitOn (cs : List Char) : segments cs = cs.splitOn '/' := by
  induction cs with
  | nil => rfl
  | cons c cs ih =>
    rw [segments, List.splitOn_cons_eq_if_modifyHead, ← ih]
    by_cases hc : c = '/'
    · rw [if_pos hc, if_pos (beq_iff_eq.mpr hc)]
    · rw [if_neg hc, if_neg (mt beq_iff_eq.mp hc)]
      cases hcs : segments cs with
      | nil => exact absurd (ih ▸ hcs) (List.splitOn_ne_nil _ _)
      | cons s ss => rfl

theorem joinSegments_eq_intercalate (ss : List (List Char)) :
    joinSegments ss = ['/'].intercalate ss := by
  induction ss with
  | nil => rfl
  | cons s ss ih =>
    cases ss with
    | nil => exact (List.append_nil s).symm
    | cons t ss =>
      rw [joinSegments, ih]
      · rfl
      · exact List.cons_ne_nil t ss

theorem joinSegments_segments (cs : List Char) : joinSegments (segments cs) = cs := by
  rw [joinSegments_eq_intercalate, segments_eq_splitOn, List.intercalate_splitOn]

theorem segments_joinSegments {ss : List (List Char)} (hne : ss ≠ []) (h : ∀ s ∈ ss, '/' ∉ s) :
    segments (joinSegments ss) = ss := by
  rw [joinSegments_eq_intercalate, segments_eq_splitOn, List.splitOn_intercalate _ h hne]

/-- No segment has a slash. -/
theorem not_mem_of_mem_segments {cs s : List Char} (h : s ∈ segments cs) : '/' ∉ s := by
  induction cs generalizing s with
  | nil => simp [List.mem_singleton.mp h]
  | cons c cs ih =>
    rw [segments] at h
    split at h
    · rcases List.mem_cons.mp h with rfl | h
      · exact List.not_mem_nil
      · exact ih h
    · next hc =>
      split at h
      · next hcs => exact absurd (segments_eq_splitOn cs ▸ hcs) (List.splitOn_ne_nil _ _)
      · next t ts hcs =>
        rw [hcs] at ih
        rcases List.mem_cons.mp h with rfl | h
        · exact fun hmem => (List.mem_cons.mp hmem).elim (fun heq => hc heq.symm)
            (ih List.mem_cons_self)
        · exact ih (List.mem_cons_of_mem t h)

/-- The segments of a path.  In front of a slash at the beginning there is an empty one. -/
def segmentsOf (path : String) : List (List Char) := segments path.toList

theorem segmentsOf_slash (rest : String) : segmentsOf ("/" ++ rest) = [] :: segmentsOf rest := by
  rw [segmentsOf, String.toList_append]
  rfl

theorem segmentsOf_injective : Function.Injective segmentsOf := fun p q h => by
  rw [← String.toList_inj, ← joinSegments_segments p.toList, ← joinSegments_segments q.toList]
  exact congrArg joinSegments h

theorem slash_not_mem_placeholder : '/' ∉ placeholder := by decide

theorem eq_or_mem_of_mem_hideEntities {ss : List (List Char)} {s : List Char}
    (h : s ∈ hideEntities ss) : s = placeholder ∨ s ∈ ss := by
  fun_induction hideEntities ss with
  | case1 t u rest hname ih => grind
  | case2 t u rest hname ih => grind
  | case3 ss hshort => exact .inr h

theorem eq_or_mem_of_mem_hideNumbers {ss : List (List Char)} {s : List Char}
    (h : s ∈ hideNumbers ss) : s = placeholder ∨ s ∈ ss := by
  fun_induction hideNumbers ss with
  | case1 => exact .inr h
  | case2 t => grind
  | case3 t u rest hnumber ih => grind
  | case4 t u rest hnumber ih => grind

/-- Segments with a slash in front of each. -/
def trail (ss : List (List Char)) : List Char := ss.flatMap ('/' :: ·)

@[simp] theorem trail_nil : trail [] = [] := rfl

@[simp] theorem trail_cons (s : List Char) (ss : List (List Char)) :
    trail (s :: ss) = '/' :: (s ++ trail ss) := rfl

theorem joinSegments_cons (s : List Char) (ss : List (List Char)) :
    joinSegments (s :: ss) = s ++ trail ss := by
  induction ss generalizing s with
  | nil => exact (List.append_nil s).symm
  | cons t ss ih =>
    rw [joinSegments, ih, trail_cons]
    exact List.cons_ne_nil t ss

/-! ## Rules for texts -/

/-- A rule may apply at the beginning of a text.  It says what takes the place of the first character
and of how many more. -/
abbrev Rule := List Char → Option (List Char × Nat)

/-- Applies a rule from the left; what it has taken is not looked at again. -/
def substitute (rule : Rule) : List Char → List Char
  | [] => []
  | c :: cs =>
    match rule (c :: cs) with
    | some (new, more) => new ++ substitute rule (cs.drop more)
    | none => c :: substitute rule cs
termination_by cs => cs.length
decreasing_by
  · rw [List.length_drop, List.length_cons]
    lia
  · exact Nat.lt_succ_self _

/-- A slash, the name of an entity, another slash and a segment: the segment is replaced. -/
def entityRule : Rule
  | [] => none
  | c :: cs =>
    let name := cs.takeWhile (· ≠ '/')
    let behind := (cs.drop (name.length + 1)).takeWhile (· ≠ '/')
    if c = '/' ∧ name ∈ entityNames ∧ behind ≠ [] then
      some ('/' :: (name ++ '/' :: placeholder), name.length + 1 + behind.length)
    else none

/-- A slash, digits, and another slash or the end: the digits are replaced. -/
def numberRule : Rule
  | [] => none
  | c :: cs =>
    let digits := cs.takeWhile Char.isDigit
    let behind := cs.drop digits.length
    if c = '/' ∧ digits ≠ [] ∧ (behind = [] ∨ behind.head? = some '/') then
      some ('/' :: (placeholder ++ behind.take 1), digits.length + 1)
    else none

variable {rule : Rule} {c : Char} {cs s t : List Char} {ss rest : List (List Char)}

@[simp] theorem substitute_nil (rule : Rule) : substitute rule [] = [] := by rw [substitute]

theorem substitute_of_some {new : List Char} {more : Nat} (h : rule (c :: cs) = some (new, more)) :
    substitute rule (c :: cs) = new ++ substitute rule (cs.drop more) := by
  rw [substitute, h]

theorem substitute_of_none (h : rule (c :: cs) = none) :
    substitute rule (c :: cs) = c :: substitute rule cs := by
  rw [substitute, h]

/-- A rule that needs a slash leaves the characters of a segment as they are. -/
theorem substitute_append (hrule : ∀ c cs, c ≠ '/' → rule (c :: cs) = none) (hs : '/' ∉ s)
    (cs : List Char) : substitute rule (s ++ cs) = s ++ substitute rule cs := by
  induction s with
  | nil => rfl
  | cons c s ih =>
    obtain ⟨hc, hs⟩ := not_or.mp (mt List.mem_cons.mpr hs)
    rw [List.cons_append, substitute_of_none (hrule c _ (Ne.symm hc)), ih hs, List.cons_append]

/-! ### The rule for entities -/

theorem entityRule_of_ne (h : c ≠ '/') : entityRule (c :: cs) = none :=
  if_neg fun hrule => h hrule.1

/-- A segment ends before the next slash. -/
theorem takeWhile_segment (hs : '/' ∉ s) (ss : List (List Char)) :
    (s ++ trail ss).takeWhile (· ≠ '/') = s := by
  rw [List.takeWhile_append_of_pos]
  · cases ss with
    | nil => exact List.append_nil s
    | cons t ss => simp
  · intro c hc
    exact decide_eq_true fun heq => hs (heq ▸ hc)

theorem entityRule_last (hs : '/' ∉ s) : entityRule ('/' :: (s ++ trail [])) = none := by
  refine if_neg fun hrule => hrule.2.2 ?_
  rw [takeWhile_segment hs, trail_nil, List.append_nil, List.drop_of_length_le (Nat.le_succ _)]
  rfl

theorem entityRule_trail (hs : '/' ∉ s) (ht : '/' ∉ t) (rest : List (List Char)) :
    entityRule ('/' :: (s ++ trail (t :: rest))) =
      if entityNames.contains s && !t.isEmpty then
        some ('/' :: (s ++ '/' :: placeholder), s.length + 1 + t.length)
      else none := by
  have hdrop : (s ++ trail (t :: rest)).drop (s.length + 1) = t ++ trail rest := by
    rw [trail_cons, List.drop_append, Nat.add_sub_cancel_left, List.drop_of_length_le (Nat.le_succ _)]
    rfl
  simp only [entityRule, takeWhile_segment hs, hdrop, takeWhile_segment ht]
  refine if_congr ?_ rfl rfl
  simp

theorem substitute_entityRule (hss : ∀ s ∈ ss, '/' ∉ s) :
    substitute entityRule (trail ss) = trail (hideEntities ss) := by
  fun_induction hideEntities ss with
  | case1 s t rest hname ih =>
    obtain ⟨hs, htail⟩ := List.forall_mem_cons.mp hss
    obtain ⟨ht, hrest⟩ := List.forall_mem_cons.mp htail
    have hrule := entityRule_trail hs ht rest
    rw [if_pos hname] at hrule
    have hdrop : (s ++ trail (t :: rest)).drop (s.length + 1 + t.length) = trail rest := by
      rw [trail_cons, List.append_cons, ← List.append_assoc]
      exact List.drop_left' (by rw [List.length_append, List.length_append, List.length_singleton])
    rw [trail_cons, substitute_of_some hrule, hdrop, ih hrest]
    simp
  | case2 s t rest hname ih =>
    obtain ⟨hs, htail⟩ := List.forall_mem_cons.mp hss
    have hrule := entityRule_trail hs (List.forall_mem_cons.mp htail).1 rest
    rw [if_neg hname] at hrule
    rw [trail_cons, substitute_of_none hrule, substitute_append (fun _ _ => entityRule_of_ne) hs,
      ih htail, trail_cons]
  | case3 ss hshort =>
    match ss, hshort with
    | [], _ => exact substitute_nil entityRule
    | [s], _ =>
      have hs : '/' ∉ s := hss s List.mem_cons_self
      rw [trail_cons, substitute_of_none (entityRule_last hs),
        substitute_append (fun _ _ => entityRule_of_ne) hs, trail_nil, substitute_nil]
    | s :: t :: rest, hshort => exact absurd rfl (hshort s t rest)

/-! ### The rule for numbers -/

theorem numberRule_of_ne (h : c ≠ '/') : numberRule (c :: cs) = none :=
  if_neg fun hrule => h hrule.1

theorem takeWhile_digits_trail (ss : List (List Char)) : (trail ss).takeWhile Char.isDigit = [] := by
  cases ss <;> rfl

theorem trail_cases (ss : List (List Char)) : trail ss = [] ∨ (trail ss).head? = some '/' := by
  cases ss with
  | nil => exact .inl rfl
  | cons s ss => exact .inr rfl

theorem numberRule_of_number (hs : isNumber s = true) (ss : List (List Char)) :
    numberRule ('/' :: (s ++ trail ss)) =
      some ('/' :: (placeholder ++ (trail ss).take 1), s.length + 1) := by
  obtain ⟨hne, hdigits⟩ := Bool.and_eq_true_iff.mp hs
  have htake : (s ++ trail ss).takeWhile Char.isDigit = s := by
    rw [List.takeWhile_append_of_pos (List.all_eq_true.mp hdigits), takeWhile_digits_trail,
      List.append_nil]
  have hne : s ≠ [] := by simpa using hne
  simp only [numberRule, htake, List.drop_left]
  exact if_pos ⟨trivial, hne, trail_cases ss⟩

theorem numberRule_of_not_number (hs : '/' ∉ s) (hnumber : ¬ isNumber s = true)
    (ss : List (List Char)) : numberRule ('/' :: (s ++ trail ss)) = none := by
  refine if_neg fun ⟨_, hne, hend⟩ => hnumber ?_
  have hsplit : s.takeWhile Char.isDigit ++ s.dropWhile Char.isDigit = s :=
    List.takeWhile_append_dropWhile
  cases hbehind : s.dropWhile Char.isDigit with
  | nil =>
    have hdigits : s.all Char.isDigit = true := List.all_eq_true.mpr (List.dropWhile_eq_nil_iff.mp hbehind)
    cases s with
    | nil => exact absurd (takeWhile_digits_trail ss) hne
    | cons c s => rw [isNumber, hdigits]; rfl
  | cons x rest =>
    have hx : Char.isDigit x = false := by
      have hnot := List.head?_dropWhile_not Char.isDigit s
      rwa [hbehind] at hnot
    -- the digits end before `x`, which is neither a slash nor the end of the text
    have htext : s ++ trail ss = s.takeWhile Char.isDigit ++ x :: (rest ++ trail ss) := by
      rw [← List.cons_append, ← List.append_assoc, ← hbehind, hsplit]
    have htake : (s ++ trail ss).takeWhile Char.isDigit = s.takeWhile Char.isDigit := by
      rw [htext, List.takeWhile_append_of_pos (List.all_eq_true.mp List.all_takeWhile),
        List.takeWhile_cons_of_neg (Bool.not_eq_true _ ▸ hx), List.append_nil]
    rw [htake, htext, List.drop_left] at hend
    rcases hend with hend | hend
    · exact nomatch hend
    · obtain rfl : x = '/' := Option.some.inj hend
      have hmem : '/' ∈ s.dropWhile Char.isDigit := hbehind ▸ List.mem_cons_self
      exact absurd ((List.dropWhile_sublist _).subset hmem) hs

theorem substitute_numberRule (hss : ∀ s ∈ ss, '/' ∉ s) :
    substitute numberRule (trail ss) = trail (hideNumbers ss) := by
  have hkept {s : List Char} (hs : '/' ∉ s) (hnumber : ¬ isNumber s = true) (ss : List (List Char)) :
      substitute numberRule (trail (s :: ss)) = '/' :: (s ++ substitute numberRule (trail ss)) := by
    rw [trail_cons, substitute_of_none (numberRule_of_not_number hs hnumber ss),
      substitute_append (fun _ _ => numberRule_of_ne) hs]
  fun_induction hideNumbers ss with
  | case1 => exact substitute_nil numberRule
  | case2 s =>
    have hs : '/' ∉ s := hss s List.mem_cons_self
    by_cases hnumber : isNumber s = true
    · rw [if_pos hnumber, trail_cons, substitute_of_some (numberRule_of_number hnumber []), trail_nil,
        List.append_nil, List.drop_of_length_le (Nat.le_succ _), substitute_nil]
      rfl
    · rw [if_neg hnumber, hkept hs hnumber, trail_nil, substitute_nil, trail_cons, trail_nil]
  | case3 s t rest hnumber ih =>
    obtain ⟨hs, htail⟩ := List.forall_mem_cons.mp hss
    obtain ⟨ht, hrest⟩ := List.forall_mem_cons.mp htail
    have hdrop : (s ++ trail (t :: rest)).drop (s.length + 1) = t ++ trail rest := by
      rw [trail_cons, List.append_cons]
      exact List.drop_left' (by simp)
    rw [trail_cons s, substitute_of_some (numberRule_of_number hnumber _), hdrop,
      substitute_append (fun _ _ => numberRule_of_ne) ht, ih hrest]
    simp
  | case4 s t rest hnumber ih =>
    obtain ⟨hs, htail⟩ := List.forall_mem_cons.mp hss
    rw [hkept hs hnumber, ih htail, trail_cons]

/-! ### Labels -/

/-- **A label is what the two rules make of a path**, one after the other. -/
theorem pathLabel_eq_substitute (path : String) :
    pathLabel path = String.ofList (substitute numberRule (substitute entityRule path.toList)) := by
  obtain ⟨s, ss, hsegments⟩ : ∃ s ss, segments path.toList = s :: ss := by
    refine List.exists_cons_of_ne_nil ?_
    rw [segments_eq_splitOn]
    exact List.splitOn_ne_nil _ _
  have hslashes : ∀ t ∈ s :: ss, '/' ∉ t := fun t ht => not_mem_of_mem_segments (hsegments ▸ ht)
  obtain ⟨hs, hss⟩ := List.forall_mem_cons.mp hslashes
  have hhidden : ∀ t ∈ hideEntities ss, '/' ∉ t := fun t ht =>
    (eq_or_mem_of_mem_hideEntities ht).elim (fun heq => heq ▸ slash_not_mem_placeholder) (hss t)
  calc pathLabel path
      = String.ofList (joinSegments (s :: hideNumbers (hideEntities ss))) := by
        rw [pathLabel, hsegments]
        rfl
    _ = String.ofList (substitute numberRule (substitute entityRule (joinSegments (s :: ss)))) := by
        rw [joinSegments_cons, joinSegments_cons,
          substitute_append (fun _ _ => entityRule_of_ne) hs, substitute_entityRule hss,
          substitute_append (fun _ _ => numberRule_of_ne) hs, substitute_numberRule hhidden]
    _ = String.ofList (substitute numberRule (substitute entityRule path.toList)) := by
        rw [← hsegments, joinSegments_segments]

end Metrics
end Biblio
