/-!
# Blanks and words

A blank is a character of the Unicode property `White_Space`.  Everything in the library that
trims a text or cuts it into words does it by this class.

* `words` cuts a text at its blanks; `words_blank_cons` and `words_append_blank` say that blanks
  at the ends do not count, and `infix_of_mem_words` that a word is a block of the text.
* `trim` removes the blanks at both ends.
-/

set_option autoImplicit false

namespace Biblio
namespace Text

/-- The property `White_Space`. -/
def isBlank (c : Char) : Bool :=
  let n := c.toNat
  (0x09 ≤ n && n ≤ 0x0D) || n == 0x20 || n == 0x85 || n == 0xA0 || n == 0x1680 ||
    (0x2000 ≤ n && n ≤ 0x200A) || n == 0x2028 || n == 0x2029 || n == 0x202F || n == 0x205F ||
    n == 0x3000

/-! ## Words -/

/-- The pieces of a text between its blanks, empty ones included. -/
def pieces : List Char → List (List Char)
  | [] => [[]]
  | c :: cs =>
    if isBlank c then [] :: pieces cs
    else match pieces cs with
      | [] => [[c]]
      | w :: ws => (c :: w) :: ws

/-- The maximal runs of characters that are not blank, from left to right. -/
def words (cs : List Char) : List (List Char) :=
  (pieces cs).filter (fun w => !w.isEmpty)

@[simp] theorem words_nil : words [] = [] := rfl

/-- A blank in front does not count. -/
theorem words_blank_cons {c : Char} (h : isBlank c = true) (cs : List Char) :
    words (c :: cs) = words cs := by
  simp [words, pieces, h]

theorem pieces_ne_nil (cs : List Char) : pieces cs ≠ [] := by
  cases cs with
  | nil => simp [pieces]
  | cons c cs =>
    unfold pieces
    split
    · simp
    · split <;> simp

theorem pieces_append_blank {b : Char} (h : isBlank b = true) (cs ds : List Char) :
    pieces (cs ++ b :: ds) = pieces cs ++ pieces ds := by
  induction cs with
  | nil => simp [pieces, h]
  | cons c cs ih =>
    by_cases hc : isBlank c = true
    · simp [pieces, hc, ih]
    · simp only [List.cons_append, pieces, hc, ih]
      cases hp : pieces cs with
      | nil => exact absurd hp (pieces_ne_nil cs)
      | cons w ws => simp

/-- A blank separates: the words on its two sides are the words of the text. -/
theorem words_append_blank {b : Char} (h : isBlank b = true) (cs ds : List Char) :
    words (cs ++ b :: ds) = words cs ++ words ds := by
  simp [words, pieces_append_blank h]

theorem prefix_of_pieces {cs w : List Char} {ws : List (List Char)} (h : pieces cs = w :: ws) :
    w <+: cs ∧ ∀ v ∈ ws, v <:+: cs := by
  induction cs generalizing w ws with
  | nil =>
    obtain ⟨rfl, rfl⟩ := List.cons.inj h
    exact ⟨List.prefix_refl [], fun v hv => nomatch hv⟩
  | cons c cs ih =>
    rw [pieces] at h
    cases hp : pieces cs with
    | nil => exact absurd hp (pieces_ne_nil cs)
    | cons p ps =>
      obtain ⟨hfirst, hrest⟩ := ih hp
      have htail : cs <:+: c :: cs := (List.suffix_cons c cs).isInfix
      rw [hp] at h
      split at h
      · obtain ⟨rfl, rfl⟩ := List.cons.inj h
        refine ⟨List.nil_prefix, fun v hv => List.IsInfix.trans ?_ htail⟩
        rcases List.mem_cons.mp hv with rfl | hv
        · exact hfirst.isInfix
        · exact hrest v hv
      · obtain ⟨rfl, rfl⟩ := List.cons.inj h
        exact ⟨(List.prefix_cons_inj c).mpr hfirst, fun v hv => (hrest v hv).trans htail⟩

/-- A word is a block of the text. -/
theorem infix_of_mem_words {cs w : List Char} (h : w ∈ words cs) : w <:+: cs := by
  have hmem := (List.mem_filter.mp h).1
  cases hp : pieces cs with
  | nil => exact absurd hp (pieces_ne_nil cs)
  | cons p ps =>
    obtain ⟨hfirst, hrest⟩ := prefix_of_pieces hp
    rw [hp] at hmem
    rcases List.mem_cons.mp hmem with rfl | hlater
    · exact hfirst.isInfix
    · exact hrest w hlater

/-- The words of a text, joined again by single spaces. -/
def joinWords : List (List Char) → List Char
  | [] => []
  | [w] => w
  | w :: ws => w ++ ' ' :: joinWords ws

/-! ## Trimming -/

/-- Removes the blanks at the end. -/
def trimEnd (cs : List Char) : List Char := (cs.reverse.dropWhile isBlank).reverse

/-- Removes the blanks at both ends. -/
def trimChars (cs : List Char) : List Char := trimEnd (cs.dropWhile isBlank)

/-- Removes the blanks at both ends of a string. -/
def trim (s : String) : String := String.ofList (trimChars s.toList)

/-- A text of blanks alone. -/
def isAllBlank (s : String) : Bool := s.toList.all isBlank

end Text
end Biblio
