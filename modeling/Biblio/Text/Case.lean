import Biblio.Text.CaseTable

/-!
# Full case mapping

Lower and upper case of a text by the full mappings of Unicode: a character may become several
(`ß` becomes `SS`, `İ` becomes `i` and a dot above), and a capital sigma becomes a final sigma at
the end of a word.

`lower` and `upper` work on lists of characters, `lowercase` and `uppercase` on strings.
-/

set_option autoImplicit false

namespace Biblio
namespace Text

/-- The counterpart of a code point in a table of runs, or the code point itself. -/
def shifted (table : List Shift) (n : Nat) : Nat :=
  (table.findSome? (fun s => s.image? n)).getD n

/-- The expansion of a character if the table has one, else its counterpart in the runs. -/
def mapped (expansions : List (Nat × List Nat)) (shifts : List Shift) (c : Char) : List Char :=
  match expansions.lookup c.toNat with
  | some ns => ns.map Char.ofNat
  | none => [Char.ofNat (shifted shifts c.toNat)]

/-- The lower-case form of a character out of context. -/
def lowerChar (c : Char) : List Char := mapped lowerExpansions lowerShifts c

/-- The upper-case form of a character. -/
def upperChar (c : Char) : List Char := mapped upperExpansions upperShifts c

/-- Membership in a table of ranges. -/
def inRanges (ranges : List (Nat × Nat)) (c : Char) : Bool :=
  ranges.any (fun r => r.1 ≤ c.toNat && c.toNat ≤ r.2)

/-- The property `Cased`. -/
def isCased (c : Char) : Bool := inRanges casedRanges c

/-- The property `Case_Ignorable`. -/
def isIgnorable (c : Char) : Bool := inRanges ignorableRanges c

/-- Whether the first character that case rules do not look past has a case. -/
def reachesCased (cs : List Char) : Bool :=
  match cs.dropWhile isIgnorable with
  | [] => false
  | c :: _ => isCased c

/-- A capital sigma in lower case: final if a letter stands before it in its word and none after
it.  `before` is what precedes it, nearest character first. -/
def lowerSigma (before after : List Char) : Char :=
  if reachesCased before && !reachesCased after then 'ς' else 'σ'

/-- Lower case of a text that follows `before`, which is given nearest character first. -/
def lowerAfter (before : List Char) : List Char → List Char
  | [] => []
  | c :: cs =>
    (if c = 'Σ' then [lowerSigma before cs] else lowerChar c) ++ lowerAfter (c :: before) cs

/-- Lower case of a text. -/
def lower (cs : List Char) : List Char := lowerAfter [] cs

/-- Upper case of a text. -/
def upper (cs : List Char) : List Char := cs.flatMap upperChar

/-- Lower case of a string. -/
def lowercase (s : String) : String := String.ofList (lower s.toList)

/-- Upper case of a string. -/
def uppercase (s : String) : String := String.ofList (upper s.toList)

end Text
end Biblio
