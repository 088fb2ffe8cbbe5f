import Biblio.Text.Blank
import Biblio.Text.Case

/-!
# Keys of texts

Texts that mean the same query are brought to one form before they are looked up or compared.

* `textKey` is the key of free text: lower-case words, single spaces between them.
* `isbnKey` and `asinKey` are the keys of the two product numbers.
* `normalizeName` is the form in which names and titles are matched: like `textKey`, but periods
  and commas do not count at all.
* `looksLikeIsbn` is the shape of an ISBN in any spelling.
-/

set_option autoImplicit false

namespace Biblio
namespace Text

/-- Lower-case words, with a single space between them. -/
def textKey (s : String) : String :=
  String.ofList (joinWords ((words s.toList).map lower))

/-- Neither a hyphen nor a blank: a character that counts in a product number. -/
def countsInNumber (c : Char) : Bool := c != '-' && !isBlank c

/-- Drops hyphens and blanks, and writes the check letter as a capital. -/
def isbnKey (s : String) : String :=
  String.ofList ((s.toList.filter countsInNumber).map Char.toUpper)

/-- Trimmed, in upper case. -/
def asinKey (s : String) : String := uppercase (trim s)

/-- Lower case without periods and commas, with single spaces between the words. -/
def normalizeName (s : String) : String :=
  String.ofList
    (joinWords (words ((lower s.toList).filter (fun c => c != '.' && c != ','))))

/-- Thirteen digits, or nine digits and a check digit, which may be an `X`. -/
def isIsbnShape (cs : List Char) : Bool :=
  match cs.length with
  | 13 => cs.all Char.isDigit
  | 10 => (cs.take 9).all Char.isDigit &&
      (cs.drop 9).all (fun c => c.isDigit || c == 'X' || c == 'x')
  | _ => false

/-- The shape of an ISBN, with hyphens and blanks anywhere. -/
def looksLikeIsbn (s : String) : Bool := isIsbnShape (s.toList.filter countsInNumber)

end Text
end Biblio
