/-!
# Decimal digits of natural numbers

`digits` writes a natural number with the digits `0` to `9`, `ofDigits?` reads one, and `padded`
writes with leading zeros up to a width.  Everything the library prints with digits goes through
here.

* `ofDigits?_snoc` says what one more digit does to the value that is read.
-/

set_option autoImplicit false

namespace Biblio
namespace Decimal

/-- The character of a digit below ten. -/
def digitChar (d : Nat) : Char := Char.ofNat (48 + d % 10)

/-- The value of a digit character; zero for any other. -/
def digitValue : Char → Nat
  | '1' => 1
  | '2' => 2
  | '3' => 3
  | '4' => 4
  | '5' => 5
  | '6' => 6
  | '7' => 7
  | '8' => 8
  | '9' => 9
  | _ => 0

/-- The digits of a number, most significant first; `0` for zero. -/
def digits (n : Nat) : List Char :=
  if n < 10 then [digitChar n] else digits (n / 10) ++ [digitChar n]
termination_by n
decreasing_by omega

/-- The digits as a string. -/
def text (n : Nat) : String := String.ofList (digits n)

/-- The digits of an integer, with a minus sign in front of a negative one. -/
def intText (i : Int) : String :=
  match i with
  | .ofNat n => text n
  | .negSucc n => String.ofList ('-' :: digits (n + 1))

/-- The digits of a number with zeros in front up to a width. -/
def padded (width n : Nat) : List Char :=
  let ds := digits n
  List.replicate (width - ds.length) '0' ++ ds

/-- The value of a run of digits, read on from `acc`. -/
def ofDigitsFrom (acc : Nat) : List Char → Nat
  | [] => acc
  | c :: cs => ofDigitsFrom (10 * acc + digitValue c) cs

/-- The value of a non-empty run of ASCII digits. -/
def ofDigits? (cs : List Char) : Option Nat :=
  if !cs.isEmpty && cs.all Char.isDigit then some (ofDigitsFrom 0 cs) else none

/-- One more digit at the end: ten times the value, plus the digit. -/
theorem ofDigitsFrom_snoc (acc : Nat) (cs : List Char) (c : Char) :
    ofDigitsFrom acc (cs ++ [c]) = 10 * ofDigitsFrom acc cs + digitValue c := by
  induction cs generalizing acc with
  | nil => rfl
  | cons d ds ih => simp [ofDigitsFrom, ih]

end Decimal
end Biblio
