import Biblio.Decimal.Binary
import Biblio.Decimal.Digits

/-!
# Fixed decimal places

`fixedText places x` writes a double with a fixed number of decimal places, rounded from its exact
value; a tie goes to the even digit.
-/

set_option autoImplicit false

namespace Biblio
namespace Decimal

/-- The quotient rounded to the nearest natural number, ties to even. -/
def roundDiv (num den : Nat) : Nat :=
  let q := num / den
  let r := num % den
  if 2 * r < den then q
  else if den < 2 * r then q + 1
  else if q % 2 = 0 then q
  else q + 1

/-- A natural number of units of `10 ^ -places`, written with its point. -/
def withPlaces (places units : Nat) : List Char :=
  if places = 0 then digits units
  else digits (units / Nat.pow 10 places) ++ '.' :: padded places (units % Nat.pow 10 places)

/-- A double with a fixed number of decimal places. -/
def fixedText (places : Nat) (x : Float) : String :=
  match ofFloat x with
  | .nan => "NaN"
  | .infinite negative => if negative then "-inf" else "inf"
  | .finite v =>
    let scaled := v.mantissa * Nat.pow 10 places
    let units :=
      if 0 ≤ v.exponent then scaled * Nat.pow 2 v.exponent.toNat
      else roundDiv scaled (Nat.pow 2 (-v.exponent).toNat)
    let body := withPlaces places units
    String.ofList (if v.negative then '-' :: body else body)

end Decimal
end Biblio
