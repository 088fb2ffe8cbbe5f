import Biblio.Decimal.Digits

/-!
# Decimals as doubles

* `nearest m e` is the double that is nearest to `m · 10 ^ e`; it is infinite beyond the range of
  doubles.
* `float?` reads a decimal with a point, an exponent, or both.
-/

set_option autoImplicit false

namespace Biblio
namespace Decimal

/-- From this power of ten on, everything is beyond the range of doubles. -/
def greatestPower : Int := 310

/-- Below this power of ten, everything is nearest to zero. -/
def leastPower : Int := -330

/-- The double nearest to a number with the given digits, times a power of ten. -/
def nearest (digits : Nat) (exponent : Int) : Float :=
  let power := exponent + (Nat.log2 digits / 3 : Nat)
  if digits = 0 then 0
  else if greatestPower ≤ exponent then 1.0 / 0.0
  else if power + 2 < leastPower then 0
  else Float.ofScientific digits (exponent < 0) exponent.natAbs

/-- Takes a sign off, and says whether it was a minus. -/
def takeSign : List Char → Bool × List Char
  | '-' :: rest => (true, rest)
  | '+' :: rest => (false, rest)
  | cs => (false, cs)

/-- An integer with a sign in front. -/
def int? (cs : List Char) : Option Int :=
  let (negative, digits) := takeSign cs
  (ofDigits? digits).map (fun n => if negative then -(n : Int) else n)

/-- The exponent that ends a decimal; zero if there is none. -/
def exponent? : List Char → Option Int
  | [] => some 0
  | c :: rest => if c = 'e' || c = 'E' then int? rest else none

/-- The double that is nearest to a decimal.  There is a digit in front of the point or behind it. -/
def float? (cs : List Char) : Option Float :=
  let (negative, cs) := takeSign cs
  let whole := cs.takeWhile Char.isDigit
  let behind := cs.drop whole.length
  let fraction :=
    match behind with
    | '.' :: rest => rest.takeWhile Char.isDigit
    | _ => []
  let rest :=
    match behind with
    | '.' :: rest => rest.drop fraction.length
    | rest => rest
  if whole.isEmpty && fraction.isEmpty then none
  else
    (exponent? rest).map fun e =>
      let x := nearest (ofDigitsFrom 0 (whole ++ fraction)) (e - (fraction.length : Int))
      if negative then -x else x

end Decimal
end Biblio
