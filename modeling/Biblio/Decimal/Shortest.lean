import Biblio.Decimal.Binary
import Biblio.Decimal.Digits

/-!
# Shortest decimals

The shortest decimal of a binary value is the one with the fewest digits that still reads back as
the same value; of several, the nearest.

* `Interval.of` is the set of reals that round to a value, in quarter units of its last place.
* `shortest` walks down the decimal grids `10 ^ k` and stops at the first that has a point in that
  interval.
* `Layout` says where the positional notation ends; `Layout.render` writes the digits.
-/

set_option autoImplicit false

namespace Biblio
namespace Decimal

/-- The reals that round to a value: from `low` to `high` in units of `2 ^ exponent`, with the
value at `mid`.  The ends belong to it exactly when `closed`. -/
structure Interval where
  low : Nat
  mid : Nat
  high : Nat
  exponent : Int
  closed : Bool

/-- Half a gap on either side of the value; ties go to the even mantissa. -/
def Interval.of (v : Finite) : Interval where
  low := 4 * v.mantissa - (if v.narrow then 1 else 2)
  mid := 4 * v.mantissa
  high := 4 * v.mantissa + 2
  exponent := v.exponent - 2
  closed := v.mantissa % 2 == 0

/-- The point of the grid `10 ^ k` in the interval that is nearest to the value, if there is one.
Both sides of each comparison are multiplied out, so that only natural numbers occur. -/
def Interval.gridPoint? (i : Interval) (k : Int) : Option Nat :=
  let a := Nat.pow 2 i.exponent.toNat * Nat.pow 10 (-k).toNat
  let b := Nat.pow 2 (-i.exponent).toNat * Nat.pow 10 k.toNat
  let holds (d : Nat) : Bool :=
    d != 0 &&
      (if i.closed then i.low * a ≤ d * b && d * b ≤ i.high * a
        else i.low * a < d * b && d * b < i.high * a)
  let d := i.mid * a / b
  let below := i.mid * a - d * b
  let above := (d + 1) * b - i.mid * a
  match holds d, holds (d + 1) with
  | true, true =>
    some (if below < above || (below == above && d % 2 == 0) then d else d + 1)
  | true, false => some d
  | false, true => some (d + 1)
  | false, false => none

/-- The first grid at or below `10 ^ k` that has a point in the interval, with that point. -/
def Interval.search (i : Interval) : Nat → Int → Nat × Int
  | 0, k => (i.mid, k)
  | fuel + 1, k =>
    match i.gridPoint? k with
    | some d => (d, k)
    | none => i.search fuel (k - 1)

/-- The shortest decimal `digits · 10 ^ exponent` of a positive finite value.  The walk starts
above the value and needs no more steps than the value has significant digits. -/
def shortest (v : Finite) : Nat × Int :=
  let i := Interval.of v
  i.search 400 ((i.exponent + 2 + Nat.log2 (v.mantissa + 1)) * 30103 / 100000 + 2)

/-- Where positional notation ends: the decimal point stands at most `right` places to the right
of the first digit, and at most `left` zeros stand between it and the first digit. -/
structure Layout where
  right : Int
  left : Int

/-- The layout of doubles. -/
def doubleLayout : Layout := ⟨16, 5⟩

/-- Writes `d · 10 ^ k`.  Positional notation always shows a point; the exponent has no plus. -/
def Layout.render (l : Layout) (d : Nat) (k : Int) : List Char :=
  let ds := digits d
  let point := ds.length + k
  if 0 ≤ k ∧ point ≤ l.right then
    ds ++ List.replicate k.toNat '0' ++ ['.', '0']
  else if 0 < point ∧ point ≤ l.right then
    ds.take point.toNat ++ '.' :: ds.drop point.toNat
  else if -l.left < point ∧ point ≤ 0 then
    ['0', '.'] ++ List.replicate (-point).toNat '0' ++ ds
  else
    match ds with
    | [c] => c :: 'e' :: (intText (point - 1)).toList
    | c :: cs => c :: '.' :: cs ++ 'e' :: (intText (point - 1)).toList
    | [] => []

/-- The shortest text of a value; none for an infinity or a NaN. -/
def Layout.text? (l : Layout) : Value → Option String
  | .finite v =>
    let magnitude :=
      if v.mantissa = 0 then ['0', '.', '0']
      else
        let (d, k) := shortest v
        l.render d k
    some (String.ofList (if v.negative then '-' :: magnitude else magnitude))
  | _ => none

/-- The shortest text of a double. -/
def floatText? (x : Float) : Option String := doubleLayout.text? (ofFloat x)

end Decimal
end Biblio
