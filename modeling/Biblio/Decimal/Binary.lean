/-!
# Binary floating-point values, taken apart

A finite binary floating-point value is `± mantissa · 2 ^ exponent`.  `Binary.ofFloat` and
`Binary.ofFloat32` read the parts off the bits, so that the printers of `Biblio.Decimal` can work
in exact integer arithmetic.

* `Binary.Value` is what the bits can say: a finite value with its parts, an infinity or a NaN.
* `Finite.narrow` marks the values whose lower neighbour is half as far away as the upper one.
-/

set_option autoImplicit false

namespace Biblio
namespace Decimal

/-- The parts of a finite value `± mantissa · 2 ^ exponent`. -/
structure Finite where
  negative : Bool
  mantissa : Nat
  exponent : Int
  /-- The value is a power of two above the subnormal range, so the gap below it is half as wide
  as the gap above. -/
  narrow : Bool

/-- What the bits of a floating-point value say. -/
inductive Value where
  | finite (parts : Finite)
  | infinite (negative : Bool)
  | nan

/-- The layout of a binary format: the widths of its two fields and the exponent of the last
mantissa bit of the subnormal values. -/
structure Format where
  mantissaBits : Nat
  exponentBits : Nat
  least : Int

/-- Double precision. -/
def double : Format := ⟨52, 11, -1074⟩

/-- Single precision. -/
def single : Format := ⟨23, 8, -149⟩

/-- Reads a bit pattern in a format. -/
def Format.decode (f : Format) (bits : Nat) : Value :=
  let low := bits % Nat.pow 2 f.mantissaBits
  let biased := bits / Nat.pow 2 f.mantissaBits % Nat.pow 2 f.exponentBits
  let negative := bits / Nat.pow 2 (f.mantissaBits + f.exponentBits) % 2 == 1
  if biased = Nat.pow 2 f.exponentBits - 1 then
    if low = 0 then .infinite negative else .nan
  else if biased = 0 then
    .finite ⟨negative, low, f.least, false⟩
  else
    .finite ⟨negative, low + Nat.pow 2 f.mantissaBits, f.least + biased - 1, low == 0 && biased != 1⟩

/-- The parts of a double. -/
def ofFloat (x : Float) : Value := double.decode x.toBits.toNat

/-- The parts of a single-precision value. -/
def ofFloat32 (x : Float32) : Value := single.decode x.toBits.toNat

end Decimal
end Biblio
