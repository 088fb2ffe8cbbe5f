/-!
# The arithmetic of scores

Relevance scores are sums of a few weighted terms.  The formulas are written once over any `Scale`:
doubles when the library runs, and exact numbers where their order is studied.

* `Scale` has sums, differences and products, quotients of two counts, and the two terms that come
  from ratings.
* The instance for `Float` is the arithmetic of results that are shown.
-/

set_option autoImplicit false

namespace Biblio
namespace Relevance

/-- The arithmetic that scores are computed in. -/
class Scale (α : Type) extends Add α, Sub α, Mul α where
  /-- A whole number of points. -/
  ofNat : Nat → α
  /-- The quotient of two counts. -/
  ratio : Nat → Nat → α
  /-- The points for a number of votes, which grow with its logarithm up to a cap. -/
  votes : Nat → α
  /-- The points for an average rating, four for each star up to a cap. -/
  stars : Float32 → α
  /-- Whether the first score is strictly higher. -/
  higher : α → α → Bool

/-- The points that votes can earn. -/
def votesCap : Nat := 30

/-- The points that an average rating can earn. -/
def starsCap : Nat := 20

/-- The smaller of two doubles, and the second if the first is not a number. -/
def smaller (x y : Float) : Float := if x ≤ y then x else y

instance : Scale Float where
  ofNat := Float.ofNat
  ratio a b := Float.ofNat a / Float.ofNat b
  votes n := smaller (10.0 * Float.log10 (Float.ofNat n + 1.0)) (Float.ofNat votesCap)
  stars x := smaller (x.toFloat * 4.0) (Float.ofNat starsCap)
  higher x y := y < x

end Relevance
end Biblio
