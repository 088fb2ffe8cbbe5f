import Biblio.Entity
import Biblio.Relevance.Match

/-!
# The relevance gate

Author searches return many names that have little to do with the query.  `passesGate` keeps an
author if enough words of the query occur in a name: a single word in the name itself, both of two
words, or three quarters of more in the name or in one alias.
-/

set_option autoImplicit false

namespace Biblio
namespace Relevance

/-- Whether `best` words out of `n` are enough. -/
def enough (best n : Nat) : Bool :=
  if n = 2 then best == 2 else n * 3 ≤ best * 4

/-- The greatest number of words that occur in one of the names. -/
def bestOccurring (ws : List (List Char)) (names : List String) : Nat :=
  names.foldl (fun best name => max best (occurring ws (normalized name))) 0

/-- Whether an author is related enough to the query to be kept. -/
def passesGate (query : String) (a : Author) : Bool :=
  match queryWords query with
  | [] => true
  | [w] => Text.occursIn w (normalized a.name)
  | ws => enough (bestOccurring ws (a.name :: a.aliases)) ws.length

end Relevance
end Biblio
