import Biblio.Entity

/-!
# Distinct results

Results of several sources are merged by kind and identifier.  `distinct` keeps the first result of
each identity and drops results without an identifier, so callers pass results in the order of the
sources' priority.
-/

set_option autoImplicit false

namespace Biblio

/-- What makes two results the same entity. -/
def identity {α : Type} [Keyed α] (a : α) : String × String := (Keyed.kind a, Keyed.foreignId a)

/-- Keeps the first result of each identity that is not among those `seen`. -/
def distinctFrom {α : Type} [Keyed α] (seen : List (String × String)) : List α → List α
  | [] => []
  | a :: rest =>
    if Keyed.foreignId a = "" || seen.contains (identity a) then distinctFrom seen rest
    else a :: distinctFrom (identity a :: seen) rest

/-- The first result of each identity; results without an identifier are dropped. -/
def distinct {α : Type} [Keyed α] (results : List α) : List α := distinctFrom [] results

end Biblio
