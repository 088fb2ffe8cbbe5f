import Biblio.Relevance.Gate
import Biblio.Relevance.Score

/-!
# Ranking

`rankBy` sorts by descending score and keeps the order of equal scores; `rankAuthors` puts the gate
in front of it.
-/

set_option autoImplicit false

namespace Biblio
namespace Relevance

/-- Sorts by descending score; equal scores keep their order. -/
def rankBy {α β : Type} (higher : β → β → Bool) (score : α → β) (items : List α) : List α :=
  ((items.map (fun a => (score a, a))).mergeSort (fun x y => !higher y.1 x.1)).map (·.2)

/-- The authors that pass the gate, best first. -/
def rankAuthors (query : String) (authors : List Author) : List Author :=
  rankBy Scale.higher (scoreAuthor (α := Float) query) (authors.filter (passesGate query))

/-- Entities, best first. -/
def rankEntities (query : String) (entities : List SearchEntity) : List SearchEntity :=
  rankBy Scale.higher (scoreEntity (α := Float) query) entities

end Relevance
end Biblio
