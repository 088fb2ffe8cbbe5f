import Biblio.Relevance.Scale
import Biblio.Text.Infix
import Biblio.Text.Key

/-!
# How well a name matches a query

* `Tier` is the closeness of a candidate to a query as wholes; `tier` finds it.
* `overlap` counts the words of the query that occur in the candidate.
* `matchScore` puts the two together: the weight of the tier, up to 300 points for the words that
  occur and up to 200 off for those that do not.
-/

set_option autoImplicit false

namespace Biblio
namespace Relevance

open Text (occursIn)

/-- How close a candidate is to a query, as wholes. -/
inductive Tier where
  /-- Equal after normalisation. -/
  | exact
  /-- Equal once spaces do not count either. -/
  | unspaced
  /-- The normalised candidate contains the normalised query. -/
  | contains
  /-- The candidate in lower case contains the trimmed query in lower case. -/
  | rawContains
  | none
  deriving DecidableEq, Repr

/-- The points of a tier. -/
def Tier.points : Tier → Nat
  | .exact => 1000
  | .unspaced => 900
  | .contains => 500
  | .rawContains => 400
  | .none => 0

/-- The points for all words of the query. -/
def wordPoints : Nat := 300

/-- The points that are taken off when no word of the query occurs. -/
def missingPoints : Nat := 200

/-- The normalised form of a text, as characters. -/
def normalized (s : String) : List Char := (Text.normalizeName s).toList

/-- A text without its spaces. -/
def withoutSpaces (cs : List Char) : List Char := cs.filter (· != ' ')

/-- The closeness of a candidate to a query. -/
def tier (query candidate : String) : Tier :=
  let q := normalized query
  let c := normalized candidate
  if q = c then .exact
  else if withoutSpaces q = withoutSpaces c then .unspaced
  else if occursIn q c then .contains
  else if occursIn (Text.lower (Text.trimChars query.toList)) (Text.lower candidate.toList) then
    .rawContains
  else .none

/-- The words of a query that count. -/
def queryWords (query : String) : List (List Char) := Text.words (normalized query)

/-- How many of the words occur in a normalised candidate. -/
def occurring (ws : List (List Char)) (candidate : List Char) : Nat :=
  (ws.filter (fun w => occursIn w candidate)).length

/-- The points for `m` of `n` words. -/
def overlapScore {α : Type} [Scale α] (base : α) (m n : Nat) : α :=
  let r : α := Scale.ratio m n
  let score := base + Scale.ofNat wordPoints * r
  if m < n then score - Scale.ofNat missingPoints * (Scale.ofNat 1 - r) else score

/-- The score of one name or title; nothing if either side is empty after normalisation. -/
def matchScore {α : Type} [Scale α] (query candidate : String) : α :=
  let c := normalized candidate
  if (normalized query).isEmpty || c.isEmpty then Scale.ofNat 0
  else
    let ws := queryWords query
    overlapScore (Scale.ofNat (tier query candidate).points) (occurring ws c) ws.length

end Relevance
end Biblio
