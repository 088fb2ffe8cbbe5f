import Biblio.Entity
import Biblio.Relevance.Match

/-!
# Scores of entities

The score of an entity is the match of its name plus small, individually capped signals: how many
works there are, how it is rated, and how complete the record is.

* `nameScore` is the part due to names: the match of the name, or four fifths of the match of an
  alias if that is higher.
* `scoreAuthor`, `scoreBook` and `scoreEntity` add the signals.
-/

set_option autoImplicit false

namespace Biblio
namespace Relevance

variable {α : Type} [Scale α]

/-- The points for ratings; none without a vote. -/
def ratingsScore (r : Ratings) : α :=
  if r.votes = 0 then Scale.ofNat 0 else Scale.votes r.votes + Scale.stars r.value

/-- Two points an image, ten at most. -/
def imagesScore (count : Nat) : α := Scale.ofNat (min (2 * count) 10)

/-- Half a point a work, for at most a hundred works. -/
def worksScore (count : Nat) : α := Scale.ofNat (min count 100) * Scale.ratio 1 2

/-- Whether a text is there and not blank. -/
def hasText : Option String → Bool
  | some s => !Text.isAllBlank s
  | none => false

/-- Adds points under a condition. -/
def bonus (condition : Bool) (points : Nat) (score : α) : α :=
  if condition then score + Scale.ofNat points else score

/-- The authors with fewer works than this are likely to be noise. -/
def fewWorks : Nat := 5

/-- The points that such authors lose. -/
def fewWorksPenalty : Nat := 100

/-- The higher of two scores, the first if they are equal. -/
def higherOf (x y : α) : α := if Scale.higher y x then y else x

/-- The match of the name, or four fifths of that of the best alias. -/
def nameScore (query : String) (a : Author) : α :=
  a.aliases.foldl
    (fun best alternate => higherOf best (matchScore query alternate * Scale.ratio 4 5))
    (matchScore query a.name)

/-- The score of an author against a name. -/
def scoreAuthor (query : String) (a : Author) : α :=
  let score : α := nameScore query a + worksScore a.workCount
  let score := score + ratingsScore a.ratings
  let score := bonus (hasText a.birthDate) 5 score
  let score := bonus (hasText a.deathDate) 5 score
  let score := bonus (hasText a.overview) 10 score
  let score := score + imagesScore a.images.length
  if a.workCount < fewWorks then score - Scale.ofNat fewWorksPenalty else score

/-- The score of a book against a title. -/
def scoreBook (query : String) (b : Book) : α :=
  let score : α := matchScore query b.title + worksScore b.editionCount
  let score := score + ratingsScore b.ratings
  bonus (hasText b.overview) 10 score + imagesScore b.images.length

/-- The score of an entity against a name or title. -/
def scoreEntity (query : String) : SearchEntity → α
  | .author a => scoreAuthor query a
  | .book b => scoreBook query b

end Relevance
end Biblio
