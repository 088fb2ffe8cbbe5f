import Biblio.Entity
import Biblio.Moment.Basic
import Biblio.Source.Activity

/-!
# Sources

A `Source` answers questions about authors and books.  Searches by product number and the list of
changes are not for every source: one that says nothing about them does not support them.
-/

set_option autoImplicit false

namespace Biblio

/-- A source of metadata, acting on a world `W`. -/
structure Source (W : Type) where
  name : String
  capabilities : Capabilities
  /-- The priority that new definitions should have; zero for no opinion. -/
  suggestedPriority : Nat := 0
  fetchAuthor : String → Call W (Option Author)
  fetchBook : String → Call W (Option BookInfo)
  searchAuthors : String → Call W (List Author)
  /-- Searches by title, and by author if one is given; also says whether every edition is
  wanted. -/
  searchBooks : String → Option String → Bool → Call W (List Book)
  /-- Searches by the number of an edition. -/
  searchIsbn : String → Call W (List Book) :=
    fun _ => .done (.error (.notSupported name .searchIsbn))
  /-- Searches by the number of a shop's article. -/
  searchAsin : String → Call W (List Book) :=
    fun _ => .done (.error (.notSupported name .searchAsin))
  /-- The identifiers of the authors that have changed since a moment. -/
  changedAuthors : Moment → Call W (List String) :=
    fun _ => .done (.error (.notSupported name .changedAuthors))
  /-- Checks that the source can be reached. -/
  test : Call W Unit

end Biblio
