/-!
# Texts inside texts

`occursIn` decides whether a text occurs in another as a block of neighbouring characters;
`occursIn_iff` says so in the words of the list library.
-/

set_option autoImplicit false

namespace Biblio
namespace Text

/-- Whether a text occurs in another. -/
def occursIn (needle : List Char) : List Char → Bool
  | [] => needle.isEmpty
  | c :: cs => needle.isPrefixOf (c :: cs) || occursIn needle cs

theorem occursIn_iff {needle cs : List Char} : occursIn needle cs = true ↔ needle <:+: cs := by
  induction cs with
  | nil => simp [occursIn]
  | cons c cs ih =>
    simp only [occursIn, Bool.or_eq_true, ih, List.isPrefixOf_iff_prefix]
    exact List.infix_cons_iff.symm

end Text
end Biblio
