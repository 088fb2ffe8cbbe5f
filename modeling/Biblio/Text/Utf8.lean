/-!
# UTF-8

* `encode` writes characters as octets.
* `decode` reads octets as characters.  Octets that belong to no character are read as none: of a
  sequence that breaks off, all octets up to the break together.
* `decodeStrictly` fails where `decode` reads none, and `decodeLeniently` puts the replacement
  character there.
-/

set_option autoImplicit false

namespace Biblio
namespace Text
namespace Utf8

/-- The octets of a text. -/
def encode (s : String) : List Nat := s.toUTF8.toList.map UInt8.toNat

/-- What a first octet promises: its share of the code point, how many octets follow, and the bounds
of the next one. -/
structure Lead where
  share : Nat
  following : Nat
  lo : Nat := 0x80
  hi : Nat := 0xBF

/-- Reads a first octet. -/
def lead? (b : Nat) : Option Lead :=
  if b < 0x80 then some ⟨b, 0, 0x80, 0xBF⟩
  else if b < 0xC2 then none
  else if b < 0xE0 then some ⟨b - 0xC0, 1, 0x80, 0xBF⟩
  else if b = 0xE0 then some ⟨0, 2, 0xA0, 0xBF⟩
  else if b = 0xED then some ⟨0xD, 2, 0x80, 0x9F⟩
  else if b < 0xF0 then some ⟨b - 0xE0, 2, 0x80, 0xBF⟩
  else if b = 0xF0 then some ⟨0, 3, 0x90, 0xBF⟩
  else if b < 0xF4 then some ⟨b - 0xF0, 3, 0x80, 0xBF⟩
  else if b = 0xF4 then some ⟨4, 3, 0x80, 0x8F⟩
  else none

/-- Reads the octets that follow a first one: the code point, if they are all there, and what stands
behind those that are. -/
def follow (share : Nat) : Nat → Nat → Nat → List Nat → Option Nat × List Nat
  | 0, _, _, bs => (some share, bs)
  | _ + 1, _, _, [] => (none, [])
  | n + 1, lo, hi, b :: bs =>
    if lo ≤ b ∧ b ≤ hi then follow (share * 64 + (b - 0x80)) n 0x80 0xBF bs
    else (none, b :: bs)

theorem length_follow_le (share n lo hi : Nat) (bs : List Nat) :
    (follow share n lo hi bs).2.length ≤ bs.length := by
  induction n generalizing share lo hi bs with
  | zero => simp [follow]
  | succ n ih =>
    cases bs with
    | nil => simp [follow]
    | cons b bs =>
      simp only [follow]
      split
      · exact Nat.le_succ_of_le (ih ..)
      · exact Nat.le_refl _

/-- Reads octets as characters, none for a sequence that is not a character. -/
def decode : List Nat → List (Option Char)
  | [] => []
  | b :: bs =>
    match lead? b with
    | none => none :: decode bs
    | some l =>
      (follow l.share l.following l.lo l.hi bs).1.map Char.ofNat ::
        decode (follow l.share l.following l.lo l.hi bs).2
termination_by bs => bs.length
decreasing_by
  · simp
  · exact Nat.lt_succ_of_le (length_follow_le ..)

/-- The text of octets, if it is one. -/
def decodeStrictly (bs : List Nat) : Option String := ((decode bs).mapM (fun c => c)).map String.ofList

/-- The text of octets; what is not a character is replaced. -/
def decodeLeniently (bs : List Nat) : String :=
  String.ofList ((decode bs).map (fun c => c.getD (Char.ofNat 0xFFFD)))

end Utf8
end Text
end Biblio
