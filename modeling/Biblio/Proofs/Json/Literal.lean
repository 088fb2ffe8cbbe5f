import Biblio.Json.Printer
import Biblio.Json.Reader
import Biblio.Proofs.Decimal.Digits
import Mathlib.Data.List.Forall2

/-!
# Literals that are read back

What the printer writes for a string or an integer is what the reader makes of it, whatever follows.

* `scanString_escape` — one character, written as it is, by a letter or by its number, is one piece.
  `Spells` relates pieces to the characters that they stand for, and `Spells.assemble` joins them.
* `scanString_quoted` is a whole string.
* `readUnsigned_digits` is a whole number, up to a character that cannot belong to one.
-/

set_option autoImplicit false

namespace Biblio
namespace Json

/-! ## Hexadecimal digits -/

theorem hexValue?_hexDigit (n : Nat) : hexValue? (hexDigit n) = some (n % 16) := by
  have h : ∀ r < 16, hexValue? (hexDigit r) = some r := by decide
  have hmod : hexDigit n = hexDigit (n % 16) := by simp [hexDigit]
  rw [hmod]
  exact h _ (Nat.mod_lt n (by decide))

/-! ## Characters -/

/-- A piece stands for a character: it is the character, or its number, which is not half of a
surrogate pair. -/
def Piece.Spells (p : Piece) (c : Char) : Prop :=
  p = .char c ∨ p = .unit c.toNat ∧ c.toNat < 0xD800

/-- Pieces stand for characters, one for each. -/
abbrev Spells (ps : List Piece) (cs : List Char) : Prop := List.Forall₂ Piece.Spells ps cs

theorem scanString_unicodeEscape {n : Nat} (h : n < 0x10000) (rest : List Char) :
    scanString (unicodeEscape n ++ rest) =
      (.unit n :: (scanString rest).1, (scanString rest).2) := by
  have hn : ((n / 4096 % 16 * 16 + n / 256 % 16) * 16 + n / 16 % 16) * 16 + n % 16 = n := by omega
  simp only [unicodeEscape, List.cons_append, List.nil_append, scanString, hexValue?_hexDigit, hn]

/-- **A character is one piece**, however it is written. -/
theorem scanString_escape (c : Char) : ∃ p, Piece.Spells p c ∧ ∀ rest,
    scanString (escape c ++ rest) = (p :: (scanString rest).1, (scanString rest).2) := by
  unfold escape
  split
  · exact ⟨_, .inl rfl, fun rest => rfl⟩
  · exact ⟨_, .inl rfl, fun rest => rfl⟩
  · exact ⟨_, .inl rfl, fun rest => rfl⟩
  · exact ⟨_, .inl rfl, fun rest => rfl⟩
  · exact ⟨_, .inl rfl, fun rest => rfl⟩
  · exact ⟨_, .inl rfl, fun rest => rfl⟩
  · exact ⟨_, .inl rfl, fun rest => rfl⟩
  · split
    · next hnumber =>
      -- control characters and line separators lie below the surrogates
      have hlt : c.toNat < 0xD800 := by
        simp only [Bool.or_eq_true, decide_eq_true_eq, isLineSeparator, beq_iff_eq] at hnumber
        omega
      exact ⟨.unit c.toNat, .inr ⟨rfl, hlt⟩, scanString_unicodeEscape (by omega)⟩
    · next hplain =>
      have hge : ¬ c.toNat < 0x20 := by
        simp only [Bool.or_eq_true, decide_eq_true_eq, not_or] at hplain
        exact hplain.1
      refine ⟨.char c, .inl rfl, fun rest => ?_⟩
      show scanString (c :: rest) = _
      rw [scanString.eq_def]
      split <;> simp_all

/-! ## Strings -/

/-- Pieces are joined to the characters that they stand for. -/
theorem Spells.assemble {ps : List Piece} {cs : List Char} (h : Spells ps cs) (partly : Bool) :
    assemble partly ps = some cs := by
  induction h with
  | nil => rfl
  | @cons p c ps cs hp hps ih =>
    rcases hp with rfl | ⟨rfl, hlt⟩
    · rw [Json.assemble, ih]
      rfl
    · have hlow : isLowSurrogate c.toNat = false := by simp [isLowSurrogate]; omega
      have hhigh : isHighSurrogate c.toNat = false := by simp [isHighSurrogate]; omega
      cases hps with
      | nil => simp [Json.assemble, hlow, hhigh]
      | @cons p' c' ps' cs' hp' hps' =>
        rcases hp' with rfl | ⟨rfl, -⟩
        · -- the reader takes both pieces at once, so the rest is read off the hypothesis
          have hrest : Json.assemble partly ps' = some cs' := by
            rw [Json.assemble, Option.map_eq_some_iff] at ih
            obtain ⟨ds, hds, heq⟩ := ih
            rw [hds, (List.cons.inj heq).2]
          simp [Json.assemble, hlow, hhigh, hrest]
        · simp [Json.assemble, hlow, hhigh, ih]

theorem scanString_flatMap (cs rest : List Char) : ∃ ps, Spells ps cs ∧
    scanString (cs.flatMap escape ++ '"' :: rest) = (ps, .ok rest) := by
  induction cs with
  | nil => exact ⟨[], .nil, rfl⟩
  | cons c cs ih =>
    obtain ⟨ps, hps, hscan⟩ := ih
    obtain ⟨p, hp, hpiece⟩ := scanString_escape c
    refine ⟨p :: ps, .cons hp hps, ?_⟩
    rw [List.flatMap_cons, List.append_assoc, hpiece, hscan]

theorem toList_quote (s : String) :
    (quote s).toList = '"' :: (s.toList.flatMap escape ++ ['"']) := by
  rw [quote, String.toList_ofList]
  rfl

/-- **A string** is read up to its closing mark. -/
theorem scanString_quoted (s : String) (rest : List Char) : ∃ ps,
    scanString (s.toList.flatMap escape ++ '"' :: rest) = (ps, .ok rest) ∧
      (assemble false ps).map String.ofList = some s := by
  obtain ⟨ps, hps, hscan⟩ := scanString_flatMap s.toList rest
  refine ⟨ps, hscan, ?_⟩
  rw [hps.assemble, Option.map_some, String.ofList_toList]

/-! ## Whole numbers -/

/-- A value ends here: the text does, or a mark follows that separates values or ends what they
stand in. -/
def Stops (rest : List Char) : Prop :=
  ∀ c ∈ rest.head?, c = ',' ∨ c = ']' ∨ c = '\x7d'

theorem absorb_eq {cs : List Char} {s : Nat} (h : Decimal.ofDigitsFrom s cs < wordCount) :
    absorb s cs = (Decimal.ofDigitsFrom s cs, []) := by
  have hle : ∀ (cs : List Char) (s : Nat), s ≤ Decimal.ofDigitsFrom s cs := by
    intro cs
    induction cs with
    | nil => exact fun s => Nat.le_refl s
    | cons c cs ih =>
      intro s
      refine Nat.le_trans ?_ (ih (10 * s + Decimal.digitValue c))
      omega
  induction cs generalizing s with
  | nil => rfl
  | cons c cs ih =>
    have hnext := hle cs (10 * s + Decimal.digitValue c)
    rw [Decimal.ofDigitsFrom] at h
    rw [absorb, if_pos (Nat.lt_of_le_of_lt hnext h), ih h]
    rfl

/-- A number begins with a digit, and with a zero only if it is zero. -/
theorem digits_head (n : Nat) : ∃ d ds, Decimal.digits n = d :: ds ∧ d.isDigit = true ∧
    (d = '0' → ds = []) := by
  have hzero : ∀ r < 10, Decimal.digitChar r = '0' → r = 0 := by decide
  have key : ∃ d ds, Decimal.digits n = d :: ds ∧ (d = '0' → ds = [] ∧ n = 0) := by
    induction n using Decimal.digits.induct with
    | case1 n hlt =>
      refine ⟨_, [], by rw [Decimal.digits, if_pos hlt], fun h => ⟨rfl, hzero n hlt h⟩⟩
    | case2 n hge ih =>
      obtain ⟨d, ds, hds, hlead⟩ := ih
      refine ⟨d, ds ++ [Decimal.digitChar n], ?_, fun h => ?_⟩
      · rw [Decimal.digits, if_neg hge, hds, List.cons_append]
      · have hsmall := (hlead h).2
        omega
  obtain ⟨d, ds, hds, hlead⟩ := key
  refine ⟨d, ds, hds, ?_, fun h => (hlead h).1⟩
  exact Decimal.isDigit_of_mem_digits (n := n) (by rw [hds]; exact List.mem_cons_self)

theorem Stops.not_isDigit {rest : List Char} (h : Stops rest) : ∀ c ∈ rest.head?, c.isDigit = false := by
  intro c hc
  rcases h c hc with rfl | rfl | rfl <;> rfl

theorem span_digits (n : Nat) {rest : List Char} (h : Stops rest) :
    (Decimal.digits n ++ rest).takeWhile Char.isDigit = Decimal.digits n ∧
      (Decimal.digits n ++ rest).dropWhile Char.isDigit = rest := by
  have hall : ∀ c ∈ Decimal.digits n, c.isDigit = true := fun c hc =>
    Decimal.isDigit_of_mem_digits hc
  rw [List.takeWhile_append_of_pos hall, List.dropWhile_append_of_pos hall]
  cases rest with
  | nil => simp
  | cons c rest =>
    have hc : c.isDigit = false := h.not_isDigit c rfl
    simp [hc]

theorem readExponent_stops (negative : Bool) (whole : List Char) {rest : List Char} (h : Stops rest) :
    readExponent negative whole none rest =
      (.number (NumberText.value? ⟨negative, whole, none, none⟩), rest) := by
  cases rest with
  | nil => rfl
  | cons c rest =>
    rcases h c rfl with rfl | rfl | rfl <;> rfl

/-- **A whole number** is read up to a mark. -/
theorem readUnsigned_digits (negative : Bool) (n : Nat) {rest : List Char} (h : Stops rest) :
    readUnsigned negative (Decimal.digits n ++ rest) =
      (.number (NumberText.value? ⟨negative, Decimal.digits n, none, none⟩), rest) := by
  obtain ⟨htake, hdrop⟩ := span_digits n h
  obtain ⟨d, ds, hds, -, hzero⟩ := digits_head n
  have hempty : (Decimal.digits n).isEmpty = false := by simp [hds]
  have hlead : ((Decimal.digits n).head? == some '0' && (Decimal.digits n).length != 1) = false := by
    rw [hds]
    by_cases h0 : d = '0'
    · simp [hzero h0]
    · simp [h0]
  rw [readUnsigned, htake, hdrop]
  simp only [hempty, hlead, Bool.false_eq_true, if_false]
  rw [← readExponent_stops negative _ h]
  cases rest with
  | nil => rfl
  | cons c rest =>
    rcases h c rfl with rfl | rfl | rfl <;> rfl

/-- What the digits of a number stand for. -/
theorem value?_of_natural {n : Nat} (h : n < wordCount) :
    NumberText.value? ⟨false, Decimal.digits n, none, none⟩ = some (.int n) := by
  have hroom : Decimal.ofDigitsFrom 0 (Decimal.digits n) < wordCount := by
    rw [Decimal.ofDigitsFrom_digits]
    exact h
  have habsorb := absorb_eq hroom
  rw [Decimal.ofDigitsFrom_digits] at habsorb
  simp [NumberText.value?, habsorb]

/-- And after a minus sign. -/
theorem value?_of_negative {n : Nat} (hpos : 0 < n) (h : 2 * n ≤ wordCount) :
    NumberText.value? ⟨true, Decimal.digits n, none, none⟩ = some (.int (-n)) := by
  have hroom : Decimal.ofDigitsFrom 0 (Decimal.digits n) < wordCount := by
    rw [Decimal.ofDigitsFrom_digits]
    omega
  have habsorb := absorb_eq hroom
  rw [Decimal.ofDigitsFrom_digits] at habsorb
  simp [NumberText.value?, habsorb, hpos, h]

end Json
end Biblio
