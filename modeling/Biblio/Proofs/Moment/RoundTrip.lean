import Biblio.Moment.Text
import Biblio.Proofs.Decimal.Digits
import Biblio.Proofs.Moment.Calendar
import Biblio.Proofs.Moment.Order

/-!
# Moments that are read back

A moment is written as RFC 3339 with a sign in front of its year if the year does not have four
digits, and read by a reader that knows no signs.

* `scanNumber_run` and `scanNumber_padded` read the fields, `scanStem_stem` all of them.
* `parse_renderNumeric` — a moment is read back exactly if its year has four digits, and otherwise
  its text is refused.
-/

set_option autoImplicit false

namespace Biblio
namespace Moment

/-! ## Fields -/

theorem length_le_utf8ByteSize (cs : List Char) : cs.length ≤ (String.ofList cs).utf8ByteSize := by
  induction cs with
  | nil => exact Nat.zero_le _
  | cons c cs ih =>
    rw [String.ofList_cons, String.utf8ByteSize_append, String.utf8ByteSize_singleton,
      List.length_cons]
    have := c.utf8Size_pos
    omega

/-- A run of digits is read as a number if nothing after it could belong to it. -/
theorem scanNumber_run {least most : Nat} {run rest : List Char}
    (hdigits : ∀ c ∈ run, c.isDigit = true) (hleast : least ≤ run.length)
    (hmost : run.length ≤ most)
    (hrest : (rest.take (most - run.length)).takeWhile Char.isDigit = []) :
    scanNumber least most (run ++ rest) = .ok (Decimal.ofDigitsFrom 0 run, rest) := by
  have htake : ((run ++ rest).take most).takeWhile Char.isDigit = run := by
    rw [List.take_append, List.take_of_length_le hmost, List.takeWhile_append_of_pos hdigits,
      hrest, List.append_nil]
  have hsize := length_le_utf8ByteSize (run ++ rest)
  rw [List.length_append] at hsize
  simp only [scanNumber, htake]
  rw [if_neg (by omega), if_neg (by omega), List.drop_left]

/-- A field of fixed width. -/
theorem scanNumber_padded {width n : Nat} (hw : 0 < width) (h : n < 10 ^ width)
    (rest : List Char) :
    scanNumber width width (Decimal.padded width n ++ rest) = .ok (n, rest) := by
  have hlen := Decimal.length_padded hw h
  rw [scanNumber_run (fun c hc => Decimal.isDigit_of_mem_padded hc) (Nat.le_of_eq hlen.symm)
    (Nat.le_of_eq hlen) (by rw [hlen, Nat.sub_self]; rfl), Decimal.ofDigitsFrom_padded]

/-- A field of two digits between bounds. -/
theorem scanBounded_padded {n lo hi : Nat} (hlo : lo ≤ n) (hhi : n ≤ hi) (h : n < 100)
    (rest : List Char) :
    scanBounded 2 2 lo hi (Decimal.padded 2 n ++ rest) = .ok (n, rest) := by
  rw [scanBounded, scanNumber_padded (by decide) h]
  exact if_pos ⟨hlo, hhi⟩

/-! ## Fractions -/

/-- The digits of a fraction, followed by what cannot belong to it. -/
theorem scanFraction_padded {width n : Nat} (hw : 0 < width) (hw' : width ≤ 9)
    (h : n < 10 ^ width) {rest : List Char} (hrest : ∀ k, (rest.take k).takeWhile Char.isDigit = [])
    (hdrop : rest.dropWhile Char.isDigit = rest) :
    scanFraction (Decimal.padded width n ++ rest) = .ok (n * 10 ^ (9 - width), rest) := by
  have hlen := Decimal.length_padded hw h
  rw [scanFraction, scanNumber_run (fun c hc => Decimal.isDigit_of_mem_padded hc)
    (by rwa [hlen]) (by rwa [hlen]) (hrest _), Decimal.ofDigitsFrom_padded]
  simp only [List.length_append, hlen, Nat.add_sub_cancel, hdrop]
  rfl

theorem scanOptionalFraction_fractionText {nanos : Nat} (h : nanos < Span.second)
    (rest : List Char) :
    scanOptionalFraction (fractionText nanos ++ '+' :: rest) = .ok (nanos, '+' :: rest) := by
  have hnone : ∀ k, (('+' :: rest).take k).takeWhile Char.isDigit = [] := fun k => by
    cases k <;> rfl
  have hdrop : ('+' :: rest).dropWhile Char.isDigit = '+' :: rest := rfl
  have hlt : nanos < 1000000000 := h
  rw [fractionText]
  split
  · next hzero =>
    rw [hzero]
    rfl
  split
  · next hmilli =>
    rw [List.cons_append, scanOptionalFraction,
      scanFraction_padded (by decide) (by decide) (by omega) hnone hdrop]
    show Except.ok (nanos / 1000000 * 1000000, _) = _
    rw [Nat.div_mul_cancel (Nat.dvd_of_mod_eq_zero hmilli)]
  split
  · next hmicro =>
    rw [List.cons_append, scanOptionalFraction,
      scanFraction_padded (by decide) (by decide) (by omega) hnone hdrop]
    show Except.ok (nanos / 1000 * 1000, _) = _
    rw [Nat.div_mul_cancel (Nat.dvd_of_mod_eq_zero hmicro)]
  · rw [List.cons_append, scanOptionalFraction,
      scanFraction_padded (by decide) (by decide) hlt hnone hdrop, Nat.sub_self, Nat.pow_zero,
      Nat.mul_one]

/-! ## The parts of a moment -/

/-- The fields that a moment is written with. -/
def fields (m : Moment) : Fields where
  date := m.date
  hour := m.secondOfDay / 3600
  minute := m.secondOfDay / 60 % 60
  second := m.secondOfDay % 60 + if Span.second ≤ m.nanos then 1 else 0
  nanos := if Span.second ≤ m.nanos then m.nanos - Span.second else m.nanos

/-- A year that is written with four digits and without a sign. -/
def FourDigits (m : Moment) : Prop := 0 ≤ m.date.year ∧ m.date.year ≤ 9999

instance (m : Moment) : Decidable m.FourDigits := inferInstanceAs (Decidable (_ ∧ _))

theorem FourDigits.yearText {m : Moment} (h : m.FourDigits) :
    yearText m.date.year = Decimal.padded 4 m.date.year.toNat := if_pos h

theorem month_day_date (m : Moment) :
    1 ≤ m.date.month ∧ m.date.month ≤ 12 ∧ 1 ≤ m.date.day ∧
      m.date.day ≤ Date.daysInMonth m.date.year m.date.month :=
  Date.month_day_ofDays (m.seconds / daySeconds)

theorem secondOfDay_lt (m : Moment) : m.secondOfDay < 86400 := by
  have h : daySeconds = 86400 := rfl
  rw [secondOfDay, h]
  omega

/-- The seconds of a leap second are the last of its minute. -/
theorem Counted.secondOfDay_mod {m : Moment} (h : m.Counted) (hleap : Span.second ≤ m.nanos) :
    m.secondOfDay % 60 = 59 := by
  obtain ⟨-, hminute⟩ := h.nanos_lt.resolve_left (not_lt.mpr hleap)
  have hday : daySeconds = 86400 := rfl
  rw [secondOfDay, hday]
  omega

/-- In a leap second, the sixtieth second is written. -/
theorem Counted.fields_of_leap {m : Moment} (h : m.Counted) (hleap : Span.second ≤ m.nanos) :
    m.fields.second = 60 ∧ m.fields.nanos = m.nanos - Span.second := by
  simp only [fields, if_pos hleap, h.secondOfDay_mod hleap, and_self]

/-- Outside a leap second, the second of the minute is written. -/
theorem fields_of_ordinary {m : Moment} (hleap : m.nanos < Span.second) :
    m.fields.second = m.secondOfDay % 60 ∧ m.fields.nanos = m.nanos := by
  simp only [fields, if_neg (not_le.mpr hleap), Nat.add_zero, and_self]

theorem Counted.fields_nanos {m : Moment} (h : m.Counted) : m.fields.nanos < Span.second := by
  rcases lt_or_ge m.nanos Span.second with hleap | hleap
  · rw [(fields_of_ordinary hleap).2]
    exact hleap
  · obtain ⟨hlt, -⟩ := h.nanos_lt.resolve_left (not_lt.mpr hleap)
    rw [Nat.two_mul] at hlt
    rw [(h.fields_of_leap hleap).2]
    exact Nat.sub_lt_left_of_lt_add hleap hlt

theorem Counted.fields_second {m : Moment} (h : m.Counted) : m.fields.second ≤ 60 := by
  rcases lt_or_ge m.nanos Span.second with hleap | hleap
  · rw [(fields_of_ordinary hleap).1]
    omega
  · exact Nat.le_of_eq (h.fields_of_leap hleap).1

/-- The text of a moment, field by field. -/
theorem stem_append (m : Moment) (rest : List Char) :
    m.stem ++ rest = yearText m.date.year ++ '-' :: (Decimal.padded 2 m.date.month ++
      '-' :: (Decimal.padded 2 m.date.day ++ 'T' :: (Decimal.padded 2 m.fields.hour ++
      ':' :: (Decimal.padded 2 m.fields.minute ++ ':' :: (Decimal.padded 2 m.fields.second ++
      (fractionText m.fields.nanos ++ rest)))))) := by
  simp only [stem, fields, List.append_assoc, List.cons_append]

/-- **The fields are read back.** -/
theorem Counted.scanStem_stem {m : Moment} (h : m.Counted) (hyear : m.FourDigits)
    (rest : List Char) : scanStem (m.stem ++ '+' :: rest) = .ok (m.fields, '+' :: rest) := by
  obtain ⟨hmonth, hmonth', hday, hexists⟩ := m.month_day_date
  have hday' : m.date.day ≤ 31 := hexists.trans (Date.daysInMonth_le _ _)
  have ht := m.secondOfDay_lt
  have hsecond := h.fields_second
  have hhour : m.fields.hour ≤ 23 := by
    show m.secondOfDay / 3600 ≤ 23
    omega
  have hminute : m.fields.minute ≤ 59 := by
    show m.secondOfDay / 60 % 60 ≤ 59
    omega
  have hyear' : m.date.year.toNat < 10 ^ 4 := by
    have := hyear.2
    omega
  have hdate : (⟨(m.date.year.toNat : Int), m.date.month, m.date.day⟩ : Date) = m.date := by
    rw [Int.toNat_of_nonneg hyear.1]
  rw [stem_append, hyear.yearText]
  simp only [scanStem, bind, Except.bind, scanChar, if_true, true_or, pure, Except.pure,
    scanNumber_padded (by decide : 0 < 4) hyear',
    scanBounded_padded hmonth hmonth' (by omega),
    scanBounded_padded hday hday' (by omega),
    scanBounded_padded (Nat.zero_le _) hhour (by omega),
    scanBounded_padded (Nat.zero_le _) hminute (by omega),
    scanBounded_padded (Nat.zero_le _) hsecond (by omega),
    scanOptionalFraction_fractionText h.fields_nanos, hdate]
  rfl

/-! ## The moment of the parts -/

theorem FourDigits.valid {m : Moment} (h : m.FourDigits) : m.date.valid = true := by
  obtain ⟨hmonth, hmonth', hday, hday'⟩ := m.month_day_date
  have hleast : Date.leastYear ≤ m.date.year := le_trans (by decide) h.1
  have hgreatest : m.date.year ≤ Date.greatestYear := le_trans h.2 (by decide)
  simp only [Date.valid, hleast, hgreatest, hmonth, hmonth', hday, hday', decide_true, Bool.and_self]

/-- The second of the fields, with the second before a leap second in its place. -/
theorem Counted.fields_beforeLeap {m : Moment} (h : m.Counted) :
    (if m.fields.second == 60 then 59 else m.fields.second) = m.secondOfDay % 60 := by
  rcases lt_or_ge m.nanos Span.second with hleap | hleap
  · have hne : (m.secondOfDay % 60 == 60) = false := by
      rw [beq_eq_false_iff_ne]
      omega
    rw [(fields_of_ordinary hleap).1, hne]
    rfl
  · rw [(h.fields_of_leap hleap).1, h.secondOfDay_mod hleap]
    rfl

/-- The nanoseconds of the fields, put back into a leap second. -/
theorem Counted.fields_leap {m : Moment} (h : m.Counted) :
    (if m.fields.second == 60 then m.fields.nanos + Span.second else m.fields.nanos) = m.nanos := by
  rcases lt_or_ge m.nanos Span.second with hleap | hleap
  · have hne : (m.secondOfDay % 60 == 60) = false := by
      rw [beq_eq_false_iff_ne]
      omega
    rw [(fields_of_ordinary hleap).1, (fields_of_ordinary hleap).2, hne]
    rfl
  · rw [(h.fields_of_leap hleap).1, (h.fields_of_leap hleap).2]
    exact Nat.sub_add_cancel hleap

/-- The day and the time of the day make up the seconds. -/
theorem fields_seconds (m : Moment) :
    m.fields.date.toDays * daySeconds + (m.fields.hour * 3600 + m.fields.minute * 60 +
      (m.secondOfDay % 60 : Nat) : Int) = m.seconds := by
  have hdays : m.fields.date.toDays = m.seconds / daySeconds := Date.toDays_ofDays _
  have hday : daySeconds = 86400 := rfl
  have hof : (m.secondOfDay : Int) = m.seconds % 86400 := by
    rw [secondOfDay, hday, Int.toNat_of_nonneg (Int.emod_nonneg _ (by decide))]
  rw [hdays, hday]
  simp only [fields]
  omega

/-- **The parts make up the moment.** -/
theorem Counted.moment_fields {m : Moment} (h : m.Counted) (hyear : m.FourDigits) :
    m.fields.moment 0 = .ok m := by
  have hvalid : m.fields.date.valid = true := hyear.valid
  have hcounted : ¬ (m.seconds < earliest.seconds ∨ latest.seconds < m.seconds) := by
    rintro (hlt | hlt)
    · exact absurd h.earliest_le (not_le.mpr hlt)
    · exact absurd h.le_latest (not_le.mpr hlt)
  rw [Fields.moment, hvalid]
  simp only [Bool.not_true, Bool.false_eq_true, if_false, Int.sub_zero, h.fields_beforeLeap,
    m.fields_seconds, h.fields_leap, if_neg hcounted]

/-! ## Round trip -/

theorem scanOffset_utc :
    scanOffset (scanChar ':') ['+', '0', '0', ':', '0', '0'] = .ok (0, []) := rfl

/-- A moment whose year has four digits is read back. -/
theorem Counted.parse_renderNumeric {m : Moment} (h : m.Counted) (hyear : m.FourDigits) :
    parse m.renderNumeric = .ok m := by
  simp only [parse, renderNumeric, String.toList_ofList, h.scanStem_stem hyear, bind, Except.bind,
    scanOffset_utc]
  exact h.moment_fields hyear

/-- A number cannot begin with a sign. -/
theorem scanNumber_of_sign {c : Char} {cs : List Char} (hc : c.isDigit = false)
    (hlen : 3 ≤ cs.length) : scanNumber 4 4 (c :: cs) = .error .invalid := by
  have hsize := length_le_utf8ByteSize (c :: cs)
  rw [List.length_cons] at hsize
  have hrun : ((c :: cs).take 4).takeWhile Char.isDigit = [] := by
    rw [List.take_succ_cons, List.takeWhile_cons, hc]
    rfl
  simp only [scanNumber, hrun]
  rw [if_neg (by omega)]
  rfl

/-- A moment whose year has a sign is refused. -/
theorem parse_renderNumeric_of_sign {m : Moment} (hyear : ¬ m.FourDigits) :
    parse m.renderNumeric = .error .invalid := by
  have htext : yearText m.date.year = (if m.date.year < 0 then '-' else '+') ::
      Decimal.padded 4 m.date.year.natAbs := if_neg hyear
  have hsign : (if m.date.year < 0 then '-' else '+').isDigit = false := by
    split <;> rfl
  have hlen := Decimal.le_length_padded 4 m.date.year.natAbs
  simp only [parse, renderNumeric, String.toList_ofList, stem_append, htext, List.cons_append,
    scanStem, bind, Except.bind]
  rw [scanNumber_of_sign hsign (by rw [List.length_append]; omega)]

/-- **Round trip.**  A moment is read back if and only if its year has four digits. -/
theorem Counted.parse_renderNumeric_eq {m : Moment} (h : m.Counted) :
    parse m.renderNumeric = if m.FourDigits then .ok m else .error .invalid := by
  split
  · next hyear => exact h.parse_renderNumeric hyear
  · next hyear => exact parse_renderNumeric_of_sign hyear

/-! ## Which moments are read back -/

/-- The first moment of the year 10000, the first year after 1970 that is written with a sign. -/
def yearTenThousand : Moment := ⟨Date.toDays ⟨10000, 1, 1⟩ * daySeconds, 0⟩

/-- The moments of a clock that are read back are those before the year 10000. -/
theorem Shown.fourDigits_iff {m : Moment} (h : m.Shown) : m.FourDigits ↔ m < yearTenThousand := by
  have hpos : 0 < daySeconds := by decide
  have hfirst : Date.toDays ⟨-1 + 1, 1, 1⟩ ≤ 0 := by decide
  have hyear : 0 ≤ m.date.year := by
    by_contra hneg
    have hle : m.date.year ≤ -1 := Int.le_sub_one_of_lt (not_le.mp hneg)
    have hlt := (Date.year_ofDays_le_iff.mp hle).trans_le hfirst
    exact absurd (Int.ediv_nonneg h.since hpos.le) (not_le.mpr hlt)
  have hdays : m.date.year ≤ 9999 ↔ m.seconds / daySeconds < Date.toDays ⟨10000, 1, 1⟩ :=
    Date.year_ofDays_le_iff
  rw [FourDigits, and_iff_right hyear, hdays, Int.ediv_lt_iff_lt_mul hpos, lt_iff]
  simp [yearTenThousand]

end Moment
end Biblio
