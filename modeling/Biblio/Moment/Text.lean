import Biblio.Moment.Basic
import Biblio.Decimal.Digits
import Biblio.Text.Blank

/-!
# Moments as text

* `Moment.render` writes a moment as RFC 3339: the fraction has no, three, six or nine digits, as
  few as needed, and a year outside 0 to 9999 has a sign.  The end is `Z` or `+00:00`.
* `Moment.parse` reads RFC 3339 and nothing else, `Moment.parseLeniently` also years with a sign,
  blanks between the parts and other spellings of the offset.
* `Moment.parseLocal` reads a date and a time without an offset.
* `ReadError` says where reading stopped; the first fault in the text counts.
-/

set_option autoImplicit false

namespace Biblio
namespace Moment

/-! ## Writing -/

/-- A year of four digits, or one with a sign. -/
def yearText (y : Int) : List Char :=
  if 0 ≤ y ∧ y ≤ 9999 then Decimal.padded 4 y.toNat
  else (if y < 0 then '-' else '+') :: Decimal.padded 4 y.natAbs

/-- A fraction of a second in as few groups of three digits as hold it. -/
def fractionText (nanos : Nat) : List Char :=
  if nanos = 0 then []
  else if nanos % 1000000 = 0 then '.' :: Decimal.padded 3 (nanos / 1000000)
  else if nanos % 1000 = 0 then '.' :: Decimal.padded 6 (nanos / 1000)
  else '.' :: Decimal.padded 9 nanos

/-- A moment in RFC 3339 up to the offset. -/
def stem (m : Moment) : List Char :=
  let d := m.date
  let t := m.secondOfDay
  let leap := Span.second ≤ m.nanos
  let s := t % 60 + (if leap then 1 else 0)
  yearText d.year ++ '-' :: Decimal.padded 2 d.month ++ '-' :: Decimal.padded 2 d.day ++
    'T' :: Decimal.padded 2 (t / 3600) ++ ':' :: Decimal.padded 2 (t / 60 % 60) ++
    ':' :: Decimal.padded 2 s ++ fractionText (if leap then m.nanos - Span.second else m.nanos)

/-- A moment in RFC 3339, ending in `Z`. -/
def render (m : Moment) : String := String.ofList (m.stem ++ ['Z'])

/-- A moment in RFC 3339, ending in a numeric offset. -/
def renderNumeric (m : Moment) : String := String.ofList (m.stem ++ ['+', '0', '0', ':', '0', '0'])

/-! ## Reading -/

/-- Why a text is not a moment. -/
inductive ReadError where
  | invalid
  | tooShort
  | outOfRange
  | tooLong
  /-- The local time does not exist as a counted moment. -/
  | impossible
  deriving DecidableEq, Repr

/-- The wording of a read error. -/
def ReadError.message : ReadError → String
  | .invalid => "input contains invalid characters"
  | .tooShort => "premature end of input"
  | .outOfRange => "input is out of range"
  | .tooLong => "trailing input"
  | .impossible => "no possible date and time matching input"

/-- A part of a text that was read, and the rest. -/
abbrev Scan (α : Type) := Except ReadError (α × List Char)

/-- Reads at least `least` and at most `most` digits. -/
def scanNumber (least most : Nat) (cs : List Char) : Scan Nat :=
  let run := (cs.take most).takeWhile Char.isDigit
  if (String.ofList cs).utf8ByteSize < least then .error .tooShort
  else if run.length < least then .error .invalid
  else .ok (Decimal.ofDigitsFrom 0 run, cs.drop run.length)

/-- Reads a number between two bounds. -/
def scanBounded (least most lo hi : Nat) (cs : List Char) : Scan Nat :=
  match scanNumber least most cs with
  | .error e => .error e
  | .ok (n, rest) => if lo ≤ n ∧ n ≤ hi then .ok (n, rest) else .error .outOfRange

/-- Reads one given character. -/
def scanChar (c : Char) : List Char → Except ReadError (List Char)
  | [] => .error .tooShort
  | d :: rest => if d = c then .ok rest else .error .invalid

/-- Reads the digits of a fraction as nanoseconds; digits after the ninth do not count. -/
def scanFraction (cs : List Char) : Scan Nat :=
  match scanNumber 1 9 cs with
  | .error e => .error e
  | .ok (n, rest) =>
    .ok (n * Nat.pow 10 (9 - (cs.length - rest.length)), rest.dropWhile Char.isDigit)

/-- Reads a fraction if there is a point. -/
def scanOptionalFraction : List Char → Scan Nat
  | '.' :: rest => scanFraction rest
  | cs => .ok (0, cs)

/-- Two ASCII digits at the head of a text, by its first two bytes. -/
def twoDigits (cs : List Char) : Scan Nat :=
  if (String.ofList cs).utf8ByteSize < 2 then .error .tooShort
  else
    match cs with
    | a :: b :: rest =>
      if a.isDigit && b.isDigit then
        .ok (10 * Decimal.digitValue a + Decimal.digitValue b, rest)
      else .error .invalid
    | _ => .error .invalid

/-- Reads an offset from universal time in seconds; `separator` reads what stands between hours
and minutes. -/
def scanOffset (separator : List Char → Except ReadError (List Char)) (cs : List Char) :
    Scan Int :=
  match cs with
  | 'Z' :: rest => .ok (0, rest)
  | 'z' :: rest => .ok (0, rest)
  | [] => .error .tooShort
  | c :: rest =>
    if c != '+' && c != '-' && c != '−' then .error .invalid
    else
      match twoDigits rest with
      | .error e => .error e
      | .ok (hours, rest) =>
        match separator rest with
        | .error e => .error e
        | .ok rest =>
          match twoDigits rest with
          | .error e => .error e
          | .ok (minutes, rest) =>
            if 60 ≤ minutes then .error .outOfRange
            else
              let offset : Int := hours * 3600 + minutes * 60
              .ok (if c = '+' then offset else -offset, rest)

/-- The parts of a date and time. -/
structure Fields where
  date : Date
  hour : Nat
  minute : Nat
  second : Nat
  nanos : Nat

/-- The moment of a local date and time at an offset; a sixtieth second is a leap second. -/
def Fields.moment (f : Fields) (offset : Int) : Except ReadError Moment :=
  if !f.date.valid then .error .outOfRange
  else
    let leap := f.second == 60
    let ofDay : Int := f.hour * 3600 + f.minute * 60 + (if leap then 59 else f.second : Nat)
    let s := f.date.toDays * daySeconds + ofDay - offset
    if s < earliest.seconds ∨ latest.seconds < s then .error .impossible
    else .ok ⟨s, if leap then f.nanos + Span.second else f.nanos⟩

/-- The greatest offset of RFC 3339. -/
def greatestOffset : Int := (23 * 60 + 59) * 60

/-- Reads RFC 3339 up to the offset. -/
def scanStem (cs : List Char) : Except ReadError (Fields × List Char) := do
  let (year, cs) ← scanNumber 4 4 cs
  let cs ← scanChar '-' cs
  let (month, cs) ← scanBounded 2 2 1 12 cs
  let cs ← scanChar '-' cs
  let (day, cs) ← scanBounded 2 2 1 31 cs
  let cs ←
    match cs with
    | [] => .error .tooShort
    | c :: rest => if c = 'T' ∨ c = 't' ∨ c = ' ' then .ok rest else .error .invalid
  let (hour, cs) ← scanBounded 2 2 0 23 cs
  let cs ← scanChar ':' cs
  let (minute, cs) ← scanBounded 2 2 0 59 cs
  let cs ← scanChar ':' cs
  let (second, cs) ← scanBounded 2 2 0 60 cs
  let (nanos, cs) ← scanOptionalFraction cs
  return (⟨⟨year, month, day⟩, hour, minute, second, nanos⟩, cs)

/-- Reads RFC 3339. -/
def parse (s : String) : Except ReadError Moment := do
  let (fields, cs) ← scanStem s.toList
  let (offset, cs) ← scanOffset (scanChar ':') cs
  if offset < -greatestOffset ∨ greatestOffset < offset then .error .outOfRange
  else if !cs.isEmpty then .error .tooLong
  else fields.moment offset

/-- Drops the blanks at the head of a text. -/
def dropBlanks (cs : List Char) : List Char := cs.dropWhile Text.isBlank

/-- Reads a year of up to four digits, or one with a sign and any number of digits. -/
def scanYear (cs : List Char) : Scan Int :=
  match dropBlanks cs with
  | '-' :: rest => (scanNumber 1 rest.length rest).map (fun r => (-(r.1 : Int), r.2))
  | '+' :: rest => (scanNumber 1 rest.length rest).map (fun r => ((r.1 : Int), r.2))
  | cs => (scanNumber 1 4 cs).map (fun r => ((r.1 : Int), r.2))

/-- Reads a part of one or two digits, with blanks around it. -/
def scanPart (lo hi : Nat) (cs : List Char) : Scan Nat :=
  (scanBounded 1 2 lo hi (dropBlanks cs)).map (fun r => (r.1, dropBlanks r.2))

/-- Drops colons and blanks. -/
def dropSeparators (cs : List Char) : Except ReadError (List Char) :=
  .ok (cs.dropWhile (fun c => c == ':' || Text.isBlank c))

/-- Reads an offset, or the letters `UTC` in any case. -/
def scanZone (cs : List Char) : Scan Int :=
  if (cs.take 3).map Char.toUpper = ['U', 'T', 'C'] then .ok (0, cs.drop 3)
  else scanOffset dropSeparators cs

/-- Reads a moment in RFC 3339 or a looser spelling. -/
def parseLeniently (s : String) : Except ReadError Moment := do
  let (year, cs) ← scanYear s.toList
  let cs ← scanChar '-' (dropBlanks cs)
  let (month, cs) ← scanPart 1 12 cs
  let cs ← scanChar '-' cs
  let (day, cs) ← scanBounded 1 2 1 31 (dropBlanks cs)
  let cs ←
    match cs with
    | [] => .error .tooShort
    | c :: rest => if c = 'T' ∨ c = 't' ∨ c = ' ' then .ok rest else .error .invalid
  let (hour, cs) ← scanPart 0 23 cs
  let cs ← scanChar ':' cs
  let (minute, cs) ← scanPart 0 59 cs
  let cs ← scanChar ':' cs
  let (second, cs) ← scanBounded 1 2 0 60 (dropBlanks cs)
  let (nanos, cs) ← scanOptionalFraction cs
  let (offset, cs) ← scanZone (dropBlanks cs)
  if !(dropBlanks cs).isEmpty then .error .tooLong
  else if offset ≤ -daySeconds ∨ daySeconds ≤ offset then .error .outOfRange
  else Fields.moment ⟨⟨year, month, day⟩, hour, minute, second, nanos⟩ offset

/-- Reads a number of one or two digits, with blanks in front of it. -/
def scanShort (lo hi : Nat) (cs : List Char) : Scan Nat := scanBounded 1 2 lo hi (dropBlanks cs)

/-- Reads a date and a time in universal time that carry no offset. -/
def parseLocal (s : String) : Except ReadError Moment := do
  let (year, cs) ← scanYear s.toList
  let cs ← scanChar '-' cs
  let (month, cs) ← scanShort 1 12 cs
  let cs ← scanChar '-' cs
  let (day, cs) ← scanShort 1 31 cs
  let cs ← scanChar 'T' cs
  let (hour, cs) ← scanShort 0 23 cs
  let cs ← scanChar ':' cs
  let (minute, cs) ← scanShort 0 59 cs
  let cs ← scanChar ':' cs
  let (second, cs) ← scanShort 0 60 cs
  let (nanos, cs) ← scanOptionalFraction cs
  if !cs.isEmpty then .error .tooLong
  else Fields.moment ⟨⟨year, month, day⟩, hour, minute, second, nanos⟩ 0

end Moment
end Biblio
