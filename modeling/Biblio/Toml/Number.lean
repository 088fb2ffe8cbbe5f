import Biblio.Config.Tree
import Biblio.Decimal.Nearest
import Biblio.Toml.Lexeme

/-!
# Numbers and times in TOML

* `scanNumber` reads an integer in base ten, sixteen, eight or two, or a float.  Between two digits an
  underscore may stand; an integer has to fit 64 bits.
* `scanTime` reads a date, a time of day, or both, perhaps with an offset.  A time has no type of its
  own here: it is a branch with its text under `timeMark`.
-/

set_option autoImplicit false

namespace Biblio
namespace Toml

/-! ## Numbers -/

/-- Reads the digits behind the first one. -/
def moreDigits (isDigit : Char → Bool) : List Char → List Char × List Char
  | '_' :: d :: rest =>
    if isDigit d then
      let (ds, rest) := moreDigits isDigit rest
      (d :: ds, rest)
    else ([], '_' :: d :: rest)
  | d :: rest =>
    if isDigit d then
      let (ds, rest) := moreDigits isDigit rest
      (d :: ds, rest)
    else ([], d :: rest)
  | [] => ([], [])

/-- Reads one or more digits. -/
def scanDigits (isDigit : Char → Bool) : List Char → Scan (List Char)
  | d :: rest =>
    if isDigit d then
      let (ds, rest) := moreDigits isDigit rest
      some (d :: ds, rest)
    else none
  | [] => none

/-- Reads digits of which the first is zero only if it is the only one. -/
def scanWhole : List Char → Scan (List Char)
  | '0' :: rest => some (['0'], rest)
  | cs => scanDigits Char.isDigit cs

/-- The value of digits in a base. -/
def valueIn (base : Nat) (ds : List Char) : Nat :=
  ds.foldl (fun n d => base * n + (Json.hexValue? d).getD 0) 0

/-- An integer that fits 64 bits. -/
def fitting (i : Int) : Option Tree :=
  if -9223372036854775808 ≤ i ∧ i ≤ 9223372036854775807 then some (.integer i) else none

/-- Reads an integer in another base. -/
def scanBased (base : Nat) (isDigit : Char → Bool) (cs : List Char) : Scan Tree :=
  match scanDigits isDigit cs with
  | none => none
  | some (ds, rest) => (fitting (valueIn base ds)).map (·, rest)

/-- A binary digit. -/
def isBinary (c : Char) : Bool := c = '0' || c = '1'

/-- An octal digit. -/
def isOctal (c : Char) : Bool := '0' ≤ c && c ≤ '7'

/-- A hexadecimal digit. -/
def isHexadecimal (c : Char) : Bool := (Json.hexValue? c).isSome

/-- Reads the fraction of a float. -/
def scanFraction : List Char → Option (List Char × List Char)
  | '.' :: rest => scanDigits Char.isDigit rest
  | cs => some ([], cs)

/-- Reads the exponent of a float. -/
def scanExponent : List Char → Option (Option Int × List Char)
  | c :: rest =>
    if c = 'e' || c = 'E' then
      let (negative, rest) := Decimal.takeSign rest
      match scanDigits Char.isDigit rest with
      | none => none
      | some (ds, rest) =>
        let n : Int := valueIn 10 ds
        some (some (if negative then -n else n), rest)
    else some (none, c :: rest)
  | [] => some (none, [])

/-- Negates a number that has a minus. -/
def signed (negative : Bool) (x : Float) : Float := if negative then -x else x

/-- Reads an infinity, or what is no number. -/
def scanSpecial (negative : Bool) : List Char → Scan Tree
  | 'i' :: 'n' :: 'f' :: rest => some (.float (signed negative (1.0 / 0.0)), rest)
  | 'n' :: 'a' :: 'n' :: rest => some (.float (signed negative (0.0 / 0.0)), rest)
  | _ => none

/-- Reads a number in base ten. -/
def scanDecimal (cs : List Char) : Scan Tree :=
  let (negative, start) := Decimal.takeSign cs
  match scanWhole start with
  | none => scanSpecial negative start
  | some (whole, rest) =>
    match scanFraction rest with
    | none => none
    | some (fraction, rest) =>
      match scanExponent rest with
      | none => none
      | some (exponent, rest) =>
        if fraction.isEmpty && exponent.isNone then
          let n : Int := valueIn 10 whole
          (fitting (if negative then -n else n)).map (·, rest)
        else
          let digits := valueIn 10 (whole ++ fraction)
          let x := signed negative
            (Decimal.nearest digits (exponent.getD 0 - (fraction.length : Int)))
          if x == 1.0 / 0.0 then none else some (.float x, rest)

/-- Reads a number. -/
def scanNumber : List Char → Scan Tree
  | '0' :: 'x' :: rest => scanBased 16 isHexadecimal rest
  | '0' :: 'o' :: rest => scanBased 8 isOctal rest
  | '0' :: 'b' :: rest => scanBased 2 isBinary rest
  | cs => scanDecimal cs

/-! ## Times -/

/-- The name under which the text of a time stands. -/
def timeMark : String := "$__toml_private_datetime"

/-- Reads a number with a fixed count of digits. -/
def scanFixed (count : Nat) (cs : List Char) : Scan Nat :=
  let ds := cs.take count
  if ds.length = count && ds.all Char.isDigit then some (valueIn 10 ds, cs.drop count) else none

/-- Reads two digits up to a bound. -/
def scanTwo (lo hi : Nat) (cs : List Char) : Scan Nat :=
  match scanFixed 2 cs with
  | some (n, rest) => if lo ≤ n ∧ n ≤ hi then some (n, rest) else none
  | none => none

/-- Passes over a character. -/
def expect (c : Char) : List Char → Option (List Char)
  | d :: rest => if d = c then some rest else none
  | [] => none

/-- The number of days of a month. -/
def daysOf (year month : Nat) : Nat :=
  if month = 2 then
    if year % 4 = 0 ∧ (year % 100 ≠ 0 ∨ year % 400 = 0) then 29 else 28
  else if month = 4 ∨ month = 6 ∨ month = 9 ∨ month = 11 then 30
  else 31

/-- Reads a date. -/
def scanDate (cs : List Char) : Option (List Char × List Char) := do
  let (year, cs) ← scanFixed 4 cs
  let cs ← expect '-' cs
  let (month, cs) ← scanTwo 1 12 cs
  let cs ← expect '-' cs
  let (day, cs) ← scanTwo 1 31 cs
  if daysOf year month < day then none
  else
    some (Decimal.padded 4 year ++ '-' :: (Decimal.padded 2 month ++ '-' :: Decimal.padded 2 day),
      cs)

/-- Reads the fraction of a second; digits after the ninth do not count. -/
def scanSecondFraction : List Char → Scan (List Char)
  | '.' :: rest =>
    let ds := rest.takeWhile Char.isDigit
    if ds.isEmpty then some ([], '.' :: rest)
    else
      let kept := ((ds.take 9).reverse.dropWhile (· = '0')).reverse
      some (if kept.isEmpty then [] else '.' :: kept, rest.drop ds.length)
  | cs => some ([], cs)

/-- Reads a time of day. -/
def scanTimeOfDay (cs : List Char) : Option (List Char × List Char) := do
  let (hour, cs) ← scanTwo 0 23 cs
  let cs ← expect ':' cs
  let (minute, cs) ← scanTwo 0 59 cs
  let cs ← expect ':' cs
  let (second, cs) ← scanTwo 0 60 cs
  let (fraction, cs) ← scanSecondFraction cs
  some
    (Decimal.padded 2 hour ++ ':' :: (Decimal.padded 2 minute ++
      ':' :: (Decimal.padded 2 second ++ fraction)), cs)

/-- Reads an offset from universal time, if there is one. -/
def scanOffset : List Char → Option (List Char × List Char)
  | [] => some ([], [])
  | c :: rest =>
    if c = 'Z' || c = 'z' then some (['Z'], rest)
    else if c = '+' || c = '-' then do
      let (hour, cs) ← scanTwo 0 23 rest
      let cs ← expect ':' cs
      let (minute, cs) ← scanTwo 0 59 cs
      let sign := if c = '-' && (hour != 0 || minute != 0) then '-' else '+'
      some (sign :: (Decimal.padded 2 hour ++ ':' :: Decimal.padded 2 minute), cs)
    else some ([], c :: rest)

/-- A time as a value. -/
def timeTree (text : List Char) : Tree := .branch [(timeMark, .text (String.ofList text))]

/-- Whether a text begins with a date as far as its first hyphen. -/
def looksLikeDate (cs : List Char) : Bool :=
  (scanFixed 4 cs).isSome && (cs.drop 4).head? = some '-'

/-- Whether a text begins with a time of day as far as its first colon. -/
def looksLikeTime (cs : List Char) : Bool :=
  (scanTwo 0 23 cs).isSome && (cs.drop 2).head? = some ':'

/-- Reads a time of day behind a date, if there is one. -/
def scanTimeBehind (date : List Char) : List Char → Option (Tree × List Char)
  | c :: rest =>
    if (c = 'T' || c = 't' || c = ' ') && looksLikeTime rest then do
      let (time, cs) ← scanTimeOfDay rest
      let (offset, cs) ← scanOffset cs
      some (timeTree (date ++ 'T' :: (time ++ offset)), cs)
    else some (timeTree date, c :: rest)
  | [] => some (timeTree date, [])

/-- Reads a date, a time of day, or both. -/
def scanTime (cs : List Char) : Option (Tree × List Char) :=
  if looksLikeDate cs then do
    let (date, cs) ← scanDate cs
    scanTimeBehind date cs
  else do
    let (time, cs) ← scanTimeOfDay cs
    some (timeTree time, cs)

end Toml
end Biblio
