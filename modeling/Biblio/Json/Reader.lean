import Biblio.Json.Document
import Biblio.Decimal.Digits

/-!
# Reading JSON text

`Document.ofString` reads a text as far as it is JSON.

* `NumberText` is a number as it is spelled; `NumberText.value?` is what it stands for.  Digits that
  do not fit a 64-bit significand are dropped, and the significand is then scaled by a power of ten
  in double arithmetic.
* `scanString` reads a string literal into pieces, `assemble` joins the pieces and pairs surrogates.
* The three readers of values, items and members consume a character at every other call, so twice
  the length of the text is enough fuel.
-/

set_option autoImplicit false

namespace Biblio
namespace Json

/-- Drops the blanks that JSON knows. -/
def dropBlanks : List Char → List Char
  | ' ' :: cs => dropBlanks cs
  | '\n' :: cs => dropBlanks cs
  | '\t' :: cs => dropBlanks cs
  | '\r' :: cs => dropBlanks cs
  | cs => cs

/-! ## Numbers -/

/-- A number as it is spelled. -/
structure NumberText where
  negative : Bool
  whole : List Char
  fraction : Option (List Char)
  /-- The sign of the exponent, `true` for a minus, and its digits. -/
  exponent : Option (Bool × List Char)

/-- The number of values of 64 bits. -/
def wordCount : Nat := 18446744073709551616

/-- Appends digits to a significand while it fits 64 bits; the digits that are left do not fit. -/
def absorb (significand : Nat) : List Char → Nat × List Char
  | [] => (significand, [])
  | c :: cs =>
    let next := 10 * significand + Decimal.digitValue c
    if next < wordCount then absorb next cs else (significand, c :: cs)

/-- The double nearest to a power of ten. -/
def powerOfTen (k : Nat) : Float := Float.ofScientific 1 false k

/-- Scales a double by a power of ten; none if the result is beyond the range of doubles.  A
divisor beyond the range is applied in steps, of which the first three leave nothing. -/
def scaleByTen : Nat → Float → Int → Option Float
  | 0, x, _ => some x
  | fuel + 1, x, k =>
    if k.natAbs ≤ 308 then
      if 0 ≤ k then
        let y := x * powerOfTen k.natAbs
        if y.isInf then none else some y
      else some (x / powerOfTen k.natAbs)
    else if x == 0.0 then some x
    else if 0 ≤ k then none
    else scaleByTen fuel (x / powerOfTen 308) (k + 308)

/-- The largest exponent that is still counted. -/
def greatestExponent : Nat := 2147483647

/-- The double of a significand and a power of ten. -/
def floatOf? (negative : Bool) (significand : Nat) (exponent : Int) : Option Float :=
  (scaleByTen 8 significand.toUInt64.toFloat exponent).map (fun x => if negative then -x else x)

/-- What a number stands for: an integer if it is spelled as one and fits 64 bits, else a double;
none if it is beyond the range of doubles. -/
def NumberText.value? (t : NumberText) : Option Number :=
  let (s, dropped) := absorb 0 t.whole
  match t.fraction, t.exponent with
  | none, none =>
    if dropped.isEmpty then
      if !t.negative then some (.int s)
      else if 0 < s ∧ 2 * s ≤ wordCount then some (.int (-s))
      else some (.float (-(s.toUInt64.toFloat)))
    else (floatOf? t.negative s dropped.length).map .float
  | fraction, exponent =>
    let ds := fraction.getD []
    let (s, unread) := absorb s ds
    let shift : Int := dropped.length - (ds.length - unread.length : Nat)
    match exponent with
    | none => (floatOf? t.negative s shift).map .float
    | some (minus, es) =>
      let e := Decimal.ofDigitsFrom 0 es
      if greatestExponent < e then
        if s ≠ 0 ∧ !minus then none
        else some (.float (if t.negative then -0.0 else 0.0))
      else (floatOf? t.negative s (if minus then shift - e else shift + e)).map .float

/-- The fault of a number that stops short of a digit it needs: what comes next decides. -/
def shortNumber (rest : List Char) : Document :=
  .broken (if rest.isEmpty then .truncated else .malformed) .malformed

/-- Reads an exponent, if there is one, and completes the number with it. -/
def readExponent (negative : Bool) (whole : List Char) (fraction : Option (List Char))
    (cs : List Char) : Document × List Char :=
  match cs with
  | c :: rest =>
    if c = 'e' ∨ c = 'E' then
      let (minus, rest) :=
        match rest with
        | '+' :: r => (false, r)
        | '-' :: r => (true, r)
        | r => (false, r)
      let es := rest.takeWhile Char.isDigit
      let after := rest.dropWhile Char.isDigit
      if es.isEmpty then (shortNumber after, [])
      else (.number (NumberText.value? ⟨negative, whole, fraction, some (minus, es)⟩), after)
    else (.number (NumberText.value? ⟨negative, whole, fraction, none⟩), cs)
  | [] => (.number (NumberText.value? ⟨negative, whole, fraction, none⟩), [])

/-- Reads a number after its sign. -/
def readUnsigned (negative : Bool) (cs : List Char) : Document × List Char :=
  let whole := cs.takeWhile Char.isDigit
  let rest := cs.dropWhile Char.isDigit
  if whole.isEmpty then (shortNumber rest, [])
  else if whole.head? == some '0' && whole.length != 1 then (.broken .malformed .malformed, [])
  else
    match rest with
    | '.' :: r =>
      let ds := r.takeWhile Char.isDigit
      let after := r.dropWhile Char.isDigit
      if ds.isEmpty then (shortNumber after, [])
      else readExponent negative whole (some ds) after
    | _ => readExponent negative whole none rest

/-! ## Strings -/

/-- A part of a string literal: a character, or a 16-bit unit from an escape. -/
inductive Piece where
  | char (c : Char)
  | unit (n : Nat)

/-- The value of a hexadecimal digit. -/
def hexValue? (c : Char) : Option Nat :=
  if c.isDigit then some (c.toNat - 48)
  else if 'a' ≤ c ∧ c ≤ 'f' then some (c.toNat - 87)
  else if 'A' ≤ c ∧ c ≤ 'F' then some (c.toNat - 55)
  else none

/-- The character that a one-letter escape stands for. -/
def escaped? : Char → Option Char
  | '"' => some '"'
  | '\\' => some '\\'
  | '/' => some '/'
  | 'b' => some '\x08'
  | 'f' => some '\x0c'
  | 'n' => some '\n'
  | 'r' => some '\r'
  | 't' => some '\t'
  | _ => none

/-- The pieces of a string literal after its opening mark, and what follows the closing mark or why
there is none. -/
def scanString : List Char → List Piece × Except Fault (List Char)
  | [] => ([], .error .truncated)
  | '"' :: rest => ([], .ok rest)
  | '\\' :: 'u' :: a :: b :: c :: d :: rest =>
    match hexValue? a, hexValue? b, hexValue? c, hexValue? d with
    | some a, some b, some c, some d =>
      let (ps, r) := scanString rest
      (.unit (((a * 16 + b) * 16 + c) * 16 + d) :: ps, r)
    | _, _, _, _ => ([], .error .malformed)
  | '\\' :: 'u' :: rest =>
    ([], .error (if (String.ofList rest).utf8ByteSize < 4 then .truncated else .malformed))
  | '\\' :: e :: rest =>
    match escaped? e with
    | some c =>
      let (ps, r) := scanString rest
      (.char c :: ps, r)
    | none => ([], .error .malformed)
  | ['\\'] => ([], .error .truncated)
  | c :: rest =>
    if c.toNat < 0x20 then ([], .error .malformed)
    else
      let (ps, r) := scanString rest
      (.char c :: ps, r)

/-- The first half of a surrogate pair. -/
def isHighSurrogate (n : Nat) : Bool := 0xD800 ≤ n && n ≤ 0xDBFF

/-- The second half of a surrogate pair. -/
def isLowSurrogate (n : Nat) : Bool := 0xDC00 ≤ n && n ≤ 0xDFFF

/-- The text of a string's pieces, unless a surrogate stands alone.  A first half may stand at the
end of pieces that are only `partly` known. -/
def assemble (partly : Bool) : List Piece → Option (List Char)
  | [] => some []
  | .char c :: ps => (assemble partly ps).map (c :: ·)
  | [.unit n] =>
    if isLowSurrogate n then none
    else if isHighSurrogate n then (if partly then some [] else none)
    else some [Char.ofNat n]
  | .unit n :: .unit m :: ps =>
    if isLowSurrogate n then none
    else if isHighSurrogate n then
      if isLowSurrogate m then
        (assemble partly ps).map
          (Char.ofNat (0x10000 + (n - 0xD800) * 0x400 + (m - 0xDC00)) :: ·)
      else none
    else (assemble partly (.unit m :: ps)).map (Char.ofNat n :: ·)
  | .unit n :: .char c :: ps =>
    if isLowSurrogate n || isHighSurrogate n then none
    else (assemble partly ps).map (fun cs => Char.ofNat n :: c :: cs)

/-- The fault that a reader of an unfinished string meets: a lone surrogate comes first. -/
def unfinished (ps : List Piece) (f : Fault) : Fault :=
  if (assemble true ps).isSome then f else .malformed

/-! ## Values -/

/-- Reads one of the three literal names, whose first letter has been seen. -/
def readName (value : Document) : List Char → List Char → Document × List Char
  | [], cs => (value, cs)
  | _ :: _, [] => (.broken .truncated .truncated, [])
  | e :: es, c :: cs =>
    if c = e then readName value es cs else (.broken .malformed .malformed, [])

mutual

/-- Reads a value. -/
def readValue : Nat → List Char → Document × List Char
  | 0, _ => (.broken .truncated .truncated, [])
  | fuel + 1, cs =>
    match dropBlanks cs with
    | [] => (.broken .truncated .truncated, [])
    | '"' :: rest =>
      match scanString rest with
      | (ps, .ok rest) => (.text ((assemble false ps).map String.ofList), rest)
      | (ps, .error f) => (.broken (unfinished ps f) f, [])
    | '[' :: rest =>
      match dropBlanks rest with
      | ']' :: rest => (.array .close false, rest)
      | [] => (.array (.broken .truncated) false, [])
      | rest =>
        let (items, rest) := readItems fuel rest
        (.array items false, rest)
    | '\x7b' :: rest =>
      match dropBlanks rest with
      | '\x7d' :: rest => (.object .close, rest)
      | rest =>
        let (members, rest) := readMembers fuel rest
        (.object members, rest)
    | 'n' :: rest => readName .null ['u', 'l', 'l'] rest
    | 't' :: rest => readName (.bool true) ['r', 'u', 'e'] rest
    | 'f' :: rest => readName (.bool false) ['a', 'l', 's', 'e'] rest
    | '-' :: rest => readUnsigned true rest
    | c :: rest =>
      if c.isDigit then readUnsigned false (c :: rest)
      else (.broken .malformed .malformed, [])

/-- Reads the items of an array from the first one on. -/
def readItems : Nat → List Char → Items × List Char
  | 0, _ => (.broken .truncated, [])
  | fuel + 1, cs =>
    let (v, rest) := readValue fuel cs
    match dropBlanks rest with
    | ']' :: rest => (.item v .close, rest)
    | [] => (.item v (.broken .truncated), [])
    | ',' :: rest =>
      match dropBlanks rest with
      | [] => (.item v (.broken .truncated), [])
      | ']' :: _ => (.item v (.broken .malformed), [])
      | rest =>
        let (items, rest) := readItems fuel rest
        (.item v items, rest)
    | _ => (.item v (.broken .malformed), [])

/-- Reads the members of an object from the first key on. -/
def readMembers : Nat → List Char → Members × List Char
  | 0, _ => (.broken .truncated, [])
  | fuel + 1, cs =>
    match dropBlanks cs with
    | [] => (.broken .truncated, [])
    | '"' :: rest =>
      match scanString rest with
      | (ps, .error f) => (.broken (unfinished ps f), [])
      | (ps, .ok rest) =>
        let key := (assemble false ps).map String.ofList
        match dropBlanks rest with
        | ':' :: rest =>
          let (v, rest) := readValue fuel rest
          match dropBlanks rest with
          | '\x7d' :: rest => (.member key v .close, rest)
          | [] => (.member key v (.broken .truncated), [])
          | ',' :: rest =>
            let (members, rest) := readMembers fuel rest
            (.member key v members, rest)
          | _ => (.member key v (.broken .malformed), [])
        | [] => (.member key (.broken .truncated .truncated) .close, [])
        | _ => (.member key (.broken .malformed .malformed) .close, [])
    | _ => (.broken .malformed, [])

end

/-- The document of a text. -/
def Framed.ofString (s : String) : Framed :=
  let cs := s.toList
  let (body, rest) := readValue (2 * cs.length + 2) cs
  ⟨body, !(dropBlanks rest).isEmpty⟩

/-- How many containers may be nested in a value that is read. -/
def nestingLimit : Nat := 128

/-- Reads a text as a JSON value. -/
def parse (s : String) : Except Fault Json :=
  let framed := Framed.ofString s
  match framed.body.toJson nestingLimit with
  | .error f => .error f
  | .ok j => if framed.trailing then .error .malformed else .ok j

end Json
end Biblio
