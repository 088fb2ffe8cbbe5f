import Biblio.Decimal.Digits
import Biblio.Json.Decoder
import Biblio.Text.Quoted

/-!
# Network addresses

* `Address.parse` reads an address of either version: four numbers, or up to eight groups of
  hexadecimal digits with one gap, of which the last two may be written as four numbers.
* `Address.render` writes it: the longest gap is shortened, and an address that embeds one of the
  other version shows it.
-/

set_option autoImplicit false

namespace Biblio

/-- A network address of version four or six. -/
inductive Address where
  | v4 (octets : List Nat)
  | v6 (groups : List Nat)
  deriving DecidableEq, Repr, Inhabited

namespace Address

/-- The address that stands for every interface. -/
def unspecified : Address := .v4 [0, 0, 0, 0]

/-! ## Reading -/

/-- Reads a number of one to three decimal digits, at most 255, without a zero in front. -/
def scanOctet (cs : List Char) : Option (Nat × List Char) :=
  let run := (cs.take 3).takeWhile Char.isDigit
  match run with
  | [] => none
  | d :: more =>
    let n := Decimal.ofDigitsFrom 0 run
    if (d = '0' ∧ !more.isEmpty) ∨ 255 < n then none else some (n, cs.drop run.length)

/-- Reads the given number of octets after the first, with points in front. -/
def scanOctets : Nat → List Char → Option (List Nat × List Char)
  | 0, cs => some ([], cs)
  | n + 1, cs =>
    match cs with
    | '.' :: rest =>
      match scanOctet rest with
      | none => none
      | some (o, rest) => (scanOctets n rest).map (fun r => (o :: r.1, r.2))
    | _ => none

/-- Reads four octets. -/
def scanV4 (cs : List Char) : Option (List Nat × List Char) :=
  match scanOctet cs with
  | none => none
  | some (o, rest) => (scanOctets 3 rest).map (fun r => (o :: r.1, r.2))

/-- The value of a hexadecimal digit. -/
def hexValue (c : Char) : Nat := (Json.hexValue? c).getD 0

/-- Reads one to four hexadecimal digits. -/
def scanGroup (cs : List Char) : Option (Nat × List Char) :=
  let run := (cs.take 4).takeWhile (fun c => (Json.hexValue? c).isSome)
  if run.isEmpty then none
  else some (run.foldl (fun n c => 16 * n + hexValue c) 0, cs.drop run.length)

/-- Takes the colon that separates a group from the one before it. -/
def separated (first : Bool) (cs : List Char) : Option (List Char) :=
  if first then some cs
  else
    match cs with
    | ':' :: rest => some rest
    | _ => none

/-- Reads at most `limit` groups, with a colon in front of all but the first; also says whether the
last two were written as octets. -/
def scanGroups : Nat → Bool → List Char → List Nat × Bool × List Char
  | 0, _, cs => ([], false, cs)
  | limit + 1, first, cs =>
    match separated first cs with
    | none => ([], false, cs)
    | some start =>
      match (if limit = 0 then none else scanV4 start) with
      | some ([a, b, c, d], rest) => ([a * 256 + b, c * 256 + d], true, rest)
      | _ =>
        match scanGroup start with
        | none => ([], false, cs)
        | some (g, rest) =>
          let (gs, embedded, rest) := scanGroups limit false rest
          (g :: gs, embedded, rest)

/-- Reads eight groups, or fewer with a gap. -/
def scanV6 (cs : List Char) : Option (List Nat × List Char) :=
  let (front, embedded, rest) := scanGroups 8 true cs
  if front.length = 8 then some (front, rest)
  else if embedded then none
  else
    match rest with
    | ':' :: ':' :: rest =>
      let (back, _, rest) := scanGroups (7 - front.length) true rest
      some (front ++ List.replicate (8 - front.length - back.length) 0 ++ back, rest)
    | _ => none

/-- Reads an address. -/
def parse (s : String) : Option Address :=
  match scanV4 s.toList with
  | some (octets, []) => some (.v4 octets)
  | some _ => none
  | none =>
    match scanV6 s.toList with
    | some (groups, []) => some (.v6 groups)
    | _ => none

/-! ## Writing -/

/-- Octets with points between them. -/
def octetsText (octets : List Nat) : String := ".".intercalate (octets.map Decimal.text)

/-- Groups with colons between them. -/
def groupsText (groups : List Nat) : String :=
  ":".intercalate (groups.map (fun g => String.ofList (Text.hexDigits g)))

/-- The number of zeros at the head of a list. -/
def leadingZeros (groups : List Nat) : Nat := (groups.takeWhile (· == 0)).length

/-- The place and length of the first of the longest runs of zeros, from place `i` on. -/
def longestGap : Nat → List Nat → Nat × Nat
  | _, [] => (0, 0)
  | i, g :: gs =>
    let later := longestGap (i + 1) gs
    let here := leadingZeros (g :: gs)
    if later.2 ≤ here then (i, here) else later

/-- The text of an address. -/
def render : Address → String
  | .v4 octets => octetsText octets
  | .v6 [0, 0, 0, 0, 0, 0xffff, high, low] =>
    "::ffff:" ++ octetsText [high / 256, high % 256, low / 256, low % 256]
  | .v6 groups =>
    let (start, length) := longestGap 0 groups
    if 1 < length then
      groupsText (groups.take start) ++ "::" ++ groupsText (groups.drop (start + length))
    else groupsText groups

/-- The address of a port in a message. -/
def withPort (a : Address) (port : String) : String :=
  match a with
  | .v4 _ => a.render ++ ":" ++ port
  | .v6 _ => "[" ++ a.render ++ "]:" ++ port

def decoder : Json.Decoder Address := fun depth d =>
  match Json.Decoder.text depth d with
  | .error f => .error f
  | .ok s =>
    match parse s with
    | some a => .ok a
    | none => .error .misshapen

end Address
end Biblio
