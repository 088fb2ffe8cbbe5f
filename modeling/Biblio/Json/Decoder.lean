import Biblio.Json.Reader

/-!
# Typed reading of JSON documents

A `Decoder α` reads a document as a value of type `α`, in the order of the text, so that the first
fault on the way is the one that is reported.

* Scalars: `integer`, `natural`, `text`, `boolean`, `single`; and `value`, which reads anything.
* `optional` reads `null` as an absent value, `list` an array, `choice` one of a set of names.
* `record` reads a structure from an object, in which unknown members do not matter and a repeated
  one is a fault, or from an array of the fields in their order.
-/

set_option autoImplicit false

namespace Biblio
namespace Json

/-- Reads a document as an `α`.  The number is how many containers may still be nested. -/
abbrev Decoder (α : Type) := Nat → Document → Except Fault α

namespace Decoder

/-- The fault of a document that has the wrong shape: a scalar is read first, and may itself be at
fault. -/
def mismatch : Document → Fault
  | .broken f _ => f
  | .number none => .malformed
  | .text none => .malformed
  | _ => .misshapen

/-- An integer between two bounds. -/
def integer (lo hi : Int) : Decoder Int := fun _ d =>
  match d with
  | .number (some (.int i)) => if lo ≤ i ∧ i ≤ hi then .ok i else .error .misshapen
  | d => .error (mismatch d)

/-- A natural number up to a bound. -/
def natural (hi : Nat) : Decoder Nat := fun depth d =>
  (integer 0 hi depth d).map Int.toNat

/-- A string. -/
def text : Decoder String := fun _ d =>
  match d with
  | .text (some s) => .ok s
  | d => .error (mismatch d)

/-- A truth value. -/
def boolean : Decoder Bool := fun _ d =>
  match d with
  | .bool b => .ok b
  | d => .error (mismatch d)

/-- The single-precision value nearest to a number. -/
def toSingle : Number → Float32
  | .int i => if 0 ≤ i then i.toNat.toUInt64.toFloat32 else -(i.natAbs.toUInt64.toFloat32)
  | .float x => x.toFloat32

/-- A single-precision number. -/
def single : Decoder Float32 := fun _ d =>
  match d with
  | .number (some n) => .ok (toSingle n)
  | d => .error (mismatch d)

/-- Any value. -/
def value : Decoder Json := fun depth d => d.toJson depth

/-- A value, or none for `null`. -/
def optional {α : Type} (inner : Decoder α) : Decoder (Option α) := fun depth d =>
  match d with
  | .null => .ok none
  | d => (inner depth d).map some

/-- Reads items one after the other. -/
def items {α : Type} (inner : Decoder α) (depth : Nat) : Items → Except Fault (List α)
  | .close => .ok []
  | .broken f => .error f
  | .item v rest =>
    match inner depth v with
    | .error f => .error f
    | .ok a => (items inner depth rest).map (a :: ·)

/-- An array. -/
def list {α : Type} (inner : Decoder α) : Decoder (List α) := fun depth d =>
  match d with
  | .array xs _ => if depth ≤ 1 then .error .malformed else items inner (depth - 1) xs
  | d => .error (mismatch d)

/-! ## Records -/

/-- Whether a field may be left out. -/
inductive Presence where
  /-- It must be there. -/
  | required
  /-- It may be missing from an object, but not from an array. -/
  | omissible
  /-- It may be missing from either and then keeps its default. -/
  | defaulted
  deriving DecidableEq

/-- A field of a record: how it is called and how its value is set. -/
structure Field (ρ : Type) where
  name : String
  presence : Presence
  read : Decoder (ρ → ρ)

/-- A field with a decoder for its value and a way to set it. -/
def field {ρ α : Type} (name : String) (presence : Presence) (inner : Decoder α)
    (set : α → ρ → ρ) : Field ρ where
  name := name
  presence := presence
  read := fun depth d => (inner depth d).map set

/-- Reads the members of a record into `r`; `seen` are the fields that were read before. -/
def members {ρ : Type} (fields : List (Field ρ)) (depth : Nat) :
    Members → List String → ρ → Except Fault ρ
  | .close, seen, r =>
    if fields.all (fun f => f.presence != .required || seen.contains f.name) then .ok r
    else .error .misshapen
  | .broken f, _, _ => .error f
  | .member none _ _, _, _ => .error .malformed
  | .member (some k) v rest, seen, r =>
    match fields.find? (fun f => f.name == k) with
    | none =>
      match v.skip with
      | .error f => .error f
      | .ok () => members fields depth rest seen r
    | some f =>
      if seen.contains k then .error .misshapen
      else
        match f.read depth v with
        | .error e => .error e
        | .ok set => members fields depth rest (k :: seen) (set r)

/-- Reads the fields of a record in their order from the items of an array. -/
def positions {ρ : Type} (surplus : Bool) (depth : Nat) :
    List (Field ρ) → Items → ρ → Except Fault ρ
  | [], .close, r => .ok r
  | [], .broken f, _ => .error f
  | [], .item _ _, r => if surplus then .ok r else .error .malformed
  | f :: fs, .close, r =>
    if f.presence == .defaulted then positions surplus depth fs .close r else .error .misshapen
  | _ :: _, .broken e, _ => .error e
  | f :: fs, .item v rest, r =>
    match f.read depth v with
    | .error e => .error e
    | .ok set => positions surplus depth fs rest (set r)

/-- A record, read over the values that fields have by default. -/
def record {ρ : Type} (fields : List (Field ρ)) (blank : ρ) : Decoder ρ := fun depth d =>
  match d with
  | .object ms =>
    if depth ≤ 1 then .error .malformed else members fields (depth - 1) ms [] blank
  | .array xs surplus =>
    if depth ≤ 1 then .error .malformed else positions surplus (depth - 1) fields xs blank
  | d => .error (mismatch d)

/-! ## Choices -/

/-- Accepts `null` as the content of a name that carries none. -/
def nothing : Document → Except Fault Unit
  | .null => .ok ()
  | d => .error (mismatch d)

/-- One of a set of names: a string, or an object whose only member is that name with `null`. -/
def choice {α : Type} (names : List (String × α)) : Decoder α := fun depth d =>
  match d with
  | .text (some s) =>
    match names.lookup s with
    | some a => .ok a
    | none => .error .misshapen
  | .object ms =>
    if depth ≤ 1 then .error .malformed
    else
      match ms with
      | .close => .error .malformed
      | .broken f => .error f
      | .member none _ _ => .error .malformed
      | .member (some k) v rest =>
        match names.lookup k with
        | none => .error .misshapen
        | some a =>
          match nothing v with
          | .error f => .error f
          | .ok () =>
            match rest with
            | .close => .ok a
            | .broken f => .error f
            | .member _ _ _ => .error .malformed
  | .broken f _ => .error f
  | _ => .error .malformed

/-! ## Whole texts -/

/-- Reads a text that must hold one value and nothing else. -/
def ofString {α : Type} (decoder : Decoder α) (s : String) : Except Fault α :=
  let framed := Framed.ofString s
  match decoder nestingLimit framed.body with
  | .error f => .error f
  | .ok a => if framed.trailing then .error .malformed else .ok a

/-- Reads a value that has been read as JSON before.  All that can be wrong with it is its
shape. -/
def ofJson {α : Type} (decoder : Decoder α) (j : Json) : Option α :=
  (decoder nestingLimit j.toDocument).toOption

end Decoder
end Json
end Biblio
