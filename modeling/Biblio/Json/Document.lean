import Biblio.Json.Basic

/-!
# JSON documents, as far as they can be read

A text that is meant to be JSON may break off or go wrong at any place.  A `Document` is what there
is up to that place, with the reason why it goes no further, and a reader of a document meets the
fault exactly when it gets there: a value of the wrong shape in front of the fault is noticed first.

* `Fault` says why a text could not be read as a value.
* `Document` keeps members in their order, repeated keys included.
* `skip` passes over a value that nobody asks for.  It is content with less than reading is: an
  unpaired surrogate or a number beyond the range of doubles does not matter there.
-/

set_option autoImplicit false

namespace Biblio
namespace Json

/-- Why a JSON text could not be read as a value. -/
inductive Fault where
  /-- The text is not JSON. -/
  | malformed
  /-- The text ends too early. -/
  | truncated
  /-- The value has the wrong shape. -/
  | misshapen
  deriving DecidableEq, Repr

/-- The name of a fault's category. -/
def Fault.category : Fault → String
  | .malformed => "Syntax"
  | .truncated => "Eof"
  | .misshapen => "Data"

mutual

/-- A JSON value up to its first fault. -/
inductive Document where
  | null
  | bool (b : Bool)
  /-- A number; `none` if it is beyond the range of doubles. -/
  | number (value : Option Number)
  /-- A string; `none` if an escape is half of a surrogate pair. -/
  | text (value : Option String)
  /-- An array; `surplus` if items beyond the ones that are asked for may pass. -/
  | array (items : Items) (surplus : Bool)
  | object (members : Members)
  /-- No value can be read here.  The first fault is met by who reads the value, the second by who
  passes over it. -/
  | broken (reading skipping : Fault)

/-- The items of an array up to the first fault. -/
inductive Items where
  | close
  | broken (fault : Fault)
  | item (value : Document) (rest : Items)

/-- The members of an object up to the first fault. -/
inductive Members where
  | close
  | broken (fault : Fault)
  | member (key : Option String) (value : Document) (rest : Members)

end

/-- A number as a value; one that is infinite or no number at all counts as `null`. -/
def ofNumber : Number → Json
  | .int i => .num (.int i)
  | .float x => if x.isFinite then .num (.float x) else .null

/-- A document and what stands behind it. -/
structure Framed where
  body : Document
  /-- Whether something other than blanks follows the value. -/
  trailing : Bool

mutual

/-- Passes over a value. -/
def Document.skip : Document → Except Fault Unit
  | .broken _ f => .error f
  | .array items _ => items.skip
  | .object members => members.skip
  | _ => .ok ()

/-- Passes over the items of an array. -/
def Items.skip : Items → Except Fault Unit
  | .close => .ok ()
  | .broken f => .error f
  | .item v rest =>
    match v.skip with
    | .error f => .error f
    | .ok () => rest.skip

/-- Passes over the members of an object, keys included. -/
def Members.skip : Members → Except Fault Unit
  | .close => .ok ()
  | .broken f => .error f
  | .member _ v rest =>
    match v.skip with
    | .error f => .error f
    | .ok () => rest.skip

end

mutual

/-- Reads a value whatever its shape; `depth` bounds how many containers may be nested. -/
def Document.toJson (depth : Nat) : Document → Except Fault Json
  | .null => .ok .null
  | .bool b => .ok (.bool b)
  | .number (some n) => .ok (ofNumber n)
  | .number none => .error .malformed
  | .text (some s) => .ok (.str s)
  | .text none => .error .malformed
  | .broken f _ => .error f
  | .array items _ =>
    if depth ≤ 1 then .error .malformed
    else
      match items.toJson (depth - 1) with
      | .error f => .error f
      | .ok js => .ok (.arr js)
  | .object members =>
    if depth ≤ 1 then .error .malformed
    else
      match members.toJson (depth - 1) [] with
      | .error f => .error f
      | .ok kvs => .ok (.obj kvs)

/-- Reads the items of an array. -/
def Items.toJson (depth : Nat) : Items → Except Fault (List Json)
  | .close => .ok []
  | .broken f => .error f
  | .item v rest =>
    match v.toJson depth with
    | .error f => .error f
    | .ok j =>
      match rest.toJson depth with
      | .error f => .error f
      | .ok js => .ok (j :: js)

/-- Reads the members of an object into those read before. -/
def Members.toJson (depth : Nat) : Members → List (String × Json) →
    Except Fault (List (String × Json))
  | .close, acc => .ok acc
  | .broken f, _ => .error f
  | .member none _ _, _ => .error .malformed
  | .member (some k) v rest, acc =>
    match v.toJson depth with
    | .error f => .error f
    | .ok j => rest.toJson depth (Text.insertSorted k j acc)

end

mutual

/-- A value as the document that its text would give. -/
def toDocument : Json → Document
  | .null => .null
  | .bool b => .bool b
  | .num n => .number (some n)
  | .str s => .text (some s)
  | .arr items => .array (toItems items) false
  | .obj members => .object (toMembers members)

/-- The items of an array as a document. -/
def toItems : List Json → Items
  | [] => .close
  | j :: rest => .item (toDocument j) (toItems rest)

/-- The members of an object as a document. -/
def toMembers : List (String × Json) → Members
  | [] => .close
  | (k, j) :: rest => .member (some k) (toDocument j) (toMembers rest)

end

end Json
end Biblio
