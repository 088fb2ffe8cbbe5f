import Biblio.Text.Order

/-!
# JSON values

* `Json` is a JSON value.  The members of an object are kept in key order, one per key; `insert`
  and `ofMembers` keep that order.
* A number is an integer or a double, and the two never compare equal.
-/

set_option autoImplicit false

namespace Biblio

/-- A JSON number: an integer of at most 64 bits, signed or unsigned, or a double. -/
inductive Number where
  | int (i : Int)
  | float (x : Float)
  deriving BEq, Inhabited

namespace Number

/-- The least integer that is kept as one. -/
def leastInt : Int := -9223372036854775808

/-- The greatest integer that is kept as one. -/
def greatestInt : Int := 18446744073709551615

end Number

/-- A JSON value. -/
inductive Json where
  | null
  | bool (b : Bool)
  | num (n : Number)
  | str (s : String)
  | arr (items : List Json)
  | obj (members : List (String × Json))
  deriving Inhabited

namespace Json

mutual

/-- Whether two values are of the same kind and have equal parts. -/
def beq : Json → Json → Bool
  | .null, .null => true
  | .bool a, .bool b => a == b
  | .num a, .num b => a == b
  | .str a, .str b => a == b
  | .arr as, .arr bs => beqItems as bs
  | .obj as, .obj bs => beqMembers as bs
  | _, _ => false

/-- Whether two lists have equal items. -/
def beqItems : List Json → List Json → Bool
  | [], [] => true
  | a :: as, b :: bs => a.beq b && beqItems as bs
  | _, _ => false

/-- Whether two lists have equal members. -/
def beqMembers : List (String × Json) → List (String × Json) → Bool
  | [], [] => true
  | (k, a) :: as, (l, b) :: bs => k == l && a.beq b && beqMembers as bs
  | _, _ => false

end

instance : BEq Json := ⟨beq⟩

/-- The object with the given members; of two with one key the later counts. -/
def ofMembers (members : List (String × Json)) : Json :=
  .obj (members.foldl (fun acc m => Text.insertSorted m.1 m.2 acc) [])

/-- A natural number as JSON. -/
def nat (n : Nat) : Json := .num (.int n)

/-- A list of strings as JSON. -/
def strs (ss : List String) : Json := .arr (ss.map .str)

/-- The members that are present, for objects that leave absent members out. -/
def present (members : List (String × Option Json)) : List (String × Json) :=
  members.filterMap (fun m => m.2.map (m.1, ·))

/-- The object of the members that are present. -/
def ofPresent (members : List (String × Option Json)) : Json := ofMembers (present members)

/-- The member of an object under a key. -/
def get? (j : Json) (key : String) : Option Json :=
  match j with
  | .obj members => members.lookup key
  | _ => none

/-- The given value, or `null`. -/
def ofOption {α : Type} (f : α → Json) (o : Option α) : Json :=
  match o with
  | some a => f a
  | none => .null

end Json
end Biblio
