import Biblio.Definition.Basic
import Biblio.Json.Printer

/-!
# The store

The store keeps provider definitions and health records in two tables.

* A definition is stored with its settings and its tags as JSON text, and a health record with its
  moments as RFC 3339 text and its counts as signed numbers; `DefinitionRow.read` and
  `HealthRow.read` turn rows back.
* `Store.insert` assigns identifiers, which are never used again; `Store.delete` removes the health
  record together with the definition, or neither.
* A table may be out of order, and then everything that needs it fails with that fault.  Keeping track
  of health and removing definitions reach the health records through interfaces of their own, so that
  one may fail without the other; a table that is broken for good has both faults.
-/

set_option autoImplicit false

namespace Biblio

/-- Why the store did not do something. -/
inductive StoreError where
  | notFound (id : Int)
  | database (fault : String)
  deriving DecidableEq, Repr, Inhabited

/-- The wording of a store error. -/
def StoreError.message : StoreError → String
  | .notFound id => "Provider not found: " ++ Decimal.intText id
  | .database fault => "Database error: " ++ fault

/-- A stored definition. -/
structure DefinitionRow where
  id : Int
  name : String
  implementation : String
  priority : Nat
  forAuthors : Bool
  forBooks : Bool
  forRefresh : Bool
  /-- The settings as JSON text. -/
  settings : String
  /-- The tags as JSON text. -/
  tags : String
  deriving DecidableEq, Repr, Inhabited

namespace DefinitionRow

/-- The row of a definition under an identifier. -/
def write (id : Int) (d : Definition) : DefinitionRow where
  id := id
  name := d.name
  implementation := d.implementation
  priority := d.priority
  forAuthors := d.forAuthors
  forBooks := d.forBooks
  forRefresh := d.forRefresh
  settings := d.settings.render
  tags := (Json.strs d.tags).render

/-- The definition in a row.  Settings or tags that do not read back are taken as none. -/
def read (r : DefinitionRow) : Definition where
  id := r.id
  name := r.name
  implementation := r.implementation
  priority := r.priority
  forAuthors := r.forAuthors
  forBooks := r.forBooks
  forRefresh := r.forRefresh
  settings := (Json.parse r.settings).toOption.getD .null
  tags := (Json.Decoder.ofString (Json.Decoder.list Json.Decoder.text) r.tags).toOption.getD []

end DefinitionRow

/-- A stored health record. -/
structure HealthRow where
  providerId : Int
  lastSuccess : Option String
  successes : Int
  failures : Int
  level : Nat
  firstFailure : Option String
  lastFailure : Option String
  suspendedTill : Option String
  deriving DecidableEq, Repr, Inhabited

/-- A count as a signed number of 64 bits. -/
def signedCount (n : Nat) : Int :=
  if n < 9223372036854775808 then n else (n : Int) - 18446744073709551616

/-- A moment in a column. -/
def writeMoment (m : Option Moment) : Option String := m.map Moment.renderNumeric

/-- The moment in a column; text that is no moment counts as none. -/
def readMoment (s : Option String) : Option Moment := s.bind (fun t => (Moment.parse t).toOption)

namespace HealthRow

/-- The row of a health record. -/
def write (h : Health) : HealthRow where
  providerId := h.providerId
  lastSuccess := writeMoment h.lastSuccess
  successes := signedCount h.successes
  failures := signedCount h.failures
  level := h.level
  firstFailure := writeMoment h.firstFailure
  lastFailure := writeMoment h.lastFailure
  suspendedTill := writeMoment h.suspendedTill

/-- The health record in a row; a negative count is taken as zero. -/
def read (r : HealthRow) : Health where
  providerId := r.providerId
  lastSuccess := readMoment r.lastSuccess
  successes := r.successes.toNat
  failures := r.failures.toNat
  level := r.level
  firstFailure := readMoment r.firstFailure
  lastFailure := readMoment r.lastFailure
  suspendedTill := readMoment r.suspendedTill

end HealthRow

/-- Definitions and health records. -/
structure Store where
  /-- The definitions in ascending order of their identifiers. -/
  definitions : List DefinitionRow := []
  /-- The health records in ascending order of their providers. -/
  healths : List HealthRow := []
  /-- The greatest identifier that was ever assigned. -/
  lastId : Int := 0
  /-- Why the table of definitions cannot be used. -/
  definitionFault : Option String := none
  /-- Why health records cannot be read or stored by those who keep track of providers. -/
  healthFault : Option String := none
  /-- Why a health record cannot be removed along with its definition. -/
  removalFault : Option String := none
  deriving Inhabited

namespace Store

/-- Goes on only if a table is in order. -/
def checked {α : Type} (fault : Option String) (go : Except StoreError α) : Except StoreError α :=
  match fault with
  | some f => .error (.database f)
  | none => go

/-! ## Definitions -/

/-- Stores a new definition under a new identifier. -/
def insert (s : Store) (d : Definition) : Except StoreError (Definition × Store) :=
  checked s.definitionFault
    (let id := s.lastId + 1
    .ok ({ d with id := id, health := none },
      { s with definitions := s.definitions ++ [DefinitionRow.write id d], lastId := id }))

/-- Replaces the definition under its identifier. -/
def update (s : Store) (d : Definition) : Except StoreError (Definition × Store) :=
  checked s.definitionFault
    (if s.definitions.any (fun r => r.id == d.id) then
      .ok (d.bare,
        { s with
          definitions :=
            s.definitions.map (fun r => if r.id = d.id then DefinitionRow.write d.id d else r) })
    else .error (.notFound d.id))

/-- Removes a definition and its health record; if the record cannot be removed the definition stays. -/
def delete (s : Store) (id : Int) : Except StoreError Store :=
  checked s.definitionFault
    (if s.definitions.any (fun r => r.id == id) then
      checked s.removalFault
        (.ok
          { s with
            definitions := s.definitions.filter (fun r => r.id != id)
            healths := s.healths.filter (fun r => r.providerId != id) })
    else .error (.notFound id))

/-- The definition under an identifier. -/
def find? (s : Store) (id : Int) : Except StoreError (Option Definition) :=
  checked s.definitionFault
    (.ok ((s.definitions.find? (fun r => r.id == id)).map DefinitionRow.read))

/-- Every definition, in ascending order of the identifiers. -/
def all (s : Store) : Except StoreError (List Definition) :=
  checked s.definitionFault (.ok (s.definitions.map DefinitionRow.read))

/-! ## Health records -/

/-- Puts a row into a list in ascending order, in place of the one for the same provider. -/
def putRow (row : HealthRow) : List HealthRow → List HealthRow
  | [] => [row]
  | r :: rest =>
    if row.providerId = r.providerId then row :: rest
    else if row.providerId < r.providerId then row :: r :: rest
    else r :: putRow row rest

/-- Stores a health record, in place of the one for the same provider. -/
def putHealth (s : Store) (h : Health) : Except StoreError Store :=
  checked s.healthFault (.ok { s with healths := putRow (HealthRow.write h) s.healths })

/-- The health record of a provider. -/
def findHealth? (s : Store) (id : Int) : Except StoreError (Option Health) :=
  checked s.healthFault
    (.ok ((s.healths.find? (fun r => r.providerId == id)).map HealthRow.read))

/-- Every health record, in ascending order of the providers. -/
def allHealths (s : Store) : Except StoreError (List Health) :=
  checked s.healthFault (.ok (s.healths.map HealthRow.read))

/-- Removes the health record of a provider, if there is one. -/
def deleteHealth (s : Store) (id : Int) : Except StoreError Store :=
  checked s.healthFault
    (.ok { s with healths := s.healths.filter (fun r => r.providerId != id) })

end Store
end Biblio
