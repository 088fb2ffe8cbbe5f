import Biblio.Store.Basic

/-!
# Keeping track of health

The health records in the store decide whether a provider is asked.  Keeping track of them never
fails: a table that cannot be read counts as empty, and a record that cannot be stored is lost.

* `Store.health` is the record of a provider, and `Store.healthRecords` are all of them.
* `Store.noteSuccess` and `Store.noteFailure` record how a query went.
* `Store.suspended` are the records of the providers that are not to be asked.
-/

set_option autoImplicit false

namespace Biblio

/-- The suspension after one more failure of a source, which may itself ask for a least one. -/
def Backoff.suspension (b : Backoff) (h : Health) (least : Span) : Span :=
  max (b.spanFor (min (h.level + 1) greatestLevel)) least

namespace Store

/-- The health record of a provider; a fresh one if there is none. -/
def health (s : Store) (id : Int) : Health :=
  match s.findHealth? id with
  | .ok (some h) => h
  | _ => Health.fresh id

/-- Stores a health record if it can be stored. -/
def keepHealth (s : Store) (h : Health) : Store :=
  match s.putHealth h with
  | .ok s => s
  | .error _ => s

/-- Every health record. -/
def healthRecords (s : Store) : List Health :=
  match s.allHealths with
  | .ok hs => hs
  | .error _ => []

/-- Records a query that succeeded. -/
def noteSuccess (s : Store) (now : Moment) (id : Int) : Health × Store :=
  let h := (s.health id).succeed now
  (h, s.keepHealth h)

/-- Records a query that failed. -/
def noteFailure (s : Store) (b : Backoff) (now : Moment) (id : Int) (least : Span) :
    Health × Store :=
  let current := s.health id
  let h := current.fail now (b.suspension current least)
  (h, s.keepHealth h)

/-- The records of the providers that are suspended at a moment. -/
def suspended (s : Store) (now : Moment) : List Health :=
  s.healthRecords.filter (fun h => h.suspendedAt now)

end Store
end Biblio
