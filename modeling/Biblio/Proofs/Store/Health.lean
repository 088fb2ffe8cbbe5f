import Biblio.Health.Tracking
import Biblio.Proofs.Moment.RoundTrip
import Biblio.Proofs.Store.Reached

/-!
# Health records in the store

What a record looks like after it was stored, and that storing it leaves all others alone.

* `find?_putRow_self` and `find?_putRow_ne` are the laws of the table, `health_keepHealth_self` and
  `health_keepHealth_ne` those of the store.
* `SameBut` says that only the records of one provider have changed, and `sameBut_keepHealth` that storing
  a record does so.
* `Moment.Counted.readMoment_writeMoment` says which moments a column keeps: those whose year has four
  digits, which are those before the year 10000 for a clock.  `toNat_signedCount` is the same for counts.
-/

set_option autoImplicit false

namespace Biblio

/-! ## Moments in columns -/

/-- What is left of a moment in a column. -/
theorem Moment.Counted.readMoment_writeMoment {m : Moment} (h : m.Counted) :
    readMoment (writeMoment (some m)) = if m.FourDigits then some m else none := by
  rw [writeMoment, Option.map_some, readMoment, Option.bind_some, h.parse_renderNumeric_eq]
  split <;> rfl

/-- What is left of a moment of a clock in a column. -/
theorem Moment.Shown.readMoment_writeMoment {m : Moment} (h : m.Shown) :
    readMoment (writeMoment (some m)) = if m < Moment.yearTenThousand then some m else none := by
  simp only [h.toCounted.readMoment_writeMoment, h.fourDigits_iff]

/-! ## Counts in columns -/

/-- A count that a column can hold reads back. -/
theorem toNat_signedCount {n : Nat} (h : n < 2 ^ 63) : (signedCount n).toNat = n := by
  rw [signedCount, if_pos (by omega), Int.toNat_natCast]

namespace Store

/-! ## The table -/

theorem find?_putRow_self (row : HealthRow) (rows : List HealthRow) :
    (putRow row rows).find? (fun r => r.providerId == row.providerId) = some row := by
  induction rows with
  | nil => simp [putRow]
  | cons r rest ih =>
    rw [putRow]
    split
    · simp
    · next hne =>
      split
      · simp
      · have hr : (r.providerId == row.providerId) = false :=
          beq_eq_false_iff_ne.mpr fun h => hne h.symm
        simp only [List.find?_cons, hr, ih]

theorem find?_putRow_ne (row : HealthRow) (rows : List HealthRow) {id : Int}
    (hid : id ≠ row.providerId) :
    (putRow row rows).find? (fun r => r.providerId == id) =
      rows.find? (fun r => r.providerId == id) := by
  have hrow : (row.providerId == id) = false := beq_eq_false_iff_ne.mpr fun h => hid h.symm
  induction rows with
  | nil => simp only [putRow, List.find?_cons, hrow]
  | cons r rest ih =>
    rw [putRow]
    split
    · next heq =>
      have hr : (r.providerId == id) = false := heq ▸ hrow
      simp only [List.find?_cons, hrow, hr]
    · split
      · simp only [List.find?_cons, hrow]
      · simp only [List.find?_cons, ih]

/-- Putting a row leaves those of other providers alone. -/
theorem filter_putRow (row : HealthRow) (rows : List HealthRow) :
    (putRow row rows).filter (fun r => r.providerId != row.providerId) =
      rows.filter (fun r => r.providerId != row.providerId) := by
  have hdrop {r : HealthRow} (h : row.providerId = r.providerId) (rest : List HealthRow) :
      (r :: rest).filter (fun r => r.providerId != row.providerId) =
        rest.filter (fun r => r.providerId != row.providerId) :=
    List.filter_cons_of_neg (by simp [h])
  induction rows with
  | nil => exact hdrop rfl []
  | cons r rest ih =>
    rw [putRow]
    split
    · next heq => rw [hdrop rfl, hdrop heq]
    · split
      · exact hdrop rfl _
      · rw [List.filter_cons, List.filter_cons, ih]

/-! ## The store -/

/-- The health record of a provider in a table that is in order. -/
theorem health_eq {s : Store} (hs : s.healthFault = none) (id : Int) :
    s.health id = ((s.healths.find? (fun r => r.providerId == id)).map HealthRow.read).getD
      (Health.fresh id) := by
  rw [health, findHealth?, hs, checked_none]
  cases s.healths.find? (fun r => r.providerId == id) <;> rfl

theorem providerId_health (s : Store) (id : Int) : (s.health id).providerId = id := by
  cases hs : s.healthFault with
  | some fault =>
    rw [health, findHealth?, hs, checked_some]
    rfl
  | none =>
    rw [health_eq hs]
    cases hrow : s.healths.find? (fun r => r.providerId == id) with
    | none => rfl
    | some row =>
      have hid := List.find?_some hrow
      exact eq_of_beq hid

theorem healthRecords_eq {s : Store} (hs : s.healthFault = none) :
    s.healthRecords = s.healths.map HealthRow.read := by
  rw [healthRecords, allHealths, hs, checked_none]

/-- A record that is not the one without a history is among the records. -/
theorem health_mem_healthRecords {s : Store} (hs : s.healthFault = none) {id : Int}
    (h : s.health id ≠ Health.fresh id) : s.health id ∈ s.healthRecords := by
  rw [health_eq hs] at h ⊢
  rw [healthRecords_eq hs]
  cases hrow : s.healths.find? (fun r => r.providerId == id) with
  | none =>
    rw [hrow] at h
    exact absurd rfl h
  | some row => exact List.mem_map_of_mem (List.mem_of_find?_eq_some hrow)

theorem keepHealth_eq {s : Store} (hs : s.healthFault = none) (h : Health) :
    s.keepHealth h = { s with healths := putRow (HealthRow.write h) s.healths } := by
  rw [keepHealth, putHealth, hs, checked_none]

/-- A table that is in order stays so. -/
theorem healthFault_keepHealth {s : Store} (hs : s.healthFault = none) (h : Health) :
    (s.keepHealth h).healthFault = none := by
  rw [keepHealth_eq hs]
  exact hs

/-- A record that was stored, as it is read again. -/
theorem health_keepHealth_self {s : Store} (hs : s.healthFault = none) (h : Health) :
    (s.keepHealth h).health h.providerId = HealthRow.read (HealthRow.write h) := by
  have hrow : (s.keepHealth h).healths.find? (fun r => r.providerId == h.providerId) =
      some (HealthRow.write h) := by
    rw [keepHealth_eq hs]
    exact find?_putRow_self (HealthRow.write h) s.healths
  rw [health_eq (healthFault_keepHealth hs h), hrow]
  rfl

/-- Storing a record leaves those of other providers alone. -/
theorem health_keepHealth_ne {s : Store} (hs : s.healthFault = none) {h : Health} {id : Int}
    (hid : id ≠ h.providerId) : (s.keepHealth h).health id = s.health id := by
  have hrow : (s.keepHealth h).healths.find? (fun r => r.providerId == id) =
      s.healths.find? (fun r => r.providerId == id) := by
    rw [keepHealth_eq hs]
    exact find?_putRow_ne (HealthRow.write h) s.healths hid
  rw [health_eq (healthFault_keepHealth hs h), health_eq hs, hrow]

/-! ## What stays as it is -/

/-- Two stores differ in the health records of one provider at most. -/
structure SameBut (id : Int) (s s' : Store) : Prop where
  rest : s' = { s with healths := s'.healths }
  others : s'.healths.filter (fun r => r.providerId != id) =
    s.healths.filter (fun r => r.providerId != id)

theorem SameBut.refl (id : Int) (s : Store) : SameBut id s s := ⟨rfl, rfl⟩

theorem SameBut.trans {id : Int} {s₁ s₂ s₃ : Store} (h : SameBut id s₁ s₂) (h' : SameBut id s₂ s₃) :
    SameBut id s₁ s₃ where
  rest := by
    rw [h'.rest, h.rest]
  others := h'.others.trans h.others

theorem SameBut.healthFault_eq {id : Int} {s s' : Store} (h : SameBut id s s') :
    s'.healthFault = s.healthFault := by
  rw [h.rest]

theorem sameBut_keepHealth (s : Store) (h : Health) : SameBut h.providerId s (s.keepHealth h) := by
  cases hs : s.healthFault with
  | some fault =>
    have hsame : s.keepHealth h = s := by rw [keepHealth, putHealth, hs, checked_some]
    rw [hsame]
    exact .refl _ s
  | none =>
    rw [keepHealth_eq hs]
    exact ⟨rfl, filter_putRow (HealthRow.write h) s.healths⟩

end Store
end Biblio
