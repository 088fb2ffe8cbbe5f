import Biblio.Proofs.Registry.Names
import Biblio.Proofs.Registry.Objections
import Biblio.Proofs.Text.Casing

/-!
# Finding a definition by its name

A name that is looked for, and a name that is checked against the stored ones, is trimmed and taken in
lower case.  A stored name keeps the blanks around it; the check takes them off before it compares, and
the search does not.

* `lowercase_eq_nameKey_iff` — so the search compares names as the check does, and passes over the
  definitions whose own names are not trimmed.
* `findNamed_eq_some_iff` says what is found, and `duplicates_iff` which new definitions are refused
  because their names are taken.
* `nameSearch_of_fromEmpty` compares the two: they agree in every state exactly as far as stored names are
  trimmed.
-/

set_option autoImplicit false

namespace Biblio

variable {W : Type}

/-! ## Names -/

/-- **How the search compares**: a name in lower case is the key of another name exactly if it has the
same key and no blanks around it. -/
theorem lowercase_eq_nameKey_iff {a name : String} :
    Text.lowercase a = nameKey name ↔ Text.trim a = a ∧ nameKey a = nameKey name := by
  have hkey (b : String) : (nameKey b).toList = Text.lower (Text.trimChars b.toList) := by
    rw [nameKey, Text.lowercase, Text.trim, String.toList_ofList, String.toList_ofList]
  have hlower : (Text.lowercase a).toList = Text.lower a.toList := by
    rw [Text.lowercase, String.toList_ofList]
  rw [Text.trim_eq_self_iff, ← String.toList_inj, ← String.toList_inj, hlower, hkey, hkey]
  constructor
  · intro h
    -- the key of the other name is trimmed, so the name in lower case is trimmed as well
    have htrimmed : Text.lower (Text.trimChars a.toList) =
        Text.lower (Text.trimChars name.toList) := by
      rw [← Text.trimChars_lower, h, Text.trimChars_lower, Text.trimChars_trimChars]
    exact ⟨Text.lower_eq_lower_trimChars_iff.mp (h.trans htrimmed.symm), htrimmed⟩
  · rintro ⟨htrim, hsame⟩
    rw [← hsame, htrim]

/-! ## What is found -/

namespace Store

variable {s : Store}

/-- No two definitions have the same key. -/
theorem DistinctlyNamed.eq_of_nameKey (hs : s.DistinctlyNamed) {a b : Definition}
    (ha : a ∈ s.stored) (hb : b ∈ s.stored) (h : nameKey a.name = nameKey b.name) : a = b := by
  have hkeys : (s.stored.map fun d => nameKey d.name).Nodup := List.pairwise_map.mpr hs.distinct
  exact List.inj_on_of_nodup_map hkeys ha hb h

end Store

namespace State

variable {s : State W} {name : String} {d : Definition}

theorem findNamed_of_readable (readable : s.store.definitionFault = none) (name : String) :
    s.findNamed name =
      .ok ((s.store.stored.find? fun a => Text.lowercase a.name == nameKey name).map
        s.withHealth) := by
  have hall : s.store.all = .ok s.store.stored := Store.all_eq_ok.mpr ⟨readable, rfl⟩
  simp only [findNamed, hall]

/-- **What is found** under a name: the definition that has it, if its name is stored without blanks
around it. -/
theorem findNamed_eq_some_iff (hs : s.store.DistinctlyNamed) :
    s.findNamed name = .ok (some d) ↔ s.store.definitionFault = none ∧
      ∃ a ∈ s.store.stored, nameKey a.name = nameKey name ∧ Text.trim a.name = a.name ∧
        d = s.withHealth a := by
  cases hfault : s.store.definitionFault with
  | some fault =>
    have hall : s.store.all = .error (.database fault) := Store.all_eq_error.mpr ⟨fault, hfault, rfl⟩
    simp [findNamed, hall]
  | none =>
    have hmatches (a : Definition) : (Text.lowercase a.name == nameKey name) = true ↔
        Text.trim a.name = a.name ∧ nameKey a.name = nameKey name :=
      beq_iff_eq.trans lowercase_eq_nameKey_iff
    rw [findNamed_of_readable hfault, and_iff_right rfl, Except.ok.injEq, Option.map_eq_some_iff]
    constructor
    · rintro ⟨a, hfound, rfl⟩
      have hmatch := List.find?_some hfound
      obtain ⟨htrim, hkey⟩ := (hmatches a).mp hmatch
      exact ⟨a, List.mem_of_find?_eq_some hfound, hkey, htrim, rfl⟩
    · rintro ⟨a, ha, hkey, htrim, rfl⟩
      have hsome : (s.store.stored.find? fun a => Text.lowercase a.name == nameKey name).isSome :=
        List.find?_isSome.mpr ⟨a, ha, (hmatches a).mpr ⟨htrim, hkey⟩⟩
      obtain ⟨b, hfound⟩ := Option.isSome_iff_exists.mp hsome
      -- the first definition that matches has the same key, so that it is this one
      have hmatch := List.find?_some hfound
      obtain ⟨-, hbkey⟩ := (hmatches b).mp hmatch
      obtain rfl := hs.eq_of_nameKey (List.mem_of_find?_eq_some hfound) ha (hbkey.trans hkey.symm)
      exact ⟨b, hfound, rfl⟩

end State

namespace Service

variable {service : Service W} {s : State W} {d : Definition}

/-- A new definition that is refused because its name is taken. -/
def Duplicates (service : Service W) (d : Definition) (s : State W) : Prop :=
  takenProblem d ∈ service.objections d s

/-- **What is refused** because its name is taken. -/
theorem duplicates_iff (hs : s.store.NamesInvariant) : service.Duplicates d s ↔
    s.store.definitionFault = none ∧ ∃ a ∈ s.store.stored, nameKey a.name = nameKey d.name := by
  have hnamed {a : Definition} (ha : a ∈ s.store.stored) (hkey : nameKey a.name = nameKey d.name) :
      Text.trim d.name ≠ "" := by
    intro hblank
    have hnone : nameKey a.name = "" := by
      rw [hkey, nameKey, hblank]
      rfl
    have hlower : Text.lower (Text.trim a.name).toList = [] := by
      rw [← String.toList_inj, nameKey, Text.lowercase, String.toList_ofList] at hnone
      exact hnone
    refine hs.named a ha (String.toList_inj.mp ?_)
    by_contra hne
    exact Text.lowerAfter_ne_nil hne hlower
  rw [Duplicates, mem_objections_of_name rfl]
  have htaken : (∃ named, nameProblems s.store.all (fresh d) = .ok named ∧ takenProblem d ∈ named) ↔ _ :=
    taken_mem_nameProblems (d := fresh d)
  rw [htaken]
  constructor
  · rintro ⟨-, others, hall, o, ho, -, hkey⟩
    obtain ⟨readable, rfl⟩ := Store.all_eq_ok.mp hall
    exact ⟨readable, o, ho, hkey⟩
  · rintro ⟨readable, a, ha, hkey⟩
    have hpositive : a.id ≠ 0 := Int.ne_of_gt (hs.positive a ha)
    exact ⟨hnamed ha hkey, _, Store.all_eq_ok.mpr ⟨readable, rfl⟩, a, ha, hpositive, hkey⟩

/-! ## What is promised -/

/-- What is promised of the search for names, and of how it agrees with the check of new ones. -/
structure NameSearch (service : Service W) (s : State W) : Prop where
  /-- A new definition is refused as a duplicate exactly if a stored one has its name. -/
  duplicates_iff : ∀ d, service.Duplicates d s ↔
    s.store.definitionFault = none ∧ ∃ a ∈ s.store.stored, nameKey a.name = nameKey d.name
  /-- There is only one such definition. -/
  unique : ∀ a ∈ s.store.stored, ∀ b ∈ s.store.stored, nameKey a.name = nameKey b.name → a = b
  /-- What is found is this definition, with its health record, if its name is trimmed. -/
  found_iff : ∀ name d, s.findNamed name = .ok (some d) ↔ s.store.definitionFault = none ∧
    ∃ a ∈ s.store.stored, nameKey a.name = nameKey name ∧ Text.trim a.name = a.name ∧
      d = s.withHealth a
  /-- Else nothing is found, unless the definitions cannot be read. -/
  answered : s.store.definitionFault = none → ∀ name, ∃ found, s.findNamed name = .ok found
  /-- So search and check agree on a name exactly if whoever has it has it trimmed. -/
  agrees_iff : ∀ d, ((∃ a, s.findNamed d.name = .ok (some a)) ↔ service.Duplicates d s) ↔
    (s.store.definitionFault = none → ∀ a ∈ s.store.stored, nameKey a.name = nameKey d.name →
      Text.trim a.name = a.name)
  /-- They agree on all names exactly if all stored names are trimmed. -/
  always_iff : (∀ d, (∃ a, s.findNamed d.name = .ok (some a)) ↔ service.Duplicates d s) ↔
    (s.store.definitionFault = none → ∀ a ∈ s.store.stored, Text.trim a.name = a.name)
  /-- And a stored definition is found under its own name exactly if that is trimmed. -/
  own_iff : s.store.definitionFault = none → ∀ a ∈ s.store.stored,
    (s.findNamed a.name = .ok (some (s.withHealth a)) ↔ Text.trim a.name = a.name)

theorem agrees_iff (hs : s.store.NamesInvariant) :
    ((∃ a, s.findNamed d.name = .ok (some a)) ↔ service.Duplicates d s) ↔
      (s.store.definitionFault = none → ∀ a ∈ s.store.stored, nameKey a.name = nameKey d.name →
        Text.trim a.name = a.name) := by
  rw [duplicates_iff hs]
  simp only [State.findNamed_eq_some_iff hs.toDistinctlyNamed]
  constructor
  · intro hagree readable a ha hkey
    obtain ⟨-, -, b, hb, hbkey, htrim, -⟩ := hagree.mpr ⟨readable, a, ha, hkey⟩
    obtain rfl := hs.toDistinctlyNamed.eq_of_nameKey hb ha (hbkey.trans hkey.symm)
    exact htrim
  · intro htrimmed
    constructor
    · rintro ⟨-, readable, a, ha, hkey, -, -⟩
      exact ⟨readable, a, ha, hkey⟩
    · rintro ⟨readable, a, ha, hkey⟩
      exact ⟨_, readable, a, ha, hkey, htrimmed readable a ha hkey, rfl⟩

/-- **The search for a name and the check of new names agree as far as stored names are trimmed**, in
every state that comes from a store without definitions. -/
theorem nameSearch_of_fromEmpty (service : Service W) {s : State W} (h : s.FromEmpty) :
    service.NameSearch s where
  duplicates_iff d := duplicates_iff h.namesInvariant
  unique a ha b hb := h.namesInvariant.toDistinctlyNamed.eq_of_nameKey ha hb
  found_iff name d := State.findNamed_eq_some_iff h.namesInvariant.toDistinctlyNamed
  answered readable name := ⟨_, State.findNamed_of_readable readable name⟩
  agrees_iff d := agrees_iff h.namesInvariant
  always_iff := by
    constructor
    · intro hall readable a ha
      exact (agrees_iff h.namesInvariant).mp (hall a) readable a ha rfl
    · intro htrimmed d
      exact (agrees_iff h.namesInvariant).mpr fun readable a ha _ => htrimmed readable a ha
  own_iff readable a ha := by
    rw [State.findNamed_eq_some_iff h.namesInvariant.toDistinctlyNamed]
    constructor
    · rintro ⟨-, b, hb, hkey, htrim, -⟩
      obtain rfl := h.namesInvariant.toDistinctlyNamed.eq_of_nameKey hb ha hkey
      exact htrim
    · exact fun htrim => ⟨readable, a, ha, rfl, htrim, rfl⟩

/-- The state after two definitions were created, of which the first has a blank before its name. -/
def stateAfterIndent : State Unit :=
  (State.mockService.seed [Definition.new " m" "Mock", Definition.new "n" "Mock"] { world := () }).2

theorem fromEmpty_stateAfterIndent : stateAfterIndent.FromEmpty :=
  (State.FromEmpty.empty rfl (Int.le_refl 0)).seed State.mockService _

/-- The second is found under its name in any case, with or without blanks. -/
theorem nameSearch_stateAfterIndent :
    stateAfterIndent.FromEmpty ∧ State.mockService.NameSearch stateAfterIndent ∧
      ∃ a ∈ stateAfterIndent.store.stored, a.name = "n" ∧
        stateAfterIndent.findNamed "\tN " = .ok (some (stateAfterIndent.withHealth a)) := by
  have hsearch := nameSearch_of_fromEmpty State.mockService fromEmpty_stateAfterIndent
  have hstored : (DefinitionRow.write 2 (Definition.new "n" "Mock")).read ∈
      stateAfterIndent.store.stored := List.mem_cons_of_mem _ List.mem_cons_self
  refine ⟨fromEmpty_stateAfterIndent, hsearch, _, hstored, rfl, (hsearch.found_iff _ _).mpr ?_⟩
  exact ⟨rfl, _, hstored, by decide, by decide, rfl⟩

/-- **A name with a blank before it is taken and cannot be found**, not even as it was given. -/
theorem hidden_stateAfterIndent :
    stateAfterIndent.findNamed " m" = .ok none ∧ stateAfterIndent.findNamed "m" = .ok none ∧
      State.mockService.Duplicates (Definition.new " m" "Mock") stateAfterIndent ∧
      (¬ ∀ (service : Service Unit) (s : State Unit), s.FromEmpty → ∀ d,
        (∃ a, s.findNamed d.name = .ok (some a)) ↔ service.Duplicates d s) ∧
      ¬ ∀ s : State Unit, s.FromEmpty → ∀ a ∈ s.store.stored,
        s.findNamed a.name = .ok (some (s.withHealth a)) := by
  have hsearch := nameSearch_of_fromEmpty State.mockService fromEmpty_stateAfterIndent
  have hstored : (DefinitionRow.write 1 (Definition.new " m" "Mock")).read ∈
      stateAfterIndent.store.stored := List.mem_cons_self
  have hnone : stateAfterIndent.findNamed " m" = .ok none := by rfl
  have hduplicates :=
    (hsearch.duplicates_iff (Definition.new " m" "Mock")).mpr ⟨rfl, _, hstored, rfl⟩
  refine ⟨hnone, by rfl, hduplicates, fun hall => ?_, fun hall => ?_⟩
  · obtain ⟨a, hfound⟩ := (hall State.mockService _ fromEmpty_stateAfterIndent _).mpr hduplicates
    cases hnone.symm.trans hfound
  · have hfound := hall _ fromEmpty_stateAfterIndent _ hstored
    cases hnone.symm.trans hfound

end Service
end Biblio
