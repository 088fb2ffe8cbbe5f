import Biblio.Proofs.Registry.Objections
import Biblio.Proofs.Registry.OrphanRows

/-!
# Priorities of stored definitions

A creation checks the priority that is asked for, and then stores the one that the source suggests, which
nobody checks.  An update checks the priority that it stores.

* `Service.SuggestedAbove` are definitions as a creation stores them if the source suggests too much.
* `Service.ValidOrSuggested` is the invariant: a stored priority is valid, or it was suggested above the
  greatest and has not been updated since.  `validOrSuggested_handle` is the step, one case for each call,
  and `ServiceRun.validOrSuggested` the run.
* `updateObjections` are the problems with which an update is refused, and
  `priority_mem_updateObjections` says when the priority is one of them.
* `priorities_of_suggestions` puts this together: stored priorities are valid in every run exactly if the
  sources suggest none above the greatest.
-/

set_option autoImplicit false

namespace Biblio

variable {W : Type}

namespace Service

variable {service : Service W} {past : List (ServiceStep W)} {s s' : State W} {d d' : Definition}

/-! ## Suggestions -/

/-- No source of a definition that could be created suggests more than the greatest priority. -/
def SuggestsInBounds (service : Service W) : Prop :=
  ∀ d source, service.Sound d → service.factory.build (fresh d) = .ok source →
    source.suggestedPriority ≤ Definition.greatestPriority

/-- A definition just as it was created, at a suggested priority above the greatest. -/
def SuggestedAbove (service : Service W) (d : Definition) : Prop :=
  ∃ c source, service.Sound c ∧ service.factory.build (fresh c) = .ok source ∧
    Definition.greatestPriority < source.suggestedPriority ∧
    d = (DefinitionRow.write d.id (service.adopted c)).read

/-- A definition whose priority is valid, or was suggested above the greatest when it was created. -/
def ValidOrSuggested (service : Service W) (d : Definition) : Prop :=
  Definition.validPriority d.priority = true ∨ service.SuggestedAbove d

theorem validPriority_iff {n : Nat} :
    Definition.validPriority n = true ↔ 1 ≤ n ∧ n ≤ Definition.greatestPriority := by
  rw [Definition.validPriority, Bool.and_eq_true, decide_eq_true_iff, decide_eq_true_iff]
  rfl

/-- **What a creation stores** is valid exactly if the suggestion is not too much. -/
theorem validPriority_suggested {source : Source W} {n : Nat}
    (h : Definition.validPriority n = true) :
    Definition.validPriority (suggestedPriority source n) = true ↔
      source.suggestedPriority ≤ Definition.greatestPriority := by
  by_cases hnone : source.suggestedPriority = 0
  · rw [suggestedPriority, if_pos hnone, hnone]
    exact iff_of_true h (Nat.zero_le _)
  · rw [suggestedPriority, if_neg hnone, validPriority_iff]
    exact and_iff_right (Nat.pos_of_ne_zero hnone)

theorem priority_adopted {source : Source W} (h : service.factory.build (fresh d) = .ok source) :
    (service.adopted d).priority = suggestedPriority source (fresh d).priority := by
  rw [adopted, h]

theorem SuggestedAbove.not_validPriority (h : service.SuggestedAbove d) :
    ¬ Definition.validPriority d.priority = true := by
  obtain ⟨c, source, hsound, hbuild, hover, hd⟩ := h
  have hpriority : d.priority = suggestedPriority source (fresh c).priority := by
    rw [hd]
    exact priority_adopted hbuild
  rw [hpriority, validPriority_suggested hsound.priority]
  exact Nat.not_le.mpr hover

theorem ValidOrSuggested.not_validPriority_iff (h : service.ValidOrSuggested d) :
    ¬ Definition.validPriority d.priority = true ↔ service.SuggestedAbove d :=
  ⟨h.resolve_left, SuggestedAbove.not_validPriority⟩

theorem validOrSuggested_adopted (id : Int) (h : service.Sound d) :
    service.ValidOrSuggested (DefinitionRow.write id (service.adopted d)).read := by
  obtain ⟨source, hbuild⟩ := h.built
  have hpriority : (DefinitionRow.write id (service.adopted d)).read.priority =
      suggestedPriority source (fresh d).priority := priority_adopted hbuild
  rcases Nat.lt_or_ge Definition.greatestPriority source.suggestedPriority with hover | hbounds
  · exact .inr ⟨d, source, h, hbuild, hover, rfl⟩
  · left
    rw [hpriority]
    exact (validPriority_suggested h.priority).mpr hbounds

/-! ## Runs -/

theorem stored_seeded_one (s : State W) (service : Service W) (d : Definition) :
    (s.seeded service [d]).store.stored =
      s.store.stored ++ [(DefinitionRow.write (s.store.lastId + 1) (service.adopted d)).read] := by
  rw [Store.stored, State.seeded, List.map_append]
  rfl

theorem validOrSuggested_create (d : Definition) (s : State W)
    (hs : ∀ a ∈ s.store.stored, service.ValidOrSuggested a) :
    ∀ a ∈ (service.create d s).2.store.stored, service.ValidOrSuggested a := by
  rcases create_seeds service d s with ⟨e, hrefused⟩ | ⟨-, hacceptable, stored, hmade⟩
  · rw [hrefused]
    exact hs
  · rw [hmade, stored_seeded_one]
    exact List.forall_mem_append.mpr
      ⟨hs, List.forall_mem_singleton.mpr (validOrSuggested_adopted _ hacceptable.toSound)⟩

/-- **One call.**  Only a creation and an update set priorities: the one can exceed them, the other checks
what it sets. -/
theorem validOrSuggested_handle (r : ServiceCall)
    (hs : ∀ a ∈ s.store.stored, service.ValidOrSuggested a) :
    ∀ a ∈ (service.handle r s).store.stored, service.ValidOrSuggested a := by
  have haside {s' : State W} (h : s'.store.definitions = s.store.definitions) :
      ∀ a ∈ s'.store.stored, service.ValidOrSuggested a := by
    rw [Store.stored, h]
    exact hs
  cases r with
  | create d => exact validOrSuggested_create d s hs
  | update d =>
    rcases update_cases service d s with ⟨e, hrefused⟩ | ⟨source, store, hchecked, ok, hmade⟩
    · rw [handle, hrefused]
      exact hs
    · rw [handle, hmade]
      show ∀ a ∈ store.stored, service.ValidOrSuggested a
      rw [Store.stored_update ok, List.forall_mem_map]
      intro a ha
      split
      · exact .inl (checkedSource_eq_ok hchecked).2.2
      · exact hs a ha
  | delete id =>
    rcases delete_cases id s with ⟨e, hrefused⟩ | ⟨store, ok, hmade⟩
    · rw [handle, hrefused]
      exact hs
    · rw [handle, hmade]
      show ∀ a ∈ store.stored, service.ValidOrSuggested a
      rw [Store.stored_delete ok]
      exact fun a ha => hs a (List.mem_of_mem_filter ha)
  | seed ds =>
    exact seed_induction (P := fun s => ∀ a ∈ s.store.stored, service.ValidOrSuggested a)
      validOrSuggested_create ds hs
  | test d => exact haside (service.addsHealth_test d s).definitions_eq
  | ask q => exact haside (service.addsHealth_answerTo q s).definitions_eq

/-- **The run.**  Every stored priority is valid, or it was suggested above the greatest. -/
theorem ServiceRun.validOrSuggested (h : service.ServiceRun past s) :
    ∀ d ∈ s.store.stored, service.ValidOrSuggested d := by
  induction h with
  | empty definitions healths nonneg =>
    rw [Store.stored, definitions]
    rintro d ⟨⟩
  | step before r ih => exact validOrSuggested_handle r ih
  | meanwhile before definitions healths lastId ih =>
    rw [Store.stored, definitions]
    exact ih

/-- A service whose sources suggest too much can be made to store a priority that is not valid. -/
theorem exists_suggestedAbove [Inhabited W] (h : ¬ service.SuggestsInBounds) :
    ∃ past s d, service.ServiceRun past s ∧ s.store.definitionFault = none ∧ d ∈ s.store.stored ∧
      service.SuggestedAbove d := by
  simp only [SuggestsInBounds, not_forall, Nat.not_le] at h
  obtain ⟨d, source, hsound, hbuild, hover⟩ := h
  let blank : State W := { world := default }
  have hrun : service.ServiceRun [⟨blank, .create d⟩] (service.handle (.create d) blank) :=
    (ServiceRun.empty rfl rfl (Int.le_refl 0)).step _
  obtain ⟨stored, hmade⟩ : ∃ stored, service.create d blank = (.ok stored, blank.seeded service [d]) :=
    create_of_acceptable rfl ⟨hsound, by rintro o ⟨⟩⟩
  rw [handle, hmade] at hrun
  refine ⟨_, _, (DefinitionRow.write 1 (service.adopted d)).read, hrun, rfl, ?_, ?_⟩
  · rw [stored_seeded_one]
    exact List.mem_append_right _ (List.mem_singleton_self _)
  · exact ⟨d, source, hsound, hbuild, hover, rfl⟩

/-! ## What an update is refused for -/

/-- The problems with which an update is refused. -/
def updateObjections (service : Service W) (d : Definition) (s : State W) : List Problem :=
  problemsOf (service.update d s).1

/-- They are found before anything is stored. -/
theorem updateObjections_eq (readable : s.store.definitionFault = none) (hd : s.store.Holds d.id) :
    service.updateObjections d s = problemsOf (service.checkedSource d.bare s) := by
  simp only [updateObjections, update, State.knows_of_holds readable hd]
  cases service.checkedSource d.bare s with
  | error e => cases e <;> rfl
  | ok source =>
    simp only
    cases s.store.update d.bare with
    | ok r => rfl
    | error e => cases e <;> rfl

theorem updateObjections_of_fault {fault : String} (hfault : s.store.definitionFault = some fault) :
    service.updateObjections d s = [] := by
  have hknows : s.knows d.id = .error (.ofStore (.database fault)) := by
    rw [State.knows, Store.find?, hfault, Store.checked_some]
  simp only [updateObjections, update, hknows]
  rfl

/-- **An update is refused for its priority** exactly if that is not valid, as far as the definitions can
be read. -/
theorem priority_mem_updateObjections (hd : s.store.Holds d.id) :
    (∃ p ∈ service.updateObjections d s, p.property = "priority") ↔
      s.store.definitionFault = none ∧ ¬ Definition.validPriority d.priority = true := by
  cases hfault : s.store.definitionFault with
  | some fault => simp [updateObjections_of_fault hfault]
  | none =>
    rw [updateObjections_eq hfault hd, and_iff_right rfl]
    constructor
    · rintro ⟨p, hp, hproperty⟩
      rcases problem_cases hp with ⟨hother, -⟩ | hother | ⟨-, hout⟩
      · simp [hproperty] at hother
      · simp [hproperty] at hother
      · exact hout
    · intro hout
      obtain ⟨named, hnames⟩ := exists_nameProblems hfault d.bare
      have hbare : ¬ Definition.validPriority d.bare.priority = true := hout
      rw [problemsOf_checkedSource hnames, priorityProblems, if_neg hbare]
      exact ⟨_, List.mem_append_right _ (List.mem_singleton_self _), rfl⟩

/-! ## What is promised -/

/-- What is promised of the priorities that are stored. -/
structure Priorities (service : Service W) : Prop where
  /-- In every run, a stored priority is not valid exactly if it was suggested too high when the
  definition was created, and the definition has stayed as it was. -/
  invalid_iff : ∀ past s, service.ServiceRun past s → ∀ d ∈ s.store.stored,
    ¬ Definition.validPriority d.priority = true ↔ service.SuggestedAbove d
  /-- So all are valid in every run exactly if no source suggests too much. -/
  valid_iff : (∀ past s, service.ServiceRun past s → ∀ d ∈ s.store.stored,
    Definition.validPriority d.priority = true) ↔ service.SuggestsInBounds
  /-- A creation stores the priority that the source suggests, whether it is valid or not. -/
  created : ∀ s d d' s', service.create d s = (.ok d', s') →
    ∃ source, service.factory.build (fresh d) = .ok source ∧
      d'.priority = suggestedPriority source (fresh d).priority ∧
      (Definition.validPriority d'.priority = true ↔
        source.suggestedPriority ≤ Definition.greatestPriority)
  /-- An update stores the priority that is asked for, which is valid. -/
  updated : ∀ s d d' s', service.update d s = (.ok d', s') →
    d'.priority = d.priority ∧ Definition.validPriority d'.priority = true
  /-- A stored definition that is submitted again as it is, with whatever health record, is refused for
  its priority exactly if that is not valid. -/
  resubmitted : ∀ s d, d.bare ∈ s.store.stored →
    ((∃ p ∈ service.updateObjections d s, p.property = "priority") ↔
      s.store.definitionFault = none ∧ ¬ Definition.validPriority d.priority = true)
  /-- So this happens in no run exactly if no source suggests too much. -/
  accepted_iff : (∀ past s, service.ServiceRun past s → ∀ d, d.bare ∈ s.store.stored →
    ∀ p ∈ service.updateObjections d s, p.property ≠ "priority") ↔ service.SuggestsInBounds

theorem SuggestsInBounds.validPriority (hbounds : service.SuggestsInBounds)
    (h : service.ServiceRun past s)
    (hd : d ∈ s.store.stored) : Definition.validPriority d.priority = true := by
  refine (h.validOrSuggested d hd).resolve_right ?_
  rintro ⟨c, source, hsound, hbuild, hover, -⟩
  exact absurd (hbounds c source hsound hbuild) (Nat.not_le.mpr hover)

theorem resubmitted_iff (hd : d.bare ∈ s.store.stored) :
    (∃ p ∈ service.updateObjections d s, p.property = "priority") ↔
      s.store.definitionFault = none ∧ ¬ Definition.validPriority d.priority = true :=
  priority_mem_updateObjections ⟨d.bare, hd, rfl⟩

/-- **Stored priorities are valid, but for those that a source has suggested too high**, and are refused
if they are submitted again exactly then. -/
theorem priorities_of_suggestions [Inhabited W] (service : Service W) : service.Priorities where
  invalid_iff past s h d hd := (h.validOrSuggested d hd).not_validPriority_iff
  valid_iff := by
    refine ⟨fun hall => ?_, fun hbounds past s h d hd => hbounds.validPriority h hd⟩
    by_contra hnot
    obtain ⟨past, s, d, hrun, -, hd, hover⟩ := exists_suggestedAbove hnot
    exact hover.not_validPriority (hall past s hrun d hd)
  created s d d' s' h := by
    rcases create_cases service d s with ⟨e, hrefused⟩ | ⟨source, stored, store, hchecked, ok, hmade⟩
    · cases congrArg Prod.fst (hrefused.symm.trans h)
    · obtain rfl := Except.ok.inj (congrArg Prod.fst (hmade.symm.trans h))
      obtain ⟨-, rfl, -⟩ := Store.insert_eq_ok.mp ok
      obtain ⟨-, hbuild, hvalid⟩ := checkedSource_eq_ok hchecked
      exact ⟨source, hbuild, rfl, validPriority_suggested hvalid⟩
  updated s d d' s' h := by
    rcases update_cases service d s with ⟨e, hrefused⟩ | ⟨source, store, hchecked, -, hmade⟩
    · cases congrArg Prod.fst (hrefused.symm.trans h)
    · obtain rfl := Except.ok.inj (congrArg Prod.fst (hmade.symm.trans h))
      exact ⟨rfl, (checkedSource_eq_ok hchecked).2.2⟩
  resubmitted s d hd := resubmitted_iff hd
  accepted_iff := by
    constructor
    · intro hall
      by_contra hnot
      obtain ⟨past, s, d, hrun, readable, hd, hover⟩ := exists_suggestedAbove hnot
      have hbare : d.bare ∈ s.store.stored := Store.bare_of_mem_stored hd ▸ hd
      obtain ⟨p, hp, hproperty⟩ := (resubmitted_iff hbare).mpr ⟨readable, hover.not_validPriority⟩
      exact hall past s hrun d hbare p hp hproperty
    · intro hbounds past s h d hd p hp hproperty
      have hvalid := hbounds.validPriority h hd
      exact ((resubmitted_iff hd).mp ⟨p, hp, hproperty⟩).2 hvalid

/-- A service whose sources want to be asked before all others. -/
def highPriorityService : Service Unit where
  factory := ⟨[("Mock", fun d => .ok { Sample.source d.name with suggestedPriority := 200 })]⟩
  rules := { callTimeout := Span.seconds 30 }

/-- The state after a definition of valid priority was created. -/
def stateAfterCreation : State Unit :=
  highPriorityService.handle (.create (Definition.new "m" "Mock")) { world := () }

/-- **A suggestion is stored that is no valid priority**, although it fits into a byte, and the definition
can no longer be updated as it is. -/
theorem suggestedAbove_stateAfterCreation :
    (∃ past, highPriorityService.ServiceRun past stateAfterCreation) ∧
      stateAfterCreation.store.stored.map (·.priority) = [200] ∧
      (stateAfterCreation.store.stored.map fun d =>
        highPriorityService.updateObjections d stateAfterCreation) = [[⟨"priority", "must be between 1 and 100"⟩]] ∧
      ¬ ∀ service : Service Unit,
        (∀ d source, service.factory.build d = .ok source →
          source.suggestedPriority ≤ Definition.greatestByte) →
        ∀ past s, service.ServiceRun past s → ∀ d ∈ s.store.stored,
          Definition.validPriority d.priority = true := by
  have hrun : highPriorityService.ServiceRun _ stateAfterCreation :=
    (ServiceRun.empty rfl rfl (Int.le_refl 0)).step _
  have hstored : stateAfterCreation.store.stored.map (·.priority) = [200] := by decide
  refine ⟨⟨_, hrun⟩, hstored, by decide +kernel, fun hall => ?_⟩
  have hbytes : ∀ d source, highPriorityService.factory.build d = .ok source →
      source.suggestedPriority ≤ Definition.greatestByte := by
    intro d source hbuild
    rw [Factory.build] at hbuild
    split at hbuild
    · cases hbuild
    · next builder hfound =>
      rw [highPriorityService, List.lookup_cons] at hfound
      split at hfound
      · obtain rfl := Option.some.inj hfound
        obtain rfl := Except.ok.inj hbuild
        show 200 ≤ Definition.greatestByte
        decide
      · cases hfound
  have hvalid : ∀ n ∈ stateAfterCreation.store.stored.map (·.priority),
      Definition.validPriority n = true := by
    rw [List.forall_mem_map]
    exact hall highPriorityService hbytes _ _ hrun
  rw [hstored] at hvalid
  exact absurd (hvalid 200 (List.mem_singleton_self 200)) (by decide)

end Service
end Biblio
