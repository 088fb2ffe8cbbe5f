import Biblio.Proofs.Registry.Seeding

/-!
# Objections

What is wrong with a definition is listed as a whole: its name, its source and its priority, in this
order.

* `problemsOf` reads them off a refusal.  `problemsOf_checkedSource` says what they consist of, and
  `problem_cases` what each of them concerns.
* `Service.objections` are the problems with which a definition is refused that is to be created.
* `objection_name_iff` — a name that is not blank is objected to exactly if a stored definition has it.
-/

set_option autoImplicit false

namespace Biblio

variable {W : Type}

theorem property_of_mem_nameProblems {stored : Except StoreError (List Definition)} {d : Definition}
    {named : List Problem} (h : nameProblems stored d = .ok named) {p : Problem} (hp : p ∈ named) :
    p.property = "name" := by
  unfold nameProblems at h
  simp only at h
  split at h
  · obtain rfl := Except.ok.inj h
    rw [List.mem_singleton.mp hp]
  · split at h
    · simp at h
    · split at h
      · obtain rfl := Except.ok.inj h
        rw [List.mem_singleton.mp hp]
      · obtain rfl := Except.ok.inj h
        simp at hp

namespace Service

variable {service : Service W} {d : Definition} {s : State W}

theorem property_of_mem_sourceOf {p : Problem} (hp : p ∈ (service.sourceOf d).1) :
    p.property = "implementation" ∨ p.property = "settings" := by
  unfold sourceOf at hp
  split at hp
  · split at hp
    · simp at hp
    · right
      rw [List.mem_singleton.mp hp]
    · left
      rw [List.mem_singleton.mp hp]
  · left
    rw [List.mem_singleton.mp hp]

theorem property_of_mem_priorityProblems {p : Problem} {priority : Nat}
    (hp : p ∈ priorityProblems priority) :
    p.property = "priority" ∧ ¬ Definition.validPriority priority = true := by
  unfold priorityProblems at hp
  split at hp
  · simp at hp
  · next hout =>
    rw [List.mem_singleton.mp hp]
    exact ⟨rfl, hout⟩

/-! ## What a refusal says -/

/-- The problems that a refusal lists. -/
def problemsOf {α : Type} : Except RegistryError α → List Problem
  | .error (.invalid v) => v.problems
  | _ => []

/-- A definition is refused with what is wrong with its name, its source and its priority, in this
order. -/
theorem problemsOf_checkedSource {named : List Problem} (h : nameProblems s.store.all d = .ok named) :
    problemsOf (service.checkedSource d s) =
      named ++ (service.sourceOf d).1 ++ priorityProblems d.priority := by
  simp only [checkedSource, inspect, h]
  rcases service.sourceOf d with ⟨built, _ | source⟩
  · rfl
  · simp only [Validation.isValid, List.isEmpty_iff]
    split
    · next hnone => exact hnone.symm
    · rfl

theorem problemsOf_checkedSource_of_error {e : RegistryError}
    (h : nameProblems s.store.all d = .error e) : problemsOf (service.checkedSource d s) = [] := by
  obtain ⟨e', -, rfl⟩ := nameProblems_eq_error h
  simp only [checkedSource, inspect, h]
  cases e' <;> rfl

theorem exists_nameProblems (readable : s.store.definitionFault = none) (d : Definition) :
    ∃ named, nameProblems s.store.all d = .ok named := by
  cases hnames : nameProblems s.store.all d with
  | ok named => exact ⟨named, rfl⟩
  | error e =>
    obtain ⟨e', hall, -⟩ := nameProblems_eq_error hnames
    obtain ⟨fault, hbroken, -⟩ := Store.all_eq_error.mp hall
    cases readable.symm.trans hbroken

/-- Every problem concerns the name, the source or the priority. -/
theorem problem_cases {p : Problem} (hp : p ∈ problemsOf (service.checkedSource d s)) :
    (p.property = "name" ∧ ∃ named, nameProblems s.store.all d = .ok named ∧ p ∈ named) ∨
      (p.property = "implementation" ∨ p.property = "settings") ∨
      p.property = "priority" ∧ ¬ Definition.validPriority d.priority = true := by
  cases hnames : nameProblems s.store.all d with
  | error e => simp [problemsOf_checkedSource_of_error hnames] at hp
  | ok named =>
    rw [problemsOf_checkedSource hnames, List.mem_append, List.mem_append] at hp
    rcases hp with (hp | hp) | hp
    · exact .inl ⟨property_of_mem_nameProblems hnames hp, named, rfl, hp⟩
    · exact .inr (.inl (property_of_mem_sourceOf hp))
    · exact .inr (.inr (property_of_mem_priorityProblems hp))

/-- The problems with which a definition is refused that is to be created. -/
def objections (service : Service W) (d : Definition) (s : State W) : List Problem :=
  problemsOf (service.create d s).1

/-- They are found before anything is stored. -/
theorem objections_eq (service : Service W) (d : Definition) (s : State W) :
    service.objections d s = problemsOf (service.checkedSource (fresh d) s) := by
  simp only [objections, create]
  cases service.checkedSource (fresh d) s with
  | error e => cases e <;> rfl
  | ok source =>
    simp only
    cases s.store.insert { fresh d with
        priority := suggestedPriority source (fresh d).priority } with
    | ok r => rfl
    | error e => cases e <;> rfl

/-- Every objection concerns the name, the source or the priority. -/
theorem objection_cases {p : Problem} (hp : p ∈ service.objections d s) :
    p.property = "name" ∨ (p.property = "implementation" ∨ p.property = "settings") ∨
      p.property = "priority" ∧ ¬ Definition.validPriority (fresh d).priority = true := by
  rw [objections_eq] at hp
  exact (problem_cases hp).imp_left And.left

theorem mem_objections_of_name {p : Problem} (hp : p.property = "name") :
    p ∈ service.objections d s ↔
      ∃ named, nameProblems s.store.all (fresh d) = .ok named ∧ p ∈ named := by
  rw [objections_eq]
  constructor
  · intro hmem
    rcases problem_cases hmem with ⟨-, hnamed⟩ | hother | ⟨hother, -⟩
    · exact hnamed
    · simp [hp] at hother
    · simp [hp] at hother
  · rintro ⟨named, hnames, hmem⟩
    rw [problemsOf_checkedSource hnames]
    exact List.mem_append_left _ (List.mem_append_left _ hmem)

/-- There is an objection to a name that is not blank exactly if a stored definition has it. -/
theorem objection_name_iff (hnamed : Text.trim d.name ≠ "") :
    (∃ p ∈ service.objections d s, p.property = "name") ↔
      s.store.definitionFault = none ∧
        ∃ o ∈ s.store.stored, o.id ≠ 0 ∧ nameKey o.name = nameKey d.name := by
  have hfresh : Text.trim (fresh d).name ≠ "" := hnamed
  constructor
  · rintro ⟨p, hp, hproperty⟩
    obtain ⟨named, hnames, hmem⟩ := (mem_objections_of_name hproperty).mp hp
    cases hall : s.store.all with
    | error e =>
      rw [hall] at hnames
      simp [nameProblems, hfresh] at hnames
    | ok others =>
      obtain ⟨readable, rfl⟩ := Store.all_eq_ok.mp hall
      rw [hall, nameProblems_of_named hfresh] at hnames
      split at hnames
      · next htaken => exact ⟨readable, htaken⟩
      · obtain rfl := Except.ok.inj hnames
        cases hmem
  · rintro ⟨readable, htaken⟩
    have hall : s.store.all = .ok s.store.stored := Store.all_eq_ok.mpr ⟨readable, rfl⟩
    obtain ⟨named, hnames, hmem⟩ : ∃ named, nameProblems s.store.all (fresh d) = .ok named ∧
        takenProblem (fresh d) ∈ named := taken_mem_nameProblems.mpr ⟨hfresh, _, hall, htaken⟩
    exact ⟨_, (mem_objections_of_name rfl).mpr ⟨named, hnames, hmem⟩, rfl⟩

end Service
end Biblio
