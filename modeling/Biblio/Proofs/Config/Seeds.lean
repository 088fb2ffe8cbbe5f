import Biblio.Config.Validation
import Biblio.Proofs.Registry.Objections
import Biblio.Proofs.Text.Words
import Mathlib

/-!
# Seeds that pass the check of the configuration

The check of a configuration and the registry both look at the names and priorities of the seeds.  The
registry compares names without the blanks around them, and the check compares them as they are
written.

* `checkSeeds_eq_none_iff` — what the check asks of the seeds.
* `Service.accepted` are the seeds that the registry does not refuse when they are created one after the
  other; `createEach_eq` is the state that they leave.
* `seedsAgree_of_validate` — of seeds that passed the check the registry never refuses one because of its
  priority, and because of its name exactly if an earlier one that it accepted has that name, apart from
  blanks around it.
-/

set_option autoImplicit false

namespace Biblio

variable {W : Type}

/-! ## What the configuration is checked for -/

namespace Config

/-- The seeds are all right if no name is blank, none is used again in any case, and no priority is too
high. -/
theorem checkSeeds_eq_none_iff {names : List String} {ds : List Definition} :
    checkSeeds names ds = none ↔
      (∀ d ∈ ds, Text.trim d.name ≠ "" ∧ d.priority ≤ Definition.greatestPriority ∧
        Text.lowercase d.name ∉ names) ∧
      ds.Pairwise fun a b => Text.lowercase a.name ≠ Text.lowercase b.name := by
  induction ds generalizing names with
  | nil => simp [checkSeeds]
  | cons d ds ih =>
    rw [checkSeeds, List.forall_mem_cons, List.pairwise_cons]
    by_cases hblank : Text.isAllBlank d.name = true
    · simp [hblank, Text.trim_eq_empty_iff]
    · by_cases hhigh : Definition.greatestPriority < d.priority
      · simp [hblank, hhigh, Nat.not_le.mpr hhigh]
      · by_cases htaken : Text.lowercase d.name ∈ names
        · simp [hblank, hhigh, htaken]
        · simp only [hblank, hhigh, htaken, List.contains_eq_mem, decide_false, Bool.false_eq_true,
            if_false, ih, List.mem_cons, not_or, ne_eq, Text.trim_eq_empty_iff, Nat.not_lt.mp hhigh]
          constructor
          · rintro ⟨hall, hdistinct⟩
            refine ⟨⟨by simp, fun a ha => ?_⟩, fun a ha hsame => ?_, hdistinct⟩
            · obtain ⟨hnamed, hpriority, -, hother⟩ := hall a ha
              exact ⟨hnamed, hpriority, hother⟩
            · exact (hall a ha).2.2.1 hsame.symm
          · rintro ⟨⟨-, hall⟩, hfirst, hdistinct⟩
            refine ⟨fun a ha => ?_, hdistinct⟩
            obtain ⟨hnamed, hpriority, hother⟩ := hall a ha
            exact ⟨hnamed, hpriority, fun hsame => hfirst a ha hsame.symm, hother⟩

theorem checkSeeds_of_validate {c : Config} (h : c.validate = .ok ()) :
    checkSeeds [] c.metadata.providers = none := by
  unfold validate at h
  cases hcheck : c.check with
  | some problem => simp [hcheck] at h
  | none =>
    unfold check at hcheck
    split at hcheck
    · simp at hcheck
    · simp only at hcheck
      split_ifs at hcheck
      exact hcheck

end Config

namespace Service

variable {service : Service W} {d : Definition} {ds before : List Definition} {s : State W}

/-! ## One after the other -/

/-- The state after definitions were created one after the other, whether or not each was
accepted. -/
def createEach (service : Service W) (ds : List Definition) (s : State W) : State W :=
  ds.foldl (fun s d => (service.create d s).2) s

/-- The definitions that are accepted when they are created one after the other. -/
def accepted (service : Service W) : List Definition → State W → List Definition
  | [], _ => []
  | d :: rest, s =>
    match service.create d s with
    | (.ok _, s) => d :: service.accepted rest s
    | (.error _, s) => service.accepted rest s

theorem createEach_eq (ds : List Definition) (s : State W) :
    service.createEach ds s = s.seeded service (service.accepted ds s) := by
  induction ds generalizing s with
  | nil => exact (State.seeded_nil s service).symm
  | cons d ds ih =>
    rw [createEach, List.foldl_cons, accepted]
    rcases create_seeds service d s with ⟨e, hrefused⟩ | ⟨-, -, stored, hmade⟩
    · rw [hrefused]
      exact ih s
    · rw [hmade]
      show service.createEach ds (s.seeded service [d]) = _
      rw [ih, ← State.seeded_append]
      rfl

/-- Nothing is accepted while the definitions cannot be read. -/
theorem accepted_of_fault {fault : String} (hfault : s.store.definitionFault = some fault)
    (ds : List Definition) : service.accepted ds s = [] := by
  induction ds with
  | nil => rfl
  | cons d ds ih =>
    rw [accepted]
    rcases create_seeds service d s with ⟨e, hrefused⟩ | ⟨hnone, -⟩
    · rw [hrefused]
      exact ih
    · simp [hfault] at hnone

/-- The registry objects to the name of a definition, after others were created, exactly if one of them
that it accepted has that name. -/
theorem objection_createEach_iff (service : Service W) (before : List Definition)
    (none_stored : s.store.definitions = []) (nonneg : 0 ≤ s.store.lastId)
    (hnamed : Text.trim d.name ≠ "") :
    (∃ p ∈ service.objections d (service.createEach before s), p.property = "name") ↔
      ∃ a ∈ service.accepted before s, nameKey a.name = nameKey d.name := by
  rw [objection_name_iff hnamed, createEach_eq, State.taken_seeded none_stored nonneg]
  cases hfault : s.store.definitionFault with
  | none => exact and_iff_right hfault
  | some fault => simp [accepted_of_fault hfault]

theorem accepted_sublist (ds : List Definition) (s : State W) :
    (service.accepted ds s).Sublist ds := by
  induction ds generalizing s with
  | nil => exact .slnil
  | cons d ds ih =>
    rw [accepted]
    split
    · exact (ih _).cons_cons d
    · exact (ih _).cons d

theorem accepted_of_createAll {s' : State W} (h : service.createAll ds s = (.ok (), s')) :
    service.accepted ds s = ds := by
  induction ds generalizing s with
  | nil => rfl
  | cons d ds ih =>
    rw [createAll] at h
    rw [accepted]
    split at h
    · simp at h
    · next hmade =>
      rw [hmade]
      exact congrArg (d :: ·) (ih h)

/-! ## Two checks of the same seeds -/

/-- The seeds of a configuration are refused, when they are created one after the other, only because of
their implementations or their settings. -/
def Agrees (service : Service W) (c : Config) (s : State W) : Prop :=
  ∀ before d after, c.metadata.providers = before ++ d :: after →
    ∀ p ∈ service.objections d (service.createEach before s),
      p.property = "implementation" ∨ p.property = "settings"

/-- What the registry makes of the seeds of a configuration. -/
structure SeedsAgree (service : Service W) (c : Config) (s : State W) : Prop where
  /-- It objects to a name exactly if an earlier seed that it accepted has the same, whatever its case
  and the blanks around it. -/
  name_iff : ∀ before d after, c.metadata.providers = before ++ d :: after →
    ((∃ p ∈ service.objections d (service.createEach before s), p.property = "name") ↔
      ∃ a ∈ service.accepted before s, nameKey a.name = nameKey d.name)
  /-- It never objects to a priority. -/
  priority : ∀ before d after, c.metadata.providers = before ++ d :: after →
    ∀ p ∈ service.objections d (service.createEach before s), p.property ≠ "priority"
  /-- So it agrees exactly if no seed repeats a name that it accepted before. -/
  agrees_iff : service.Agrees c s ↔
    ∀ before d after, c.metadata.providers = before ++ d :: after →
      ∀ a ∈ service.accepted before s, nameKey a.name ≠ nameKey d.name
  /-- It does if there are no blanks around the names. -/
  of_trimmed : (∀ d ∈ c.metadata.providers, Text.trim d.name = d.name) → service.Agrees c s
  /-- What seeding breaks off with are the objections to the first seed that is not accepted. -/
  seeding : ∀ v, (service.seed c.metadata.providers s).1 = .error (.invalid v) →
    ∃ before d after, c.metadata.providers = before ++ d :: after ∧
      service.accepted before s = before ∧
      v.problems = service.objections d (service.createEach before s)

/-- A priority that is not too high is a valid one when the seed is created. -/
theorem validPriority_fresh (h : d.priority ≤ Definition.greatestPriority) :
    Definition.validPriority (fresh d).priority = true := by
  by_cases hzero : d.priority = 0
  · simp [fresh, hzero, Definition.validPriority, Definition.defaultPriority,
      Definition.leastPriority, Definition.greatestPriority]
  · have hleast : Definition.leastPriority ≤ d.priority := Nat.pos_of_ne_zero hzero
    simp [fresh, hzero, Definition.validPriority, hleast, h]

theorem seeding_objections (none_stored : s.store.definitions = []) (nonneg : 0 ≤ s.store.lastId)
    {v : Validation} (h : (service.seed ds s).1 = .error (.invalid v)) :
    ∃ before d after, ds = before ++ d :: after ∧ service.accepted before s = before ∧
      v.problems = service.objections d (service.createEach before s) := by
  cases hfault : s.store.definitionFault with
  | some fault => simp [seed_of_fault hfault] at h
  | none =>
    rcases allStorable_or_first (allStorable_nil service) ds with
      hall | ⟨made, d, rest, hsplit, hmade, hd⟩
    · rw [List.nil_append] at hall
      rw [seed_complete none_stored nonneg hfault hall] at h
      exact nomatch h
    · rw [List.nil_append] at hsplit
      subst hsplit
      obtain ⟨v', hcreate, hseed⟩ := seed_broken none_stored nonneg hfault made rest hmade hd
      have hrun := createAll_of_allStorable none_stored nonneg hfault [] made hmade
      rw [State.seeded_nil] at hrun
      have haccepted : service.accepted made s = made := accepted_of_createAll hrun
      refine ⟨made, d, rest, rfl, haccepted, ?_⟩
      rw [hseed] at h
      obtain rfl : v' = v := RegistryError.invalid.inj (Except.error.inj h)
      rw [createEach_eq, haccepted, objections, hcreate]
      rfl

section Checked

variable {c : Config} (hcheck : Config.checkSeeds [] c.metadata.providers = none)

include hcheck

theorem named_of_checked (hd : d ∈ c.metadata.providers) : Text.trim d.name ≠ "" :=
  ((Config.checkSeeds_eq_none_iff.mp hcheck).1 d hd).1

theorem priority_of_checked (hd : d ∈ c.metadata.providers) {p : Problem}
    (hp : p ∈ service.objections d s) : p.property ≠ "priority" := by
  intro hproperty
  have hvalid := validPriority_fresh ((Config.checkSeeds_eq_none_iff.mp hcheck).1 d hd).2.1
  rcases objection_cases hp with h | (h | h) | ⟨-, hout⟩
  · simp [hproperty] at h
  · simp [hproperty] at h
  · simp [hproperty] at h
  · exact hout hvalid

theorem agrees_iff_of_checked (none_stored : s.store.definitions = [])
    (nonneg : 0 ≤ s.store.lastId) : service.Agrees c s ↔
      ∀ before d after, c.metadata.providers = before ++ d :: after →
        ∀ a ∈ service.accepted before s, nameKey a.name ≠ nameKey d.name := by
  have hname (before d after) (hsplit : c.metadata.providers = before ++ d :: after) :=
    objection_createEach_iff service before none_stored nonneg
      (named_of_checked hcheck (d := d) (by simp [hsplit]))
  constructor
  · intro hall before d after hsplit a ha hkey
    obtain ⟨p, hp, hproperty⟩ := (hname before d after hsplit).mpr ⟨a, ha, hkey⟩
    rcases hall before d after hsplit p hp with h | h <;> simp [hproperty] at h
  · intro hother before d after hsplit p hp
    rcases objection_cases hp with h | h | ⟨h, -⟩
    · obtain ⟨a, ha, hkey⟩ := (hname before d after hsplit).mp ⟨p, hp, h⟩
      exact absurd hkey (hother before d after hsplit a ha)
    · exact h
    · exact absurd h (priority_of_checked hcheck (by simp [hsplit]) hp)

/-- Names without blanks around them are the same to both. -/
theorem agrees_of_trimmed (none_stored : s.store.definitions = []) (nonneg : 0 ≤ s.store.lastId)
    (htrimmed : ∀ d ∈ c.metadata.providers, Text.trim d.name = d.name) : service.Agrees c s := by
  rw [agrees_iff_of_checked hcheck none_stored nonneg]
  intro before d after hsplit a ha
  have hbefore : a ∈ before := (accepted_sublist before s).subset ha
  have hdistinct := (Config.checkSeeds_eq_none_iff.mp hcheck).2
  rw [hsplit] at hdistinct htrimmed
  rw [nameKey, nameKey, htrimmed a (by simp [hbefore]), htrimmed d (by simp)]
  exact (List.pairwise_append.mp hdistinct).2.2 a hbefore d List.mem_cons_self

end Checked

/-- **Two checks of the same seeds.**  Of a configuration that was accepted the registry refuses a seed
because of its name exactly if it repeats one that it accepted before. -/
theorem seedsAgree_of_validate (service : Service W) {c : Config} {s : State W}
    (h : c.validate = .ok ()) (none_stored : s.store.definitions = [])
    (nonneg : 0 ≤ s.store.lastId) : service.SeedsAgree c s := by
  have hcheck := Config.checkSeeds_of_validate h
  refine ⟨?_, ?_, agrees_iff_of_checked hcheck none_stored nonneg,
    agrees_of_trimmed hcheck none_stored nonneg, fun v hv => seeding_objections none_stored nonneg hv⟩
  · intro before d after hsplit
    exact objection_createEach_iff service before none_stored nonneg
      (named_of_checked hcheck (by simp [hsplit]))
  · intro before d after hsplit p hp
    exact priority_of_checked hcheck (by simp [hsplit]) hp

/-- A configuration in which the name of the second seed is that of the first with a blank before it. -/
def paddedConfig : Config :=
  { metadata := { providers := [Definition.new "m" "Mock", Definition.new " m" "Mock"] } }

theorem validate_paddedConfig : paddedConfig.validate = .ok () := by rfl

theorem seedsAgree_paddedConfig :
    paddedConfig.validate = .ok () ∧ ({ world := () } : State Unit).store.definitions = [] ∧
      (0 : Int) ≤ ({ world := () } : State Unit).store.lastId ∧
      State.mockService.SeedsAgree paddedConfig { world := () } :=
  ⟨by rfl, rfl, by decide,
    seedsAgree_of_validate State.mockService (by rfl) rfl (by decide)⟩

/-- **The registry refuses a name that the check accepts**: one that differs from an earlier name in the
blanks around it. -/
theorem objected_paddedConfig :
    State.mockService.objections (Definition.new " m" "Mock")
        (State.mockService.createEach [Definition.new "m" "Mock"] { world := () }) =
      [⟨"name", "a provider named 'm' already exists"⟩] ∧
      ¬ ∀ (service : Service Unit) (c : Config) (s : State Unit), c.validate = .ok () →
        (∀ d source, service.factory.build d = .ok source → source.suggestedPriority = 0) →
        s.store.definitions = [] → service.Agrees c s := by
  have hobjection : State.mockService.objections (Definition.new " m" "Mock")
      (State.mockService.createEach [Definition.new "m" "Mock"] { world := () }) =
        [⟨"name", "a provider named 'm' already exists"⟩] := by rfl
  refine ⟨hobjection, fun hall => ?_⟩
  have hsuggests : ∀ d (source : Source Unit),
      State.mockService.factory.build d = .ok source → source.suggestedPriority = 0 := by
    intro d source hbuild
    unfold Factory.build State.mockService at hbuild
    simp only [List.lookup] at hbuild
    split at hbuild
    · simp at hbuild
    · next builder hfound =>
      split at hfound
      · obtain rfl := Option.some.inj hfound
        obtain rfl := Except.ok.inj hbuild
        rfl
      · simp at hfound
  have hagrees := hall State.mockService paddedConfig { world := () } validate_paddedConfig
    hsuggests rfl [Definition.new "m" "Mock"] (Definition.new " m" "Mock") [] rfl
  rw [hobjection] at hagrees
  rcases hagrees _ List.mem_cons_self with h | h <;> simp at h

end Service
end Biblio
