import Biblio.Proofs.Registry.Names
import Biblio.Proofs.Service.HealthRecords

/-!
# Health records without a definition

A health record is removed with its definition, and identifiers are never used again, so that a record
should always belong to a stored definition.  The one exception is the test of a definition that is not
stored but carries an identifier: it is noted under this identifier, and whatever definition is given the
identifier later inherits the record.

* `ServiceCall` lists what changes definitions or makes health records, and `ServiceRun` are the runs of
  a service that begins with nothing stored.  A run lists the calls, and the state before each.
* `Service.LeavesRow` says which tests leave a record, and `hasRecord_test` that no other does.
* `Service.LeftByTest` reads off a run which identifiers have a record without a definition.
  `orphanRow_handle` is the step and `ServiceRun.orphanRow_iff` the run.
-/

set_option autoImplicit false

namespace Biblio

variable {W : Type}

/-! ## Records of tests -/

namespace Store

variable {s s' : Store} {id : Int}

/-- There is a record that belongs to no definition. -/
def HasOrphanRow (s : Store) (id : Int) : Prop := s.HasRecord id ∧ ¬ s.Holds id

theorem holds_congr (h : s'.definitions = s.definitions) : s'.Holds id ↔ s.Holds id := by
  rw [holds_iff, h, holds_iff]

theorem hasRecord_noting (p : Provider W) (now : Moment) (outcome : Outcome) :
    (p.noting s now (some outcome)).HasRecord id ↔
      s.HasRecord id ∨ (p.definition.stored = true ∧ s.healthFault = none) ∧ id = p.id := by
  rw [Provider.noting]
  split
  · next hstored =>
    cases hs : s.healthFault with
    | some fault =>
      have hsame : s.note p.rules.backoff p.id now outcome = s := by
        rw [note, keepHealth, putHealth, hs, checked_some]
      rw [hsame]
      exact (or_iff_left (by rintro ⟨⟨-, ⟨⟩⟩, -⟩)).symm
    | none =>
      rw [note, hasRecord_keepHealth hs, providerId_noted]
      exact or_congr_right (and_iff_right ⟨hstored, rfl⟩).symm
  · next hstored => exact (or_iff_left fun h => hstored h.1.1).symm

end Store

namespace Service

variable {service : Service W} {s : State W} {d : Definition} {id : Int}

/-- A test that leaves a record: its source can be built and is called, and the end of the call is noted
under the identifier that the definition carries. -/
structure LeavesRow (service : Service W) (d : Definition) (s : State W) : Prop where
  identified : d.stored = true
  usable : s.store.healthFault = none
  built : ∃ source, service.factory.build d = .ok source
  ended : ∃ v, ((service.test d).eval s).1 = .ok v

/-- **What a test leaves** in the store: at most a note under the identifier of the definition. -/
theorem test_cases (service : Service W) (d : Definition) (s : State W) :
    (((service.test d).eval s).2.store = s.store ∧
      ¬ ((∃ source, service.factory.build d = .ok source) ∧
        ∃ v, ((service.test d).eval s).1 = .ok v)) ∨
    ∃ source outcome v, ∃ p : Provider W, service.factory.build d = .ok source ∧
      p.definition = d.bare ∧
      ((service.test d).eval s).1 = .ok v ∧
      ((service.test d).eval s).2.store =
        p.noting s.store ((service.test d).eval s).2.wall (some outcome) := by
  cases hbuild : service.factory.build d with
  | error e =>
    have heval : (service.test d).eval s = (.ok (.problem "implementation" e.message), s) := by
      rw [test, hbuild, Action.eval_pure]
    rw [heval]
    refine .inl ⟨rfl, ?_⟩
    rintro ⟨⟨source, hsource⟩, -⟩
    cases hsource
  | ok source =>
    let p : Provider W := ⟨d.bare, source, s.built, service.rules⟩
    have hkeeps : p.checkReachable.KeepsStore := p.keepsStore_bounded p.source.test
    have hstore := hkeeps s
    rw [test, hbuild]
    simp only [Action.eval_bind_of_ok (Action.eval_get s)]
    cases hreach : p.checkReachable.eval s with
    | mk r s₁ =>
      rw [hreach] at hstore
      cases r with
      | error overflow =>
        rw [Action.eval_bind_of_error hreach]
        refine .inl ⟨hstore, ?_⟩
        rintro ⟨-, v, hv⟩
        cases hv
      | ok r =>
        rw [Action.eval_bind_of_ok hreach]
        cases r with
        | ok u =>
          refine .inr ⟨source, .succeeded, {}, p, rfl, rfl, ?_⟩
          rw [Action.eval_bind_of_ok (p.eval_recordSuccess s₁), hstore]
          exact ⟨rfl, rfl⟩
        | error e =>
          refine .inr ⟨source, .failed e.leastSuspension, .problem "" e.message, p, rfl, rfl, ?_⟩
          rw [Action.eval_bind_of_ok (p.eval_recordFailure e.leastSuspension s₁), hstore]
          exact ⟨rfl, rfl⟩

/-- **Which records there are after a test.** -/
theorem hasRecord_test : ((service.test d).eval s).2.store.HasRecord id ↔
    s.store.HasRecord id ∨ service.LeavesRow d s ∧ id = d.id := by
  rcases service.test_cases d s with ⟨hstore, hnot⟩ | ⟨source, outcome, v, p, hbuild, hp, hv, hstore⟩
  · rw [hstore]
    exact (or_iff_left fun h => hnot ⟨h.1.built, h.1.ended⟩).symm
  · have hid : p.id = d.id := by rw [Provider.id, hp]; rfl
    have hidentified : p.definition.stored = d.stored := by rw [hp]; rfl
    rw [hstore, Store.hasRecord_noting, hid, hidentified]
    refine or_congr_right (and_congr_left fun _ => ⟨fun h => ?_, fun h => ⟨h.identified, h.usable⟩⟩)
    exact ⟨h.1, h.2, ⟨source, hbuild⟩, ⟨v, hv⟩⟩

/-- A test makes no record but that of the definition. -/
theorem addsHealth_test (service : Service W) (d : Definition) (s : State W) :
    Store.AddsHealth (fun id => id = d.id) s.store ((service.test d).eval s).2.store := by
  rcases service.test_cases d s with ⟨hstore, -⟩ | ⟨source, outcome, v, p, -, hp, -, hstore⟩
  · rw [hstore]
    exact .refl _ s.store
  · have hid : p.id = d.id := by rw [Provider.id, hp]; rfl
    rw [hstore, ← hid]
    exact p.addsHealth_noting s.store _ _

end Service

/-! ## Calls -/

/-- What changes definitions or makes health records. -/
inductive ServiceCall where
  | create (d : Definition)
  | update (d : Definition)
  | delete (id : Int)
  | seed (ds : List Definition)
  | test (d : Definition)
  | ask (r : ServiceQuestion)

namespace Service

/-- Handles a call, whatever the answer. -/
def handle (service : Service W) : ServiceCall → State W → State W
  | .create d, s => (service.create d s).2
  | .update d, s => (service.update d s).2
  | .delete id, s => (Service.delete id s).2
  | .seed ds, s => (service.seed ds s).2
  | .test d, s => ((service.test d).eval s).2
  | .ask r, s => ((service.answerTo r).eval s).2

variable {service : Service W} {s s' : State W} {id : Int}

/-- A change that leaves health records and identifiers alone, apart from new ones. -/
structure Extends (s s' : Store) : Prop where
  healths : s'.healths = s.healths
  holds : ∀ id, s.Holds id → s'.Holds id

theorem Extends.orphanRow_iff {s s' : Store} (h : Extends s s') :
    s'.HasOrphanRow id ↔ ¬ s'.Holds id ∧ s.HasOrphanRow id := by
  have hrecord : s'.HasRecord id ↔ s.HasRecord id := by
    rw [Store.HasRecord, h.healths, Store.HasRecord]
  rw [Store.HasOrphanRow, Store.HasOrphanRow, hrecord]
  constructor
  · rintro ⟨hrow, hnot⟩
    exact ⟨hnot, hrow, fun hholds => hnot (h.holds id hholds)⟩
  · rintro ⟨hnot, hrow, -⟩
    exact ⟨hrow, hnot⟩

theorem extends_create (service : Service W) (d : Definition) (s : State W) :
    Extends s.store (service.create d s).2.store := by
  rcases create_cases service d s with ⟨e, hrefused⟩ | ⟨source, stored, store, -, ok, hmade⟩
  · rw [hrefused]
    exact ⟨rfl, fun _ h => h⟩
  · rw [hmade]
    refine ⟨?_, fun id hholds => (Store.holds_insert ok).mpr (.inl hholds)⟩
    obtain ⟨-, -, rfl⟩ := Store.insert_eq_ok.mp ok
    rfl

theorem extends_update (service : Service W) (d : Definition) (s : State W) :
    Extends s.store (service.update d s).2.store := by
  rcases update_cases service d s with ⟨e, hrefused⟩ | ⟨source, store, -, ok, hmade⟩
  · rw [hrefused]
    exact ⟨rfl, fun _ h => h⟩
  · rw [hmade]
    refine ⟨?_, fun id hholds => (Store.holds_update ok).mpr hholds⟩
    obtain ⟨-, -, -, rfl⟩ := Store.update_eq_ok.mp ok
    rfl

theorem extends_seed (service : Service W) (ds : List Definition) (s : State W) :
    Extends s.store (service.seed ds s).2.store := by
  refine seed_induction (P := fun s' => Extends s.store s'.store) (fun d s₁ h => ?_) ds
    ⟨rfl, fun _ h => h⟩
  have hnext := extends_create service d s₁
  exact ⟨hnext.healths.trans h.healths, fun id hid => hnext.holds id (h.holds id hid)⟩

/-- A definition that is removed takes its record along. -/
theorem orphanRow_delete (gone : Int) (s : State W) : (Service.delete gone s).2.store.HasOrphanRow id ↔
    ¬ (Service.delete gone s).2.store.Holds id ∧ s.store.HasOrphanRow id := by
  rcases delete_cases gone s with ⟨e, hrefused⟩ | ⟨store, ok, hmade⟩
  · rw [hrefused]
    exact ⟨fun h => ⟨h.2, h⟩, fun h => h.2⟩
  · rw [hmade]
    show store.HasOrphanRow id ↔ ¬ store.Holds id ∧ s.store.HasOrphanRow id
    have hgone : s.store.Holds gone := by
      obtain ⟨-, hfound, -⟩ := Store.delete_eq_ok.mp ok
      exact Store.holds_iff.mpr hfound
    have hrecord : store.HasRecord id ↔ s.store.HasRecord id ∧ id ≠ gone := by
      obtain ⟨-, -, -, rfl⟩ := Store.delete_eq_ok.mp ok
      simp only [Store.HasRecord, List.mem_filter, bne_iff_ne]
      constructor
      · rintro ⟨r, ⟨hr, hne⟩, rfl⟩
        exact ⟨⟨r, hr, rfl⟩, hne⟩
      · rintro ⟨⟨r, hr, rfl⟩, hne⟩
        exact ⟨r, ⟨hr, hne⟩, rfl⟩
    rw [Store.HasOrphanRow, Store.HasOrphanRow, hrecord, Store.holds_delete ok]
    constructor
    · rintro ⟨⟨hrow, hne⟩, hnot⟩
      exact ⟨hnot, hrow, fun hholds => hnot ⟨hholds, hne⟩⟩
    · rintro ⟨hnot, hrow, hholds⟩
      refine ⟨⟨hrow, ?_⟩, hnot⟩
      rintro rfl
      exact hholds hgone

/-- **One call.**  A record without a definition was one before, or a test has left it just now. -/
theorem orphanRow_handle (service : Service W) (r : ServiceCall) (s : State W) (id : Int) :
    (service.handle r s).store.HasOrphanRow id ↔ ¬ (service.handle r s).store.Holds id ∧
      (s.store.HasOrphanRow id ∨
        ¬ s.store.Holds id ∧ ∃ d, r = .test d ∧ d.id = id ∧ service.LeavesRow d s) := by
  have hother (h : (service.handle r s).store.HasOrphanRow id ↔
      ¬ (service.handle r s).store.Holds id ∧ s.store.HasOrphanRow id) (hr : ∀ d, r ≠ .test d) :
      (service.handle r s).store.HasOrphanRow id ↔ ¬ (service.handle r s).store.Holds id ∧
        (s.store.HasOrphanRow id ∨
          ¬ s.store.Holds id ∧ ∃ d, r = .test d ∧ d.id = id ∧ service.LeavesRow d s) := by
    rw [h, or_iff_left]
    rintro ⟨-, d, heq, -⟩
    exact hr d heq
  cases r with
  | create d => exact hother (extends_create service d s).orphanRow_iff fun _ h => nomatch h
  | update d => exact hother (extends_update service d s).orphanRow_iff fun _ h => nomatch h
  | delete gone => exact hother (orphanRow_delete gone s) fun _ h => nomatch h
  | seed ds => exact hother (extends_seed service ds s).orphanRow_iff fun _ h => nomatch h
  | ask q =>
    refine hother ?_ fun _ h => nomatch h
    have honly := service.addsHealth_answerTo q s
    have hholds : (service.handle (.ask q) s).store.Holds id ↔ s.store.Holds id := by
      exact Store.holds_congr honly.definitions_eq
    rw [Store.HasOrphanRow, Store.HasOrphanRow, hholds]
    constructor
    · rintro ⟨hrow, hnot⟩
      exact ⟨hnot, (honly.adds id hrow).resolve_right hnot, hnot⟩
    · rintro ⟨hnot, hrow, -⟩
      exact ⟨honly.keeps id hrow, hnot⟩
  | test d =>
    have hholds : (service.handle (.test d) s).store.Holds id ↔ s.store.Holds id := by
      exact Store.holds_congr (service.addsHealth_test d s).definitions_eq
    have hrecord : (service.handle (.test d) s).store.HasRecord id ↔ _ := hasRecord_test
    rw [Store.HasOrphanRow, Store.HasOrphanRow, hrecord, hholds]
    constructor
    · rintro ⟨hrow | ⟨hleaves, rfl⟩, hnot⟩
      · exact ⟨hnot, .inl ⟨hrow, hnot⟩⟩
      · exact ⟨hnot, .inr ⟨hnot, d, rfl, rfl, hleaves⟩⟩
    · rintro ⟨hnot, ⟨hrow, -⟩ | ⟨-, d', heq, rfl, hleaves⟩⟩
      · exact ⟨.inl hrow, hnot⟩
      · obtain rfl := ServiceCall.test.inj heq
        exact ⟨.inr ⟨hleaves, rfl⟩, hnot⟩

end Service

/-! ## Runs -/

/-- A call, and the state in which it was made. -/
structure ServiceStep (W : Type) where
  before : State W
  call : ServiceCall

namespace Service

/-- The runs of a service that begins with nothing stored; the last step comes first. -/
inductive ServiceRun (service : Service W) : List (ServiceStep W) → State W → Prop
  | empty {s : State W} (definitions : s.store.definitions = []) (healths : s.store.healths = [])
      (nonneg : 0 ≤ s.store.lastId) : ServiceRun service [] s
  | step {past : List (ServiceStep W)} {s : State W} (before : ServiceRun service past s)
      (r : ServiceCall) :
      ServiceRun service (⟨s, r⟩ :: past) (service.handle r s)
  /-- Whatever else happens leaves definitions and health records alone. -/
  | meanwhile {past : List (ServiceStep W)} {s s' : State W} (before : ServiceRun service past s)
      (definitions : s'.store.definitions = s.store.definitions)
      (healths : s'.store.healths = s.store.healths) (lastId : s'.store.lastId = s.store.lastId) :
      ServiceRun service past s'

/-- A definition that was not stored was tested under an identifier and left a record, and no definition
has been stored under it since. -/
def LeftByTest (service : Service W) (past : List (ServiceStep W)) (s : State W) (id : Int) : Prop :=
  ¬ s.store.Holds id ∧ ∃ later e earlier d, past = later ++ e :: earlier ∧ e.call = .test d ∧
    d.id = id ∧ service.LeavesRow d e.before ∧ ∀ e' ∈ later ++ [e], ¬ e'.before.store.Holds id

variable {service : Service W} {past : List (ServiceStep W)} {s s' : State W} {id : Int}

theorem leftByTest_nil : ¬ service.LeftByTest [] s id := by
  rintro ⟨-, later, e, earlier, d, heq, -⟩
  cases later <;> exact nomatch heq

/-- The record under an identifier was left by a test before the last step or by it. -/
theorem leftByTest_cons {e : ServiceStep W} : service.LeftByTest (e :: past) s id ↔ ¬ s.store.Holds id ∧
    (service.LeftByTest past e.before id ∨
      ¬ e.before.store.Holds id ∧ ∃ d, e.call = .test d ∧ d.id = id ∧ service.LeavesRow d e.before) := by
  constructor
  · rintro ⟨hnot, later, e', earlier, d, heq, hcall, hid, hleaves, hsince⟩
    refine ⟨hnot, ?_⟩
    cases later with
    | nil =>
      obtain ⟨rfl, rfl⟩ := List.cons.inj heq
      exact .inr ⟨hsince e (List.mem_singleton_self e), d, hcall, hid, hleaves⟩
    | cons first later =>
      obtain ⟨rfl, rfl⟩ := List.cons.inj heq
      refine .inl ⟨hsince e List.mem_cons_self, later, e', earlier, d, rfl, hcall, hid, hleaves, ?_⟩
      exact fun e'' he'' => hsince e'' (List.mem_cons_of_mem e he'')
  · rintro ⟨hnot, ⟨hbefore, later, e', earlier, d, rfl, hcall, hid, hleaves, hsince⟩ |
      ⟨hbefore, d, hcall, hid, hleaves⟩⟩
    · refine ⟨hnot, e :: later, e', earlier, d, rfl, hcall, hid, hleaves, ?_⟩
      intro e'' he''
      rcases List.mem_cons.mp he'' with rfl | he''
      · exact hbefore
      · exact hsince e'' he''
    · refine ⟨hnot, [], e, past, d, rfl, hcall, hid, hleaves, ?_⟩
      intro e'' he''
      obtain rfl := List.mem_singleton.mp he''
      exact hbefore

/-- **Which records belong to no definition**, in every run. -/
theorem ServiceRun.orphanRow_iff (h : service.ServiceRun past s) (id : Int) :
    s.store.HasOrphanRow id ↔ service.LeftByTest past s id := by
  induction h with
  | empty definitions healths nonneg =>
    refine iff_of_false ?_ leftByTest_nil
    rintro ⟨⟨r, hr, -⟩, -⟩
    rw [healths] at hr
    exact nomatch hr
  | @step past s before r ih => rw [orphanRow_handle, leftByTest_cons, ih]
  | @meanwhile past s s' before definitions healths lastId ih =>
    have hrecord : s'.store.HasRecord id ↔ s.store.HasRecord id := by
      rw [Store.HasRecord, healths, Store.HasRecord]
    rw [Store.HasOrphanRow, hrecord, Store.holds_congr definitions, ← Store.HasOrphanRow, ih,
      LeftByTest, LeftByTest, Store.holds_congr definitions]

/-- Names and identifiers are as in every other run. -/
theorem ServiceRun.fromEmpty (h : service.ServiceRun past s) : s.FromEmpty := by
  induction h with
  | empty definitions healths nonneg => exact .empty definitions nonneg
  | @step past s before r ih =>
    cases r with
    | create d => exact ih.create service d
    | update d => exact ih.update service d
    | delete id => exact ih.delete id
    | seed ds => exact ih.seed service ds
    | test d =>
      have honly := service.addsHealth_test d s
      exact ih.aside honly.definitions_eq honly.lastId_eq
    | ask q =>
      have honly := service.addsHealth_answerTo q s
      exact ih.aside honly.definitions_eq honly.lastId_eq
  | meanwhile before definitions healths lastId ih => exact ih.aside definitions lastId

/-- What is promised of health records after a run. -/
structure RowsBelong (service : Service W) (past : List (ServiceStep W)) (s : State W) : Prop where
  /-- The records without a definition are those that tests have left. -/
  orphanRow_iff : ∀ id, s.store.HasOrphanRow id ↔ service.LeftByTest past s id
  /-- So all records belong to stored definitions exactly if no test has left one. -/
  all_iff : (∀ r ∈ s.store.healths, ∃ d ∈ s.store.stored, d.id = r.providerId) ↔
    ∀ id, ¬ service.LeftByTest past s id
  /-- A definition that is created has a record exactly if a test has left one under its
  identifier. -/
  created : ∀ d d' s', service.create d s = (.ok d', s') →
    (s'.store.HasRecord d'.id ↔ service.LeftByTest past s d'.id) ∧
      (¬ service.LeftByTest past s d'.id → d'.health = some (Health.fresh d'.id))

/-- **Health records belong to stored definitions, but for those that tests have left**, after every
run. -/
theorem rowsBelong_of_serviceRun (h : service.ServiceRun past s) : service.RowsBelong past s := by
  refine ⟨h.orphanRow_iff, ?_, fun d d' s' hcreate => ?_⟩
  · constructor
    · intro hall id hleft
      obtain ⟨⟨r, hr, rfl⟩, hnot⟩ := (h.orphanRow_iff id).mpr hleft
      exact hnot (hall r hr)
    · intro hnone r hr
      by_contra hnot
      exact hnone r.providerId ((h.orphanRow_iff _).mp ⟨⟨r, hr, rfl⟩, hnot⟩)
  · rcases create_cases service d s with ⟨e, hrefused⟩ | ⟨source, stored, store, -, ok, hmade⟩
    · exact nomatch (Prod.mk.inj (hrefused.symm.trans hcreate)).1
    · obtain ⟨hd', rfl⟩ := Prod.mk.inj (hmade.symm.trans hcreate)
      obtain rfl := Except.ok.inj hd'
      obtain ⟨-, rfl, rfl⟩ := Store.insert_eq_ok.mp ok
      -- the identifier is new, so that a record under it belongs to no definition
      have hnew : ¬ s.store.Holds (s.store.lastId + 1) := by
        rw [Store.holds_iff]
        rintro ⟨r, hr, hid⟩
        have hle := h.fromEmpty.namesInvariant.ascending.le_lastId r hr
        omega
      have hiff : s.store.HasRecord (s.store.lastId + 1) ↔
          service.LeftByTest past s (s.store.lastId + 1) := by
        rw [← h.orphanRow_iff, Store.HasOrphanRow, and_iff_left hnew]
      refine ⟨hiff, fun hleft => ?_⟩
      have hrecord : ¬ s.store.HasRecord (s.store.lastId + 1) := fun hrow => hleft (hiff.mp hrow)
      exact congrArg some (Store.health_of_not_hasRecord hrecord)

/-- A service whose sources cannot be reached. -/
def unreachableService : Service Unit where
  factory := ⟨[("Mock", fun d =>
    .ok { Sample.source d.name with test := .done (.error (.api 503 "unavailable")) })]⟩
  rules := { callTimeout := Span.seconds 30 }

/-- A definition that carries an identifier, whether it is stored or not. -/
def unsaved : Definition := { Definition.new "m" "Mock" with id := 1 }

/-- What is tested after it was deleted leaves a record. -/
theorem rowsBelong_testAfterDelete : ∃ past s, unreachableService.ServiceRun past s ∧
    past.map ServiceStep.call = [.test unsaved, .delete 1, .create unsaved] ∧
    unreachableService.RowsBelong past s ∧ unreachableService.LeftByTest past s 1 := by
  have hempty : unreachableService.ServiceRun [] { world := () } := .empty rfl rfl (Int.le_refl 0)
  have hrun := ((hempty.step (.create unsaved)).step (.delete 1)).step (.test unsaved)
  have hrows := rowsBelong_of_serviceRun hrun
  refine ⟨_, _, hrun, rfl, hrows, (hrows.orphanRow_iff 1).mp ⟨?_, ?_⟩⟩
  · exact Store.hasRecord_iff.mpr (by decide)
  · rintro ⟨d, hd, -⟩
    exact nomatch hd

/-- The state after the test. -/
def stateAfterTest : State Unit := unreachableService.handle (.test unsaved) { world := () }

theorem serviceRun_stateAfterTest :
    unreachableService.ServiceRun [⟨{ world := () }, .test unsaved⟩] stateAfterTest :=
  (ServiceRun.empty rfl rfl (Int.le_refl 0)).step _

/-- **A test of an unsaved definition leaves a record** without a definition, and the definition that
is created next begins with it. -/
theorem orphanRow_stateAfterTest :
    (¬ ∀ (past : List (ServiceStep Unit)) (s : State Unit), unreachableService.ServiceRun past s →
      ∀ r ∈ s.store.healths, ∃ d ∈ s.store.stored, d.id = r.providerId) ∧
    ¬ ∀ (past : List (ServiceStep Unit)) (s : State Unit) (d d' : Definition) (s' : State Unit),
      unreachableService.ServiceRun past s → unreachableService.create d s = (.ok d', s') →
        d'.health = some (Health.fresh d'.id) := by
  constructor
  · intro hall
    have hnone : stateAfterTest.store.healths = [] := by
      refine List.eq_nil_iff_forall_not_mem.mpr fun r hr => ?_
      obtain ⟨d, hd, -⟩ := hall _ _ serviceRun_stateAfterTest r hr
      exact nomatch hd
    exact absurd (congrArg List.length hnone) (by decide)
  · intro hall
    have hcreate : ∃ d' s', unreachableService.create unsaved stateAfterTest = (.ok d', s') ∧
        (d'.health.map Health.failures) = some 1 := ⟨_, _, rfl, by decide⟩
    obtain ⟨d', s', hcreate, hfailures⟩ := hcreate
    rw [hall _ _ _ _ _ serviceRun_stateAfterTest hcreate] at hfailures
    exact absurd hfailures (by simp [Health.fresh])

end Service
end Biblio
