import Biblio.Proofs.Json.RoundTrip
import Biblio.Proofs.Store.Health
import Biblio.Server.Folder
import Mathlib.Data.List.Nodup
import Mathlib.Logic.Function.Basic

/-!
# The store as a map

A store keeps rows in two tables and reads every column back from text.  Seen from outside it is a map
from identifiers to definitions and one to health records, whatever is asked of it and however often
its file is opened again.

* `Store.answer` takes a request to a store, and `Catalogue.answer` takes it to the two maps.
* `DefinitionRow.read_write` is what a row keeps of a definition: all of it.
* `Catalogue.Shows` relates a store to its maps.  `Shows.answer` is one request, `Shows.run` is all of
  them.
* `Store.Catalogued` is what this says about a store that was made from nothing.
-/

set_option autoImplicit false

namespace Biblio

/-! ## Files -/

namespace Server

/-- A path at which the store of a folder is kept. -/
structure Folder.Files (path : String) : Prop where
  kept : Folder.isTransient path = false
  file : Folder.isFolder path = false
  reachable : Folder.reachable path = true
  named : (Folder.name? path).isSome

/-- **A store that was kept is opened again as it was.** -/
theorem Folder.openStore_keep {path : String} (h : Folder.Files path) (f : Folder) (s : Store) :
    (f.keep path s).openStore path = .ok s := by
  obtain ⟨name, hname⟩ := Option.isSome_iff_exists.mp h.named
  have hkeep : f.keep path s =
      { f.clear name with stores := (name, s) :: (f.clear name).stores } := by
    rw [Folder.keep, h.kept, hname]
    rfl
  rw [hkeep, Folder.openStore, h.kept, h.file, h.reachable, hname]
  simp [List.lookup_cons_self]

end Server

/-! ## Rows -/

/-- Settings that are the same after they were stored as text. -/
def Definition.Textual (d : Definition) : Prop := Json.parse d.settings.render = .ok d.settings

/-- **A row keeps all of a definition** except for its health record. -/
theorem DefinitionRow.read_write {d : Definition} (h : d.Textual) (id : Int) :
    (DefinitionRow.write id d).read = { d with id := id, health := none } := by
  have hsettings : Json.parse d.settings.render = .ok d.settings := h
  simp only [DefinitionRow.write, DefinitionRow.read, hsettings, Json.ofString_render_strs]
  rfl

/-! ## Requests -/

namespace Store

/-- What is asked of a store. -/
inductive Request where
  | insert (d : Definition)
  | update (d : Definition)
  | delete (id : Int)
  | find (id : Int)
  | all
  | putHealth (h : Health)
  | findHealth (id : Int)
  | deleteHealth (id : Int)
  /-- The store is closed, and opened again at the path where it is kept. -/
  | reopen (folder : Server.Folder) (path : String)

/-- What a store answers. -/
inductive Response where
  | done
  | inserted (d : Definition)
  | updated (d : Definition)
  | found (d : Option Definition)
  | definitions (ds : List Definition)
  | health (h : Option Health)
  | refused (e : StoreError)

/-- The answer to a question that changes nothing. -/
def reply {α : Type} (s : Store) (shown : α → Response) : Except StoreError α → Response × Store
  | .ok a => (shown a, s)
  | .error e => (.refused e, s)

/-- The answer to a change; a refused one leaves the store as it is. -/
def change (s : Store) : Except StoreError (Response × Store) → Response × Store
  | .ok r => r
  | .error e => (.refused e, s)

/-- Takes a request to a store. -/
def answer (s : Store) : Request → Response × Store
  | .insert d => s.change ((s.insert d).map fun r => (.inserted r.1, r.2))
  | .update d => s.change ((s.update d).map fun r => (.updated r.1, r.2))
  | .delete id => s.change ((s.delete id).map fun s' => (.done, s'))
  | .find id => s.reply .found (s.find? id)
  | .all => s.reply .definitions s.all
  | .putHealth h => s.change ((s.putHealth h).map fun s' => (.done, s'))
  | .findHealth id => s.reply .health (s.findHealth? id)
  | .deleteHealth id => s.change ((s.deleteHealth id).map fun s' => (.done, s'))
  | .reopen folder path =>
    s.change (((folder.keep path s).openStore path).map fun s' => (.done, s'))

/-- Takes requests to a store, one after the other. -/
def run (s : Store) : List Request → List Response × Store
  | [] => ([], s)
  | r :: rs => ((s.answer r).1 :: ((s.answer r).2.run rs).1, ((s.answer r).2.run rs).2)

/-- What is taken for granted about a request: settings read back from their text, and a store is
opened again where one can be kept. -/
def Request.Sound : Request → Prop
  | .insert d => d.Textual
  | .update d => d.Textual
  | .reopen _ path => Server.Folder.Files path
  | _ => True

end Store

/-! ## The maps -/

/-- A map of definitions and one of health records. -/
structure Catalogue where
  definitions : Int → Option Definition := fun _ => none
  healths : Int → Option Health := fun _ => none
  /-- The last identifier that was assigned. -/
  last : Nat := 0

namespace Catalogue

open Store (Request Response)

/-- The definitions in ascending order of their identifiers. -/
def all (c : Catalogue) : List Definition :=
  (List.range c.last).filterMap fun n : Nat => c.definitions (n + 1)

/-- A definition under the next identifier. -/
def entry (c : Catalogue) (d : Definition) : Definition :=
  { d with id := (c.last + 1 : Nat), health := none }

/-- Adds a definition under the next identifier. -/
def add (c : Catalogue) (d : Definition) : Catalogue where
  definitions := Function.update c.definitions (c.last + 1 : Nat) (some (c.entry d))
  healths := c.healths
  last := c.last + 1

/-- Puts a definition in place of the one under its identifier. -/
def put (c : Catalogue) (d : Definition) : Catalogue :=
  { c with definitions := Function.update c.definitions d.id (some d.bare) }

/-- Removes a definition and its health record. -/
def remove (c : Catalogue) (id : Int) : Catalogue :=
  { c with
    definitions := Function.update c.definitions id none
    healths := Function.update c.healths id none }

/-- Puts a health record in place of the one for the same provider, or removes it. -/
def putHealth (c : Catalogue) (id : Int) (h : Option Health) : Catalogue :=
  { c with healths := Function.update c.healths id h }

@[simp] theorem definitions_add (c : Catalogue) (d : Definition) : (c.add d).definitions =
    Function.update c.definitions (c.last + 1 : Nat) (some (c.entry d)) := rfl

@[simp] theorem definitions_put (c : Catalogue) (d : Definition) :
    (c.put d).definitions = Function.update c.definitions d.id (some d.bare) := rfl

@[simp] theorem definitions_remove (c : Catalogue) (id : Int) :
    (c.remove id).definitions = Function.update c.definitions id none := rfl

@[simp] theorem healths_remove (c : Catalogue) (id : Int) :
    (c.remove id).healths = Function.update c.healths id none := rfl

@[simp] theorem healths_putHealth (c : Catalogue) (id : Int) (h : Option Health) :
    (c.putHealth id h).healths = Function.update c.healths id h := rfl

/-- Takes a request to the maps. -/
def answer (c : Catalogue) : Request → Response × Catalogue
  | .insert d => (.inserted (c.entry d), c.add d)
  | .update d =>
    match c.definitions d.id with
    | some _ => (.updated d.bare, c.put d)
    | none => (.refused (.notFound d.id), c)
  | .delete id =>
    match c.definitions id with
    | some _ => (.done, c.remove id)
    | none => (.refused (.notFound id), c)
  | .find id => (.found (c.definitions id), c)
  | .all => (.definitions c.all, c)
  | .putHealth h => (.done, c.putHealth h.providerId (some (HealthRow.write h).read))
  | .findHealth id => (.health (c.healths id), c)
  | .deleteHealth id => (.done, c.putHealth id none)
  | .reopen _ _ => (.done, c)

/-- Takes requests to the maps, one after the other. -/
def run (c : Catalogue) : List Request → List Response × Catalogue
  | [] => ([], c)
  | r :: rs => ((c.answer r).1 :: ((c.answer r).2.run rs).1, ((c.answer r).2.run rs).2)

/-! ## The relation -/

/-- A store whose rows are those of the maps. -/
structure Shows (c : Catalogue) (s : Store) : Prop where
  definitionFault : s.definitionFault = none
  healthFault : s.healthFault = none
  removalFault : s.removalFault = none
  lastId : s.lastId = c.last
  ascending : s.Ascending
  positive : ∀ r ∈ s.definitions, 0 < r.id
  definitions : ∀ id,
    (s.definitions.find? fun r => r.id == id).map DefinitionRow.read = c.definitions id
  healths : ∀ id,
    (s.healths.find? fun r => r.providerId == id).map HealthRow.read = c.healths id

namespace Shows

variable {c : Catalogue} {s : Store}

theorem empty : Shows {} {} where
  definitionFault := rfl
  healthFault := rfl
  removalFault := rfl
  lastId := rfl
  ascending := (Store.Reached.empty rfl).ascending
  positive := fun _ hr => nomatch hr
  definitions := fun _ => rfl
  healths := fun _ => rfl

/-! ### What is found -/

theorem find?_eq (h : c.Shows s) (id : Int) : s.find? id = .ok (c.definitions id) := by
  rw [Store.find?, h.definitionFault, Store.checked_none, h.definitions]

theorem findHealth?_eq (h : c.Shows s) (id : Int) : s.findHealth? id = .ok (c.healths id) := by
  rw [Store.findHealth?, h.healthFault, Store.checked_none, h.healths]

/-- There is a row for a definition exactly if it is in the map. -/
theorem any_id (h : c.Shows s) (id : Int) :
    (s.definitions.any fun r => r.id == id) = (c.definitions id).isSome := by
  rw [← h.definitions, Option.isSome_map, Bool.eq_iff_iff, List.any_eq_true, List.find?_isSome]

/-- What the map holds stands under its own identifier, which was assigned. -/
theorem id_eq (h : c.Shows s) {id : Int} {d : Definition} (hd : c.definitions id = some d) :
    d.id = id ∧ 0 < id ∧ id ≤ c.last := by
  rw [← h.definitions, Option.map_eq_some_iff] at hd
  obtain ⟨r, hr, rfl⟩ := hd
  have hfound := List.find?_some hr
  have hid : r.id = id := eq_of_beq hfound
  have hmem := List.mem_of_find?_eq_some hr
  refine ⟨hid, hid ▸ h.positive r hmem, ?_⟩
  have hle := h.ascending.le_lastId r hmem
  rw [hid, h.lastId] at hle
  exact hle

/-- The definitions of the store are those of the map. -/
theorem mem_rows_iff (h : c.Shows s) (d : Definition) :
    d ∈ s.definitions.map DefinitionRow.read ↔ c.definitions d.id = some d := by
  constructor
  · intro hd
    obtain ⟨r, hr, rfl⟩ := List.mem_map.mp hd
    have hsome : (s.definitions.find? fun r' => r'.id == r.id).isSome :=
      List.find?_isSome.mpr ⟨r, hr, beq_self_eq_true _⟩
    obtain ⟨r', hr'⟩ := Option.isSome_iff_exists.mp hsome
    have hfound := List.find?_some hr'
    have hid : r'.id = r.id := eq_of_beq hfound
    have hids : (s.definitions.map DefinitionRow.id).Nodup :=
      List.pairwise_map.mpr (h.ascending.sorted.imp fun hlt => Int.ne_of_lt hlt)
    have heq : r' = r :=
      List.inj_on_of_nodup_map hids (List.mem_of_find?_eq_some hr') hr hid
    have hread := h.definitions r.id
    rw [hr', heq] at hread
    exact hread.symm
  · intro hd
    rw [← h.definitions, Option.map_eq_some_iff] at hd
    obtain ⟨r, hr, hread⟩ := hd
    exact hread ▸ List.mem_map_of_mem (List.mem_of_find?_eq_some hr)

theorem mem_all_iff (h : c.Shows s) (d : Definition) : d ∈ c.all ↔ c.definitions d.id = some d := by
  rw [all, List.mem_filterMap]
  constructor
  · rintro ⟨n, -, hd⟩
    rw [(h.id_eq hd).1]
    exact hd
  · intro hd
    obtain ⟨-, hpos, hle⟩ := h.id_eq hd
    have hlt : d.id.toNat - 1 < c.last := by omega
    refine ⟨d.id.toNat - 1, List.mem_range.mpr hlt, ?_⟩
    have hid : ((d.id.toNat - 1 : Nat) : Int) + 1 = d.id := by omega
    rw [hid]
    exact hd

theorem all_ascending (h : c.Shows s) : c.all.Pairwise fun a b => a.id < b.id := by
  rw [all, List.pairwise_filterMap]
  refine List.pairwise_lt_range.imp ?_
  intro m n hlt a ha b hb
  rw [(h.id_eq ha).1, (h.id_eq hb).1]
  omega

/-- **The definitions are listed in ascending order of their identifiers.** -/
theorem all_eq (h : c.Shows s) : s.all = .ok c.all := by
  have hrows : (s.definitions.map DefinitionRow.read).Pairwise fun a b => a.id < b.id :=
    List.pairwise_map.mpr h.ascending.sorted
  have hne {ds : List Definition} (hds : ds.Pairwise fun a b => a.id < b.id) : ds.Nodup :=
    hds.imp fun {a b} hlt heq => absurd (congrArg Definition.id heq) (Int.ne_of_lt hlt)
  have hperm : (s.definitions.map DefinitionRow.read).Perm c.all :=
    (List.perm_ext_iff_of_nodup (hne hrows) (hne h.all_ascending)).mpr fun d =>
      (h.mem_rows_iff d).trans (h.mem_all_iff d).symm
  have heq : s.definitions.map DefinitionRow.read = c.all :=
    hperm.eq_of_pairwise (fun a b _ _ hab hba => absurd hba (by omega)) hrows h.all_ascending
  rw [Store.all, h.definitionFault, Store.checked_none, heq]

/-! ### Requests -/

/-- A definition that is added. -/
theorem insert (h : c.Shows s) {d : Definition} (hd : d.Textual) :
    ∃ s', s.insert d = .ok (c.entry d, s') ∧ (c.add d).Shows s' := by
  have hid : s.lastId + 1 = (c.last + 1 : Nat) := by rw [h.lastId]; rfl
  have ok : s.insert d = .ok (c.entry d,
      { s with
        definitions := s.definitions ++ [DefinitionRow.write (c.last + 1 : Nat) d]
        lastId := (c.last + 1 : Nat) }) :=
    Store.insert_eq_ok.mpr ⟨h.definitionFault, by rw [hid, entry], by rw [hid]⟩
  refine ⟨_, ok, ⟨h.definitionFault, h.healthFault, h.removalFault, rfl, h.ascending.insert ok, ?_, ?_,
    h.healths⟩⟩
  · intro r hr
    rcases List.mem_append.mp hr with hr | hr
    · exact h.positive r hr
    · rw [List.mem_singleton.mp hr]
      exact Int.natCast_pos.mpr (Nat.succ_pos _)
  · intro id
    show ((s.definitions ++ [DefinitionRow.write (c.last + 1 : Nat) d]).find? _).map _ = _
    rw [List.find?_append, Option.map_or, h.definitions]
    by_cases hnew : id = (c.last + 1 : Nat)
    · -- the identifier is greater than all that were assigned, so it stands for nothing yet
      have hnone : c.definitions id = none := by
        cases hentry : c.definitions id with
        | none => rfl
        | some d' =>
          have hle := (h.id_eq hentry).2.2
          omega
      subst hnew
      have hrow : ([DefinitionRow.write (c.last + 1 : Nat) d].find? fun r =>
          r.id == ((c.last + 1 : Nat) : Int)) = some (DefinitionRow.write (c.last + 1 : Nat) d) :=
        List.find?_cons_of_pos (beq_self_eq_true _)
      rw [hnone, hrow, Option.map_some, DefinitionRow.read_write hd,
        definitions_add, Function.update_self, Option.none_or, entry]
    · have hrow : ([DefinitionRow.write (c.last + 1 : Nat) d].find? fun r => r.id == id) = none := by
        rw [List.find?_singleton, if_neg]
        exact fun heq => hnew (eq_of_beq heq).symm
      rw [hrow, Option.map_none, Option.or_none, definitions_add, Function.update_of_ne hnew]

/-- A definition that is changed. -/
theorem update (h : c.Shows s) {d : Definition} (hd : d.Textual)
    (hfound : (c.definitions d.id).isSome) :
    ∃ s', s.update d = .ok (d.bare, s') ∧ (c.put d).Shows s' := by
  have ok : s.update d = .ok (d.bare,
      { s with
        definitions :=
          s.definitions.map fun r => if r.id = d.id then DefinitionRow.write d.id d else r }) := by
    rw [Store.update, h.definitionFault, Store.checked_none, h.any_id, if_pos hfound]
  have hid : ∀ r : DefinitionRow,
      (if r.id = d.id then DefinitionRow.write d.id d else r).id = r.id := by
    intro r
    split
    · next heq => exact heq.symm
    · rfl
  refine ⟨_, ok, ⟨h.definitionFault, h.healthFault, h.removalFault, h.lastId, h.ascending.update ok,
    ?_, ?_,
    h.healths⟩⟩
  · intro r hr
    obtain ⟨r', hr', rfl⟩ := List.mem_map.mp hr
    rw [hid]
    exact h.positive r' hr'
  · intro id
    have hrow := h.definitions id
    rw [definitions_put]
    simp only [List.find?_map, Function.comp_def, hid]
    cases hentry : s.definitions.find? (fun r => r.id == id) with
    | none =>
      rw [hentry] at hrow
      have hne : id ≠ d.id := by
        rintro rfl
        rw [← hrow] at hfound
        exact absurd hfound (by decide)
      rw [Function.update_of_ne hne]
      exact hrow
    | some r =>
      rw [hentry] at hrow
      have hfound := List.find?_some hentry
      have hr : r.id = id := eq_of_beq hfound
      by_cases heq : id = d.id
      · subst heq
        rw [Function.update_self, Option.map_some, Option.map_some, if_pos hr,
          DefinitionRow.read_write hd]
        rfl
      · rw [Function.update_of_ne heq, Option.map_some, if_neg (hr ▸ heq)]
        exact hrow

/-- A definition that is removed, and its health record with it. -/
theorem delete (h : c.Shows s) {id : Int} (hfound : (c.definitions id).isSome) :
    ∃ s', s.delete id = .ok s' ∧ (c.remove id).Shows s' := by
  have ok : s.delete id = .ok
      { s with
        definitions := s.definitions.filter fun r => r.id != id
        healths := s.healths.filter fun r => r.providerId != id } := by
    rw [Store.delete, h.definitionFault, Store.checked_none, h.any_id, if_pos hfound,
      h.removalFault, Store.checked_none]
  refine ⟨_, ok, ⟨h.definitionFault, h.healthFault, h.removalFault, h.lastId, h.ascending.delete ok,
    fun r hr => h.positive r (List.mem_filter.mp hr).1, ?_, ?_⟩⟩
  · intro other
    simp only [definitions_remove, Store.find?_filter_ne, Function.update_apply]
    split
    · rfl
    · exact h.definitions other
  · intro other
    simp only [healths_remove, Store.find?_filter_ne, Function.update_apply]
    split
    · rfl
    · exact h.healths other

theorem putHealth (h : c.Shows s) (r : Health) : ∃ s', s.putHealth r = .ok s' ∧
    (c.putHealth r.providerId (some (HealthRow.write r).read)).Shows s' := by
  have ok : s.putHealth r = .ok { s with healths := Store.putRow (HealthRow.write r) s.healths } := by
    rw [Store.putHealth, h.healthFault, Store.checked_none]
  refine ⟨_, ok, ⟨h.definitionFault, h.healthFault, h.removalFault, h.lastId,
    ⟨h.ascending.sorted, h.ascending.le_lastId⟩, h.positive, h.definitions, ?_⟩⟩
  intro id
  show Option.map _ ((Store.putRow (HealthRow.write r) s.healths).find? _) = _
  by_cases hid : id = r.providerId
  · subst hid
    have hrow := Store.find?_putRow_self (HealthRow.write r) s.healths
    rw [healths_putHealth, Function.update_self]
    exact congrArg (Option.map HealthRow.read) hrow
  · rw [Store.find?_putRow_ne (HealthRow.write r) s.healths hid, h.healths,
      healths_putHealth, Function.update_of_ne hid]

theorem deleteHealth (h : c.Shows s) (id : Int) : ∃ s', s.deleteHealth id = .ok s' ∧
    (c.putHealth id none).Shows s' := by
  refine ⟨{ s with healths := s.healths.filter (fun r => r.providerId != id) }, ?_,
    ⟨h.definitionFault, h.healthFault, h.removalFault, h.lastId,
      ⟨h.ascending.sorted, h.ascending.le_lastId⟩, h.positive, h.definitions, ?_⟩⟩
  · rw [Store.deleteHealth, h.healthFault, Store.checked_none]
  · intro other
    simp only [healths_putHealth, Store.find?_filter_ne, Function.update_apply]
    split
    · rfl
    · exact h.healths other

/-- A definition that is not there cannot be changed or removed. -/
theorem missing (h : c.Shows s) {id : Int} (hnone : c.definitions id = none) :
    (∀ d : Definition, d.id = id → s.update d = .error (.notFound id)) ∧
      s.delete id = .error (.notFound id) := by
  have hany : (s.definitions.any fun r => r.id == id) = false := by
    rw [h.any_id, hnone]
    rfl
  constructor
  · rintro d rfl
    rw [Store.update, h.definitionFault, Store.checked_none, hany, if_neg Bool.false_ne_true]
  · rw [Store.delete, h.definitionFault, Store.checked_none, hany, if_neg Bool.false_ne_true]

/-- **One request** has the same answer from both, and they go on alike. -/
theorem answer (h : c.Shows s) {r : Request} (hr : r.Sound) :
    (s.answer r).1 = (c.answer r).1 ∧ (c.answer r).2.Shows (s.answer r).2 := by
  cases r with
  | insert d =>
    obtain ⟨s', ok, hs'⟩ := h.insert hr
    rw [Store.answer, ok]
    exact ⟨rfl, hs'⟩
  | update d =>
    rw [Store.answer, Catalogue.answer]
    cases hentry : c.definitions d.id with
    | none =>
      rw [(h.missing hentry).1 d rfl]
      exact ⟨rfl, h⟩
    | some _ =>
      obtain ⟨s', ok, hs'⟩ := h.update hr (by rw [hentry]; rfl)
      rw [ok]
      exact ⟨rfl, hs'⟩
  | delete id =>
    rw [Store.answer, Catalogue.answer]
    cases hentry : c.definitions id with
    | none =>
      rw [(h.missing hentry).2]
      exact ⟨rfl, h⟩
    | some _ =>
      obtain ⟨s', ok, hs'⟩ := h.delete (by rw [hentry]; rfl)
      rw [ok]
      exact ⟨rfl, hs'⟩
  | find id =>
    rw [Store.answer, h.find?_eq]
    exact ⟨rfl, h⟩
  | all =>
    rw [Store.answer, h.all_eq]
    exact ⟨rfl, h⟩
  | putHealth r =>
    obtain ⟨s', ok, hs'⟩ := h.putHealth r
    rw [Store.answer, ok]
    exact ⟨rfl, hs'⟩
  | findHealth id =>
    rw [Store.answer, h.findHealth?_eq]
    exact ⟨rfl, h⟩
  | deleteHealth id =>
    obtain ⟨s', ok, hs'⟩ := h.deleteHealth id
    rw [Store.answer, ok]
    exact ⟨rfl, hs'⟩
  | reopen folder path =>
    rw [Store.answer, Server.Folder.openStore_keep hr]
    exact ⟨rfl, h⟩

/-- **All requests** have the same answers from both. -/
theorem run (h : c.Shows s) {rs : List Request} (hrs : ∀ r ∈ rs, r.Sound) :
    (s.run rs).1 = (c.run rs).1 ∧ (c.run rs).2.Shows (s.run rs).2 := by
  induction rs generalizing c s with
  | nil => exact ⟨rfl, h⟩
  | cons r rs ih =>
    obtain ⟨hanswer, hshows⟩ := h.answer (hrs r List.mem_cons_self)
    obtain ⟨hanswers, hlast⟩ := ih hshows fun r' hr' => hrs r' (List.mem_cons_of_mem r hr')
    rw [Store.run, Catalogue.run, hanswer, hanswers]
    exact ⟨rfl, hlast⟩

end Shows

/-! ## Identifiers -/

theorem last_le_answer (c : Catalogue) (r : Request) : c.last ≤ (c.answer r).2.last := by
  cases r with
  | insert d => exact Nat.le_succ _
  | update d =>
    rw [answer]
    split <;> exact Nat.le_refl _
  | delete id =>
    rw [answer]
    split <;> exact Nat.le_refl _
  | find id => exact Nat.le_refl _
  | all => exact Nat.le_refl _
  | putHealth h => exact Nat.le_refl _
  | findHealth id => exact Nat.le_refl _
  | deleteHealth id => exact Nat.le_refl _
  | reopen folder path => exact Nat.le_refl _

theorem last_le_run (c : Catalogue) (rs : List Request) : c.last ≤ (c.run rs).2.last := by
  induction rs generalizing c with
  | nil => exact Nat.le_refl _
  | cons r rs ih => exact Nat.le_trans (c.last_le_answer r) (ih _)

/-- An identifier that was ever assigned is not beyond the last. -/
theorem id_le_last_of_inserted {c : Catalogue} {rs : List Request} {d : Definition}
    (h : .inserted d ∈ (c.run rs).1) : d.id ≤ (c.run rs).2.last := by
  induction rs generalizing c with
  | nil => exact nomatch h
  | cons r rs ih =>
    rcases List.mem_cons.mp h with hfirst | hrest
    · have hassigned : d.id ≤ (c.answer r).2.last := by
        cases r with
        | insert d' =>
          obtain rfl : d = c.entry d' := Response.inserted.inj hfirst
          exact Int.le_refl _
        | update d' =>
          rw [answer] at hfirst
          split at hfirst <;> exact nomatch hfirst
        | delete id =>
          rw [answer] at hfirst
          split at hfirst <;> exact nomatch hfirst
        | find id => exact nomatch hfirst
        | all => exact nomatch hfirst
        | putHealth h => exact nomatch hfirst
        | findHealth id => exact nomatch hfirst
        | deleteHealth id => exact nomatch hfirst
        | reopen folder path => exact nomatch hfirst
      exact Int.le_trans hassigned (Int.ofNat_le.mpr (last_le_run _ rs))
    · exact ih hrest

/-- What the maps are after requests that began with empty ones. -/
def after (rs : List Request) : Catalogue := (run {} rs).2

end Catalogue

/-! ## Stores that were made from nothing -/

namespace Store

/-- What a store is after requests that began with an empty one. -/
def after (rs : List Request) : Store := (run {} rs).2

/-- **The definitions of a store are a map with fresh identifiers**, after requests to an empty one. -/
structure Catalogued (rs : List Request) : Prop where
  /-- Every request so far was answered as by the maps. -/
  answers : (run {} rs).1 = (Catalogue.run {} rs).1
  /-- What is found is what was inserted or updated last. -/
  find : ∀ id, (after rs).find? id = .ok ((Catalogue.after rs).definitions id)
  /-- All definitions are listed, in ascending order of their identifiers. -/
  all : ∃ ds, (after rs).all = .ok ds ∧ (ds.Pairwise fun a b => a.id < b.id) ∧
    ∀ d, d ∈ ds ↔ (Catalogue.after rs).definitions d.id = some d
  /-- An identifier is greater than all that were ever assigned, and the one given does not
  matter. -/
  fresh : ∀ d : Definition, ∃ n s', (∀ id, (after rs).insert { d with id := id } =
      .ok ({ d with id := n, health := none }, s')) ∧
    ∀ d', .inserted d' ∈ (run {} rs).1 → d'.id < n
  /-- What is not there can neither be updated nor deleted, and nothing changes. -/
  missing : ∀ id, (Catalogue.after rs).definitions id = none →
    (∀ d : Definition, d.id = id →
      (after rs).answer (.update d) = (.refused (.notFound id), after rs)) ∧
    (after rs).answer (.delete id) = (.refused (.notFound id), after rs)
  /-- A definition is removed with its health record, and nothing else is. -/
  removal : ∀ id, ((Catalogue.after rs).definitions id).isSome → ∃ s',
    (after rs).delete id = .ok s' ∧ s'.find? id = .ok none ∧ s'.findHealth? id = .ok none ∧
      ∀ other ≠ id, s'.find? other = (after rs).find? other ∧
        s'.findHealth? other = (after rs).findHealth? other

/-- **A store is such a map after all requests.** -/
theorem catalogued_of_sound (rs : List Request) (hrs : ∀ r ∈ rs, r.Sound) : Catalogued rs := by
  obtain ⟨hanswers, hshows⟩ := Catalogue.Shows.empty.run hrs
  have hshows : (Catalogue.after rs).Shows (after rs) := hshows
  refine ⟨hanswers, hshows.find?_eq, ⟨_, hshows.all_eq, hshows.all_ascending, hshows.mem_all_iff⟩,
    ?_, ?_, ?_⟩
  · intro d
    have ok := (insert_eq_ok (d := d)).mpr ⟨hshows.definitionFault, rfl, rfl⟩
    refine ⟨_, _, fun id => ok, ?_⟩
    intro d' hd'
    rw [hanswers] at hd'
    have hle : d'.id ≤ (Catalogue.after rs).last := Catalogue.id_le_last_of_inserted hd'
    rw [hshows.lastId]
    exact Int.lt_add_one_of_le hle
  · intro id hnone
    obtain ⟨hupdate, hdelete⟩ := hshows.missing hnone
    constructor
    · intro d hd
      rw [answer, hupdate d hd]
      rfl
    · rw [answer, hdelete]
      rfl
  · intro id hsome
    obtain ⟨s', ok, hs'⟩ := hshows.delete hsome
    refine ⟨s', ok, ?_, ?_, ?_⟩
    · rw [hs'.find?_eq, Catalogue.definitions_remove, Function.update_self]
    · rw [hs'.findHealth?_eq, Catalogue.healths_remove, Function.update_self]
    · intro other hother
      rw [hs'.find?_eq, hs'.findHealth?_eq, hshows.find?_eq, hshows.findHealth?_eq,
        Catalogue.definitions_remove, Catalogue.healths_remove, Function.update_of_ne hother,
        Function.update_of_ne hother]
      exact ⟨rfl, rfl⟩

/-- Settings with a list in them. -/
def nestedSettings : Json := .obj [("hosts", .arr [.str "a/b", .num (.int (-1)), .null])]

/-- A definition with settings and tags. -/
def settledDefinition : Definition :=
  { Definition.new "m" "Mock" with id := 9, settings := nestedSettings, tags := ["x", "y"] }

theorem textual_settledDefinition : settledDefinition.Textual := by
  refine Json.Legible.parse_render (.obj (List.pairwise_singleton _ _) ?_)
  intro m hm
  obtain rfl := List.mem_singleton.mp hm
  refine .arr fun j hj => ?_
  simp only [List.mem_cons, List.not_mem_nil, or_false] at hj
  rcases hj with rfl | rfl | rfl
  · exact .str _
  · exact .int (by decide) (by decide)
  · exact .null

/-- Two definitions are added, one is removed and the file is opened again. -/
def reopening : List Request :=
  [.insert settledDefinition, .insert settledDefinition, .delete 2, .delete 2,
    .reopen {} "library.db", .insert settledDefinition, .all]

theorem catalogued_reopening : Catalogued reopening := by
  refine catalogued_of_sound reopening fun r hr => ?_
  have hfiles : Server.Folder.Files "library.db" :=
    ⟨by decide, by decide, by decide, by decide⟩
  simp only [reopening, List.mem_cons, List.not_mem_nil, or_false] at hr
  rcases hr with rfl | rfl | rfl | rfl | rfl | rfl | rfl
  · exact textual_settledDefinition
  · exact textual_settledDefinition
  · trivial
  · trivial
  · exact hfiles
  · exact textual_settledDefinition
  · trivial

end Store
end Biblio
