import Biblio.Proofs.Service.Run

/-!
# What actions leave alone

* `State.SameWorld` — the clocks, the system and the world of the sources are as they were, and
  `Action.KeepsWorld` — they stay as they are.
* `Action.IgnoresCaches` — the caches are neither read nor changed: with other caches the action does
  the same.
* `Action.Aside` — both.
* `Action.KeepsStore` — the store stays as it is.

They hold of the parts that actions are made of, and pass from these to the whole.
-/

set_option autoImplicit false

namespace Biblio

variable {W α β : Type}

/-! ## The world -/

/-- The clocks, the system and the world are as they were. -/
structure State.SameWorld (s s' : State W) : Prop where
  now : s'.now = s.now
  wall : s'.wall = s.wall
  runtime : s'.runtime = s.runtime
  world : s'.world = s.world

theorem State.SameWorld.trans {s s' s'' : State W} (h : s.SameWorld s') (h' : s'.SameWorld s'') :
    s.SameWorld s'' :=
  ⟨h'.now.trans h.now, h'.wall.trans h.wall, h'.runtime.trans h.runtime, h'.world.trans h.world⟩

namespace Action

variable {a : Action W α} {f : α → Action W β}

/-- The clocks, the system and the world stay as they are. -/
def KeepsWorld (a : Action W α) : Prop := ∀ s : State W, s.SameWorld (a.eval s).2

theorem keepsWorld_pure (x : α) : KeepsWorld (pure x : Action W α) := fun _ => ⟨rfl, rfl, rfl, rfl⟩

/-- After an action, only actions follow that keep the world. -/
theorem world_bind (hf : ∀ x, (f x).KeepsWorld) (s : State W) :
    (a.eval s).2.SameWorld ((a >>= f).eval s).2 := by
  rw [eval_bind]
  obtain ⟨r, s'⟩ := a.eval s
  cases r with
  | error e => exact ⟨rfl, rfl, rfl, rfl⟩
  | ok x => exact hf x s'

theorem KeepsWorld.bind (ha : a.KeepsWorld) (hf : ∀ x, (f x).KeepsWorld) : (a >>= f).KeepsWorld :=
  fun s => (ha s).trans (world_bind hf s)

/-! ## The caches -/

/-- The caches are neither read nor changed. -/
def IgnoresCaches (a : Action W α) : Prop :=
  ∀ s cs, a.eval { s with caches := cs } = ((a.eval s).1, { (a.eval s).2 with caches := cs })

theorem ignoresCaches_pure (x : α) : IgnoresCaches (pure x : Action W α) := fun _ _ => rfl

theorem IgnoresCaches.bind (ha : a.IgnoresCaches) (hf : ∀ x, (f x).IgnoresCaches) :
    (a >>= f).IgnoresCaches := by
  intro s cs
  rw [eval_bind, eval_bind, ha s cs]
  obtain ⟨r, s'⟩ := a.eval s
  cases r with
  | error e => rfl
  | ok x => exact hf x s' cs

theorem IgnoresCaches.map (ha : a.IgnoresCaches) (g : α → β) : (g <$> a).IgnoresCaches := by
  rw [map_eq_pure_bind]
  exact ha.bind fun x => ignoresCaches_pure (g x)

/-- The caches stay as they are. -/
theorem IgnoresCaches.caches_eq (ha : a.IgnoresCaches) (s : State W) :
    (a.eval s).2.caches = s.caches := by
  have h := congrArg (fun r => r.2.caches) (ha s s.caches)
  exact h

/-! ## Both -/

/-- Neither the world nor the caches have a part in it. -/
structure Aside (a : Action W α) : Prop where
  keepsWorld : a.KeepsWorld
  ignoresCaches : a.IgnoresCaches

theorem aside_pure (x : α) : Aside (pure x : Action W α) := ⟨keepsWorld_pure x, ignoresCaches_pure x⟩

theorem aside_modify {g : State W → State W} (hworld : ∀ s : State W, s.SameWorld (g s))
    (hcaches : ∀ s cs, g { s with caches := cs } = { g s with caches := cs }) :
    Aside (modify g : Action W PUnit) where
  keepsWorld := hworld
  ignoresCaches s cs := by rw [eval_modify, eval_modify, hcaches]

theorem aside_count (c : Series) : Aside (count c : Action W Unit) :=
  ⟨fun _ => ⟨rfl, rfl, rfl, rfl⟩, fun _ _ => rfl⟩

theorem Aside.bind (ha : a.Aside) (hf : ∀ x, (f x).Aside) : (a >>= f).Aside where
  keepsWorld := ha.keepsWorld.bind fun x => (hf x).keepsWorld
  ignoresCaches := ha.ignoresCaches.bind fun x => (hf x).ignoresCaches

/-! ## The store -/

/-- The store stays as it is. -/
def KeepsStore (a : Action W α) : Prop := ∀ s, (a.eval s).2.store = s.store

theorem keepsStore_pure (x : α) : KeepsStore (pure x : Action W α) := fun _ => rfl

/-- After an action, only actions follow that keep the store. -/
theorem store_bind (hf : ∀ x, (f x).KeepsStore) (s : State W) :
    ((a >>= f).eval s).2.store = (a.eval s).2.store := by
  rw [eval_bind]
  obtain ⟨r, s'⟩ := a.eval s
  cases r with
  | error e => rfl
  | ok x => exact hf x s'

theorem KeepsStore.bind (ha : a.KeepsStore) (hf : ∀ x, (f x).KeepsStore) : (a >>= f).KeepsStore :=
  fun s => (store_bind hf s).trans (ha s)

end Action
end Biblio
