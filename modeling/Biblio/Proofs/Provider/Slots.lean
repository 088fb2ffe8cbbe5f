import Biblio.Proofs.Cache.Live
import Biblio.Service.State

/-!
# What the caches of a provider hold

A provider has six caches.  They are told apart by name here, so that what holds of all of them can be
said at once.

* `ShelfName` is the name of a cache, and a `Slot` is a name with a key.
* `Slot.live` is the answer that is live in a slot.
* `Caches.SameFrom` and `Caches.Stored` are the two things that may happen to the live answers: nothing
  at all, or that one of them is stored.
-/

set_option autoImplicit false

namespace Biblio

/-! ## Answers -/

/-- What a provider says to a question. -/
inductive Answer where
  | author (found : Except SourceError (Option Author))
  | book (found : Except SourceError (Option BookInfo))
  | authors (found : Except SourceError (List Author))
  | books (found : Except SourceError (List Book))

/-- The answer brings something: an entity, or at least one result. -/
def Answer.Finds : Answer → Prop
  | .author (.ok (some _)) => True
  | .book (.ok (some _)) => True
  | .authors (.ok found) => found ≠ []
  | .books (.ok found) => found ≠ []
  | _ => False

/-! ## Names -/

/-- The caches of a provider. -/
inductive ShelfName where
  | authors
  | books
  | authorSearches
  | bookSearches
  | isbn
  | asin
  deriving DecidableEq

namespace ShelfName

/-- What a cache keeps. -/
def Value : ShelfName → Type
  | .authors => Author
  | .books => BookInfo
  | .authorSearches => List Author
  | .bookSearches => List Book
  | .isbn => List Book
  | .asin => List Book

/-- The cache under a name. -/
def shelf : (k : ShelfName) → Shelf k.Value
  | .authors => Shelf.authors
  | .books => Shelf.books
  | .authorSearches => Shelf.authorSearches
  | .bookSearches => Shelf.bookSearches
  | .isbn => Shelf.isbn
  | .asin => Shelf.asin

/-- The answer that a value stands for. -/
def shown : (k : ShelfName) → k.Value → Answer
  | .authors, found => .author (.ok (some found))
  | .books, found => .book (.ok (some found))
  | .authorSearches, found => .authors (.ok found)
  | .bookSearches, found => .books (.ok found)
  | .isbn, found => .books (.ok found)
  | .asin, found => .books (.ok found)

/-- How long an entry lives. -/
def window (w : CacheWindows) : ShelfName → Span
  | .authors => w.entity
  | .books => w.entity
  | .authorSearches => w.search
  | .bookSearches => w.search
  | .isbn => w.identifier
  | .asin => w.identifier

/-- Whether a read counts as a use that begins the life of the entry anew. -/
def rolls : ShelfName → Bool
  | .authors => true
  | .books => true
  | _ => false

/-- What the life of an entry counts from. -/
def expiry (w : CacheWindows) (k : ShelfName) : Expiry :=
  if k.rolls then .rolling (k.window w) else .fixed (k.window w)

variable (k : ShelfName)

theorem get_set_self (c : Cache k.Value) (cs : Caches) : k.shelf.get (k.shelf.set c cs) = c := by
  cases k <;> rfl

theorem get_set_ne {l : ShelfName} (h : l ≠ k) (c : Cache k.Value) (cs : Caches) :
    l.shelf.get (k.shelf.set c cs) = l.shelf.get cs := by
  cases k <;> cases l <;> first | rfl | exact absurd rfl h

theorem expiry_empty (w : CacheWindows) : (k.shelf.get (Caches.empty w)).expiry = k.expiry w := by
  cases k <;> rfl

theorem entries_empty (w : CacheWindows) : (k.shelf.get (Caches.empty w)).entries = [] := by
  cases k <;> rfl

theorem window_expiry (w : CacheWindows) : (k.expiry w).window = k.window w := by
  cases k <;> rfl

end ShelfName

/-! ## Slots -/

/-- A place in one of the caches. -/
structure Slot where
  name : ShelfName
  key : String
  deriving DecidableEq

/-- The answer that is live at an instant. -/
def Slot.live (slot : Slot) (cs : Caches) (t : Instant) : Option Answer :=
  ((slot.name.shelf.get cs).live t slot.key).map slot.name.shown

namespace Caches

variable {cs cs₁ cs₂ : Caches} {k : ShelfName} {key : String} {t t' now till : Instant} {slot : Slot}
  {a : Answer}

theorem live_of_le (ht : t ≤ t') (h : slot.live cs t' = some a) : slot.live cs t = some a := by
  obtain ⟨v, hlive, ha⟩ := Option.map_eq_some_iff.mp h
  exact Option.map_eq_some_iff.mpr ⟨v, Cache.live_of_le ht hlive, ha⟩

theorem live_empty (w : CacheWindows) (slot : Slot) (t : Instant) :
    slot.live (Caches.empty w) t = none := by
  have hfind : (slot.name.shelf.get (Caches.empty w)).find? slot.key = none := by
    rw [Cache.find?, slot.name.entries_empty]
    rfl
  rw [Slot.live, Cache.live, hfind]
  rfl

/-- Every cache counts the life of its entries as it should. -/
def Timed (cs : Caches) (w : CacheWindows) : Prop :=
  ∀ k : ShelfName, (k.shelf.get cs).expiry = k.expiry w

/-- Nothing happens to the answers that are live from an instant on. -/
structure SameFrom (now : Instant) (cs cs' : Caches) : Prop where
  expiry : ∀ k : ShelfName, (k.shelf.get cs').expiry = (k.shelf.get cs).expiry
  live : ∀ (slot : Slot) (t : Instant), now ≤ t → slot.live cs' t = slot.live cs t

/-- An answer is stored in a slot until an instant, and nothing else happens to those that are live
from another instant on. -/
structure Stored (slot : Slot) (a : Answer) (till now : Instant) (cs cs' : Caches) : Prop where
  expiry : ∀ k : ShelfName, (k.shelf.get cs').expiry = (k.shelf.get cs).expiry
  self : ∀ t, slot.live cs' t = if t < till then some a else none
  others : ∀ (other : Slot) (t : Instant), now ≤ t → other ≠ slot → other.live cs' t = other.live cs t

theorem SameFrom.refl (now : Instant) (cs : Caches) : SameFrom now cs cs :=
  ⟨fun _ => rfl, fun _ _ _ => rfl⟩

theorem SameFrom.of_le {later : Instant} (h : SameFrom now cs cs₁) (hle : now ≤ later) :
    SameFrom later cs cs₁ :=
  ⟨h.expiry, fun slot t ht => h.live slot t (Nat.le_trans hle ht)⟩

theorem SameFrom.trans_stored (h : SameFrom now cs cs₁) (h₁ : Stored slot a till now cs₁ cs₂) :
    Stored slot a till now cs cs₂ where
  expiry k := (h₁.expiry k).trans (h.expiry k)
  self := h₁.self
  others other t ht hne := (h₁.others other t ht hne).trans (h.live other t ht)

/-- One cache is replaced by one that has the same live values. -/
theorem sameFrom_set {c : Cache k.Value} (hexpiry : c.expiry = (k.shelf.get cs).expiry)
    (hlive : ∀ t, now ≤ t → ∀ key, c.live t key = (k.shelf.get cs).live t key) :
    SameFrom now cs (k.shelf.set c cs) where
  expiry l := by
    by_cases h : l = k
    · rw [h, k.get_set_self, hexpiry]
    · rw [k.get_set_ne h]
  live slot t ht := by
    obtain ⟨l, key⟩ := slot
    by_cases h : l = k
    · subst h
      simp only [Slot.live, l.get_set_self, hlive t ht key]
    · simp only [Slot.live, k.get_set_ne h]

/-- A value is put into one cache. -/
theorem stored_put (v : k.Value) (cs : Caches) (now : Instant) :
    Stored ⟨k, key⟩ (k.shown v) till now cs
      (k.shelf.set ((k.shelf.get cs).put key ⟨v, till⟩) cs) where
  expiry l := by
    by_cases h : l = k
    · rw [h, k.get_set_self]
      rfl
    · rw [k.get_set_ne h]
  self t := by
    simp only [Slot.live, k.get_set_self, Cache.live_put_self]
    split <;> rfl
  others other t _ hne := by
    obtain ⟨l, other⟩ := other
    by_cases h : l = k
    · subst h
      have hkey : other ≠ key := fun heq => hne (by rw [heq])
      simp only [Slot.live, l.get_set_self, Cache.live_put_ne hkey]
    · simp only [Slot.live, k.get_set_ne h]

end Caches

/-! ## The caches of a provider -/

namespace State

variable {W : Type}

theorem cachesOf_setCaches (s : State W) (p : Provider W) (cs : Caches) :
    (s.setCaches p cs).cachesOf p = cs := by
  rw [cachesOf, setCaches, Table.lookup_replace_self]
  rfl

theorem cachesOf_congr {s s' : State W} (p : Provider W) (h : s'.caches = s.caches) :
    s'.cachesOf p = s.cachesOf p := by
  rw [cachesOf, cachesOf, h]

end State
end Biblio
