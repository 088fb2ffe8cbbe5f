import Biblio.Clock
import Biblio.Table

/-!
# Caches that expire

A cache keeps values under keys for a window of time.

* `Expiry` says what the window counts from: the last time the entry was used, or the time it was
  stored.
* `Cache.get` is the look-up; it removes an entry that it finds expired and, in a rolling cache,
  prolongs one that it finds live.
* `Cache.insert`, `remove`, `purge` and `clear` change the content.
-/

set_option autoImplicit false

namespace Biblio

/-- What the life of an entry counts from. -/
inductive Expiry where
  /-- From its last use. -/
  | rolling (window : Span)
  /-- From the time it was stored. -/
  | fixed (window : Span)
  deriving DecidableEq, Repr, Inhabited

namespace Expiry

/-- The length of an entry's life. -/
def window : Expiry → Span
  | .rolling d => d
  | .fixed d => d

end Expiry

/-- A value and the instant from which it no longer counts. -/
structure CacheEntry (V : Type) where
  value : V
  expiresAt : Instant
  deriving Inhabited

/-- Values under keys, each for a time. -/
structure Cache (V : Type) where
  expiry : Expiry
  /-- The entries, one per key. -/
  entries : List (String × CacheEntry V) := []
  deriving Inhabited

namespace Cache

variable {V : Type}

/-- The entry under a key, expired or not. -/
def find? (c : Cache V) (key : String) : Option (CacheEntry V) := c.entries.lookup key

/-- The entries under all other keys. -/
def others (c : Cache V) (key : String) : List (String × CacheEntry V) :=
  c.entries.filter (fun e => e.1 != key)

/-- Puts an entry under a key, in place of the one that is there. -/
def put (c : Cache V) (key : String) (e : CacheEntry V) : Cache V :=
  { c with entries := (key, e) :: c.others key }

/-- Stores a value under a key for the window. -/
def insert (c : Cache V) (now : Instant) (key : String) (value : V) :
    Except ClockOverflow (Cache V) :=
  match now.after c.expiry.window with
  | .error e => .error e
  | .ok t => .ok (c.put key ⟨value, t⟩)

/-- The live value under a key. -/
def get (c : Cache V) (now : Instant) (key : String) :
    Except ClockOverflow (Option V × Cache V) :=
  match c.find? key with
  | none => .ok (none, c)
  | some e =>
    if now < e.expiresAt then
      match c.expiry with
      | .fixed _ => .ok (some e.value, c)
      | .rolling window =>
        match now.after window with
        | .error err => .error err
        | .ok t => .ok (some e.value, c.put key ⟨e.value, t⟩)
    else .ok (none, { c with entries := c.others key })

/-- Takes the value under a key out, expired or not. -/
def remove (c : Cache V) (key : String) : Option V × Cache V :=
  ((c.find? key).map (·.value), { c with entries := c.others key })

/-- Drops every expired entry and says how many there were. -/
def purge (c : Cache V) (now : Instant) : Nat × Cache V :=
  let live := c.entries.filter (fun e => now < e.2.expiresAt)
  (c.entries.length - live.length, { c with entries := live })

/-- Drops every entry. -/
def clear (c : Cache V) : Cache V := { c with entries := [] }

/-- The number of entries, expired ones included. -/
def size (c : Cache V) : Nat := c.entries.length

/-! ## What the operations do to the entry under a key -/

@[simp] theorem find?_put_self (c : Cache V) (key : String) (e : CacheEntry V) :
    (c.put key e).find? key = some e :=
  Table.lookup_replace_self key e c.entries

theorem find?_put_ne (c : Cache V) {key other : String} (h : other ≠ key) (e : CacheEntry V) :
    (c.put key e).find? other = c.find? other :=
  Table.lookup_replace_ne h e c.entries

end Cache
end Biblio
