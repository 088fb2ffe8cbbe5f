import Biblio.OpenLibrary.Lookup
import Biblio.Proofs.Json.RoundTrip
import Mathlib.Tactic.SplitIfs

/-!
# Look-ups in parts

A look-up is put together from requests, and what it finds and sends is found out in the same way.

* `Lookup.run_bind` and `Lookup.sent_bind` — what a look-up in two parts finds, and what it sends;
  `Lookup.run_found` and `Lookup.sent_found` are about look-ups that may find nothing.
* `Request` is a request for one document.  Its reply says that there is none, or has it, or fails:
  `Request.missing_iff`, `Request.has_iff` and `Request.fails_iff` say how each of them is found.
* `keyJson` and `keysJson` are the form in which documents name others.
-/

set_option autoImplicit false

namespace Biblio
namespace OpenLibrary

/-! ## Look-ups -/

namespace Lookup

variable {α β : Type} {network : Network}

theorem run_bind (l : Lookup α) (f : α → Lookup β) : (l >>= f).run network =
    match l.run network with
    | .ok a => (f a).run network
    | .error e => .error e := by
  induction l with
  | done r => cases r <;> rfl
  | ask address next ih => exact ih (network address)
  | askAll addresses next ih => exact ih (addresses.map network)

theorem sent_bind (l : Lookup α) (f : α → Lookup β) : (l >>= f).sent network =
    l.sent network ++
      match l.run network with
      | .ok a => (f a).sent network
      | .error _ => [] := by
  induction l with
  | done r => cases r <;> rfl
  | ask address next ih => exact congrArg (address :: ·) (ih (network address))
  | askAll addresses next ih =>
    refine Eq.trans ?_ (List.append_assoc addresses _ _).symm
    exact congrArg (addresses ++ ·) (ih (addresses.map network))

theorem run_found (l : Lookup α) : l.found.run network =
    match l.run network with
    | .ok a => .ok (some a)
    | .error e => if e.isNotFound then .ok none else .error e := by
  induction l with
  | done r => cases r <;> rfl
  | ask address next ih => exact ih (network address)
  | askAll addresses next ih => exact ih (addresses.map network)

theorem sent_found (l : Lookup α) : l.found.sent network = l.sent network := by
  induction l with
  | done r => cases r <;> rfl
  | ask address next ih => exact congrArg (address :: ·) (ih (network address))
  | askAll addresses next ih => exact congrArg (addresses ++ ·) (ih (addresses.map network))

end Lookup

/-! ## Requests -/

/-- A reply that says that there is no such thing. -/
def Reply.IsMissing (r : Reply) : Prop := ∃ retryAfter body, r = .response 404 retryAfter body

/-- **Only a status of 404** says that there is no such thing. -/
theorem Reply.isNotFound_of_read {α : Type} {decoder : Json.Decoder α} {path : String} {r : Reply}
    {e : SourceError} (h : r.read decoder path = .error e) : e.isNotFound = true ↔ r.IsMissing := by
  cases r with
  | unreachable reason =>
    obtain rfl := Except.error.inj h
    exact iff_of_false Bool.false_ne_true fun ⟨_, _, hr⟩ => nomatch hr
  | response status retryAfter body =>
    have hmissing : (Reply.response status retryAfter body).IsMissing ↔ status = 404 :=
      ⟨fun ⟨_, _, hr⟩ => (Reply.response.inj hr).1, fun hs => hs ▸ ⟨_, _, rfl⟩⟩
    rw [hmissing]
    rw [read] at h
    split_ifs at h with hlimited habsent hrefused
    · obtain rfl := Except.error.inj h
      exact iff_of_false Bool.false_ne_true (by omega)
    · obtain rfl := Except.error.inj h
      exact iff_of_true rfl habsent
    · obtain rfl := Except.error.inj h
      exact iff_of_false Bool.false_ne_true habsent
    · split at h
      · exact nomatch h
      · obtain rfl := Except.error.inj h
        exact iff_of_false Bool.false_ne_true habsent

theorem Reply.IsMissing.read {α : Type} {r : Reply} (h : r.IsMissing) (decoder : Json.Decoder α)
    (path : String) : r.read decoder path = .error (.notFound path) := by
  obtain ⟨retryAfter, body, rfl⟩ := h
  rfl

/-- A request for a document. -/
structure Request (α : Type) where
  decoder : Json.Decoder α
  path : String
  query : List (String × String) := []

namespace Request

variable {α : Type} (q : Request α) (c : Config) (network : Network)

/-- The look-up of the document alone. -/
def ask : Lookup α := c.get q.decoder q.path q.query

/-- What comes back. -/
def reply : Reply := network (c.address q.path q.query)

/-- There is no such document. -/
def Missing : Prop := (q.reply c network).IsMissing

/-- The document has come. -/
def Has (a : α) : Prop := (q.reply c network).read q.decoder q.path = .ok a

/-- Nothing can be said about the document. -/
def Fails (e : SourceError) : Prop :=
  ¬ q.Missing c network ∧ (q.reply c network).read q.decoder q.path = .error e

variable {q c network} {a : α} {e : SourceError}

theorem run_found_ask : (q.ask c).found.run network =
    match (q.reply c network).read q.decoder q.path with
    | .ok a => .ok (some a)
    | .error e => if e.isNotFound then .ok none else .error e := Lookup.run_found (q.ask c)

theorem missing_iff : (q.ask c).found.run network = .ok none ↔ q.Missing c network := by
  rw [run_found_ask]
  constructor
  · intro h
    split at h
    · exact nomatch h
    · next e hread =>
      split at h
      · next hnone => exact (Reply.isNotFound_of_read hread).mp hnone
      · exact nomatch h
  · intro h
    rw [h.read]
    rfl

theorem has_iff : (q.ask c).found.run network = .ok (some a) ↔ q.Has c network a := by
  rw [run_found_ask, Has]
  cases (q.reply c network).read q.decoder q.path with
  | ok a' => simp
  | error e => cases h : e.isNotFound <;> simp [h]

theorem fails_iff : (q.ask c).found.run network = .error e ↔ q.Fails c network e := by
  rw [run_found_ask, Fails, Missing]
  cases h : (q.reply c network).read q.decoder q.path with
  | ok a => simp
  | error e' =>
    rw [← Reply.isNotFound_of_read h]
    cases hnone : e'.isNotFound <;> simp [hnone]

theorem cases (q : Request α) (c : Config) (network : Network) :
    q.Missing c network ∨ (∃ a, q.Has c network a) ∨ ∃ e, q.Fails c network e := by
  rcases hrun : (q.ask c).found.run network with e | _ | a
  · exact .inr (.inr ⟨e, fails_iff.mp hrun⟩)
  · exact .inl (missing_iff.mp hrun)
  · exact .inr (.inl ⟨a, has_iff.mp hrun⟩)

theorem Has.not_missing (h : q.Has c network a) : ¬ q.Missing c network := fun hmissing =>
  nomatch (has_iff.mpr h).symm.trans (missing_iff.mpr hmissing)

theorem Has.not_fails (h : q.Has c network a) : ¬ q.Fails c network e := fun hfails =>
  nomatch h.symm.trans hfails.2

theorem Has.unique {b : α} (h : q.Has c network a) (h' : q.Has c network b) : a = b :=
  Except.ok.inj (h.symm.trans h')

end Request

/-! ## Documents that name others -/

/-- An object with a key. -/
def keyJson (key : String) : Json := .obj [("key", .str key)]

theorem legible_keyJson (depth : Nat) (key : String) : Json.Legible (depth + 1) (keyJson key) :=
  .obj (List.pairwise_singleton _ _) (List.forall_mem_singleton.mpr (.str key))

/-- Objects with keys. -/
def keysJson (keys : List String) : Json := .arr (keys.map keyJson)

theorem legible_keysJson (depth : Nat) (keys : List String) :
    Json.Legible (depth + 2) (keysJson keys) := by
  refine .arr fun j hj => ?_
  obtain ⟨key, -, rfl⟩ := List.mem_map.mp hj
  exact legible_keyJson depth key

end OpenLibrary
end Biblio
