import Biblio.Gathering.Error
import Biblio.Service.State

/-!
# One answer from many providers

Providers are asked one after the other until one of them has an answer.

* `tryEach` asks them in turn.  An answer without an identifier counts as none; that a provider does
  not support the operation is passed over, and of all other failures the last is kept.
* `firstAnswer` is the answer, or the error that says how many were tried.
-/

set_option autoImplicit false

namespace Biblio

/-- How many providers were tried in vain, and the last failure of one of them. -/
structure Failure where
  tried : Nat
  cause : Option SourceError
  deriving DecidableEq, Repr, Inhabited

/-- An answer that carries an identifier. -/
def wellFormed? {T : Type} [Keyed T] : Option T → Option T
  | some t => if Keyed.foreignId t = "" then none else some t
  | none => none

/-- The failure to keep after one more. -/
def laterCause (cause : Option SourceError) (e : SourceError) : Option SourceError :=
  if e.isNotSupported then cause else some e

/-- Asks providers in turn until one has an answer. -/
def tryEach {W P T : Type} [Keyed T] (o : Operation)
    (ask : P → Action W (Except SourceError (Option T))) :
    List P → Failure → Action W (Except Failure T)
  | [], f => return .error f
  | p :: rest, f => do
    if 0 < f.tried then Action.count (Metrics.failover o)
    match ← ask p with
    | .ok found =>
      match wellFormed? found with
      | some t => return .ok t
      | none => tryEach o ask rest ⟨f.tried + 1, f.cause⟩
    | .error e => tryEach o ask rest ⟨f.tried + 1, laterCause f.cause e⟩

/-- The answer of the first provider that has one. -/
def firstAnswer {W P T : Type} [Keyed T] (category : Category) (o : Operation) (id : String)
    (ask : P → Action W (Except SourceError (Option T))) (providers : List P) :
    Action W (Except GatherError T) := do
  if providers.isEmpty then return .error (.noProviders category)
  match ← tryEach o ask providers ⟨0, none⟩ with
  | .ok t => return .ok t
  | .error f => return .error (.nothingFound category id f.tried f.cause)

end Biblio
