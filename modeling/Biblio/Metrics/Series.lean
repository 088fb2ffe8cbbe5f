import Biblio.Capability
import Biblio.Decimal.Digits

/-!
# Measurements

What the service does is counted in series.

* `Series` names one counter by what is measured and by labels; `Series.text` is its name in the
  exposition.
* `Metrics` holds the counts; `Metrics.add` raises one and `Metrics.addAll` several.
* `cacheLookup`, `providerRequest` and so on are the series of the service.  A measurement whose
  distribution matters is counted in a series per bound, each for the values up to the bound.
-/

set_option autoImplicit false

namespace Biblio

/-- What is counted, told apart by labels. -/
structure Series where
  name : String
  /-- The labels, in the order in which they are shown. -/
  labels : List (String × String) := []
  deriving DecidableEq, Repr, Inhabited

namespace Series

/-- A character of a label's value in the exposition. -/
def escape : Char → List Char
  | '\\' => ['\\', '\\']
  | '"' => ['\\', '"']
  | '\n' => ['\\', 'n']
  | c => [c]

/-- A label in the exposition. -/
def labelText (l : String × String) : String :=
  l.1 ++ "=\"" ++ String.ofList (l.2.toList.flatMap escape) ++ "\""

/-- The name of a series in the exposition. -/
def text (s : Series) : String :=
  if s.labels.isEmpty then s.name
  else s.name ++ "\x7b" ++ ",".intercalate (s.labels.map labelText) ++ "\x7d"

end Series

/-- The counts of all series that have been counted. -/
structure Metrics where
  counts : List (Series × Nat) := []
  deriving Repr, Inhabited

namespace Metrics

/-- Raises a count in a list. -/
def raise (s : Series) (n : Nat) : List (Series × Nat) → List (Series × Nat)
  | [] => [(s, n)]
  | (t, m) :: rest => if t = s then (t, m + n) :: rest else (t, m) :: raise s n rest

/-- Raises the count of a series. -/
def add (m : Metrics) (s : Series) (n : Nat) : Metrics := ⟨raise s n m.counts⟩

/-- Raises the counts of several series. -/
def addAll (m : Metrics) (changes : List (Series × Nat)) : Metrics :=
  changes.foldl (fun m c => m.add c.1 c.2) m

/-! ## The series of the service -/

/-- Look-ups in the caches of one kind. -/
def cacheLookup (cache : String) (hit : Bool) : Series where
  name := "bookshelf_metadata_cache_lookups_total"
  labels := [("cache", cache), ("result", if hit then "hit" else "miss")]

/-- Calls of a provider that ended in one way. -/
def providerRequest (provider : String) (operation : Operation) (result : String) : Series where
  name := "bookshelf_provider_requests_total"
  labels := [("operation", operation.label), ("provider", provider), ("result", result)]

/-- Calls of a provider whose length was measured. -/
def providerDuration (provider : String) (operation : Operation) : Series where
  name := "bookshelf_provider_request_duration_seconds_count"
  labels := [("operation", operation.label), ("provider", provider)]

/-- Times that the next provider was tried. -/
def failover (operation : Operation) : Series where
  name := "bookshelf_failover_attempts_total"
  labels := [("operation", operation.label)]

/-- Requests that were answered with a status. -/
def httpRequest (method path : String) (status : Nat) : Series where
  name := "bookshelf_http_requests_total"
  labels := [("method", method), ("path", path), ("status", Decimal.text status)]

/-- Requests whose length was measured. -/
def httpDuration (method path : String) (status : Nat) : Series where
  name := "bookshelf_http_request_duration_seconds_count"
  labels := [("method", method), ("path", path), ("status", Decimal.text status)]

/-- The bounds up to which numbers of results are counted. -/
def resultBounds : List Nat := [0, 1, 5, 10, 25, 50, 100]

/-- The results of operations whose number is at most a bound. -/
def resultBucket (operation bound : String) : Series where
  name := "bookshelf_aggregate_results_bucket"
  labels := [("operation", operation), ("le", bound)]

/-- What changes when an operation has had a number of results. -/
def results (operation : String) (n : Nat) : List (Series × Nat) :=
  (resultBounds.filter (n ≤ ·)).map (fun b => (resultBucket operation (Decimal.text b), 1)) ++
    [ (resultBucket operation "+Inf", 1),
      (⟨"bookshelf_aggregate_results_count", [("operation", operation)]⟩, 1),
      (⟨"bookshelf_aggregate_results_sum", [("operation", operation)]⟩, n) ]

/-- The number of providers that are suspended at the moment. -/
def suspendedProviders : Series := ⟨"bookshelf_providers_blocked", []⟩

end Metrics
end Biblio
