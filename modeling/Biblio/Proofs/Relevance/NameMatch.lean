import Biblio.Relevance.Rank
import Biblio.Sample
import Mathlib.Order.MinMax

/-!
# Names that match and the gate

The scorer knows three ways in which a name matches a query as a whole: it is equal, it is equal once
spaces do not count, or it contains the query.  The gate counts words.

* `Joins` — the words of a name are words of the query, written together.
* `occurring_of_contains` and `occurring_of_joins` — all words of a query occur in a name that contains
  the query, and in one that joins its words.
* `passesGate_iff` — the gate asks for three quarters of the words, in the name or in one alias.
* `judged_of_words` puts this together; `discarded_spacedInitials` is a name that is equal once spaces
  do not count and that the gate discards all the same.
-/

set_option autoImplicit false

namespace Biblio
namespace Relevance

open Text (occursIn occursIn_iff words infix_of_mem_words)

variable {query : String} {a : Author}

/-! ## Words that occur -/

/-- The words of a name are runs of words of a query, each run written together. -/
def Joins (ws name : List (List Char)) : Prop :=
  ∃ runs : List (List (List Char)), runs.flatten = ws ∧ runs.map List.flatten = name

theorem occurring_le (ws : List (List Char)) (name : List Char) : occurring ws name ≤ ws.length :=
  List.length_filter_le _ _

theorem occurring_eq_length {ws : List (List Char)} {name : List Char} (h : ∀ w ∈ ws, w <:+: name) :
    occurring ws name = ws.length := by
  rw [occurring, List.filter_eq_self.mpr]
  intro w hw
  exact occursIn_iff.mpr (h w hw)

/-- All words of the query occur in a name that contains it. -/
theorem occurring_of_contains {name : String} (h : normalized query <:+: normalized name) :
    occurring (queryWords query) (normalized name) = (queryWords query).length :=
  occurring_eq_length fun _ hw => (infix_of_mem_words hw).trans h

/-- All words of the query occur in a name that joins them. -/
theorem occurring_of_joins {name : String}
    (h : Joins (queryWords query) (words (normalized name))) :
    occurring (queryWords query) (normalized name) = (queryWords query).length := by
  obtain ⟨runs, hquery, hname⟩ := h
  refine occurring_eq_length fun w hw => ?_
  rw [← hquery] at hw
  obtain ⟨run, hrun, hwrun⟩ := List.mem_flatten.mp hw
  have hword : run.flatten ∈ words (normalized name) := by
    rw [← hname]
    exact List.mem_map_of_mem hrun
  exact (List.infix_of_mem_flatten hwrun).trans (infix_of_mem_words hword)

/-! ## The best of several names -/

section Maximum

variable {α β : Type} [LinearOrder β] {f : α → β} {xs : List α} {k : β}

theorem foldl_max_le_iff {least : β} : xs.foldl (fun best x => max best (f x)) least ≤ k ↔
    least ≤ k ∧ ∀ x ∈ xs, f x ≤ k := by
  induction xs generalizing least with
  | nil => simp
  | cons x rest ih => rw [List.foldl_cons, ih, List.forall_mem_cons, max_le_iff, and_assoc]

theorem foldl_max_cases (f : α → β) (xs : List α) (least : β) :
    xs.foldl (fun best x => max best (f x)) least = least ∨
      ∃ x ∈ xs, xs.foldl (fun best x => max best (f x)) least = f x := by
  induction xs generalizing least with
  | nil => exact .inl rfl
  | cons x rest ih =>
    rw [List.foldl_cons]
    rcases ih (max least (f x)) with hleast | ⟨y, hy, hreached⟩
    · rw [hleast]
      exact (max_choice _ _).imp_right fun hx => ⟨x, List.mem_cons_self, hx⟩
    · exact .inr ⟨y, List.mem_cons_of_mem x hy, hreached⟩

end Maximum

/-! ## The gate -/

/-- The names in which the words of a query are looked for: the aliases only help with more than one
word. -/
def consulted (query : String) (a : Author) : List String :=
  if (queryWords query).length = 1 then [a.name] else a.name :: a.aliases

theorem name_mem_consulted (query : String) (a : Author) : a.name ∈ consulted query a := by
  rw [consulted]
  split <;> exact List.mem_cons_self

/-- Three quarters of one or two words are all of them. -/
theorem enough_iff {best n : Nat} (h : best ≤ n) : enough best n = true ↔ 3 * n ≤ 4 * best := by
  rw [enough]
  split
  · rw [beq_iff_eq]
    omega
  · rw [decide_eq_true_iff]
    omega

theorem bestOccurring_le_iff {ws : List (List Char)} {names : List String} {k : Nat} :
    bestOccurring ws names ≤ k ↔ ∀ name ∈ names, occurring ws (normalized name) ≤ k :=
  foldl_max_le_iff.trans (and_iff_right (Nat.zero_le k))

theorem lt_bestOccurring_iff {ws : List (List Char)} {names : List String} {k : Nat} :
    k < bestOccurring ws names ↔ ∃ name ∈ names, k < occurring ws (normalized name) := by
  rw [← Nat.not_le, bestOccurring_le_iff]
  simp only [Classical.not_forall, Nat.not_le, exists_prop]

/-- **What the gate asks for**: three quarters of the words, in one of the names that are consulted. -/
theorem passesGate_iff (h : queryWords query ≠ []) :
    passesGate query a = true ↔ ∃ name ∈ consulted query a,
      3 * (queryWords query).length ≤ 4 * occurring (queryWords query) (normalized name) := by
  have hpos : 0 < (queryWords query).length := List.length_pos_iff.mpr h
  rw [passesGate, consulted]
  split
  · next hnil => exact absurd hnil h
  · next w hone =>
    rw [hone]
    by_cases hoccurs : occursIn w (normalized a.name) = true <;> simp [occurring, hoccurs]
  · next hmany =>
    have hlen : (queryWords query).length ≠ 1 := fun hlen => by
      obtain ⟨w, hw⟩ := List.length_eq_one_iff.mp hlen
      exact hmany w hw
    have hle : bestOccurring (queryWords query) (a.name :: a.aliases) ≤ (queryWords query).length :=
      bestOccurring_le_iff.mpr fun _ _ => occurring_le _ _
    have hquarters (m : Nat) : 3 * (queryWords query).length ≤ 4 * m ↔
        (3 * (queryWords query).length - 1) / 4 < m := by omega
    rw [if_neg hlen, enough_iff hle, hquarters, lt_bestOccurring_iff]
    simp only [hquarters]

/-- A name in which all words occur passes. -/
theorem passesGate_of_occurring (h : queryWords query ≠ [])
    (hall : occurring (queryWords query) (normalized a.name) = (queryWords query).length) :
    passesGate query a = true :=
  (passesGate_iff h).mpr ⟨a.name, name_mem_consulted query a, by omega⟩

/-! ## Ranking -/

/-- Ranking loses nothing and adds nothing. -/
theorem rankBy_perm {α β : Type} (higher : β → β → Bool) (score : α → β) (items : List α) :
    (rankBy higher score items).Perm items := by
  have hsorted := (List.mergeSort_perm (items.map fun a => (score a, a))
    (fun x y => !higher y.1 x.1)).map Prod.snd
  rw [List.map_map] at hsorted
  exact hsorted.trans (List.Perm.of_eq (List.map_id' items))

/-! ## Names that match -/

/-- The tiers of names are those of a name that equals the query, equals it once spaces do not count, or
contains it. -/
theorem tier_of_name_iff {name : String} :
    (tier query name = .exact ∨ tier query name = .unspaced ∨ tier query name = .contains) ↔
      withoutSpaces (normalized query) = withoutSpaces (normalized name) ∨
        normalized query <:+: normalized name := by
  rw [tier]
  split
  · next hexact => simp [hexact]
  · split
    · next hunspaced => simp [hunspaced]
    · next hunspaced =>
      split
      · next hcontains => simp [occursIn_iff.mp hcontains]
      · next hcontains =>
        simp only [mt occursIn_iff.mpr hcontains, hunspaced, or_false, iff_false]
        split <;> decide

/-- What the gate makes of an author, by how the name matches the query as a whole. -/
structure Judged (query : String) (a : Author) : Prop where
  /-- A name that equals the query or contains it passes. -/
  of_contains : normalized query <:+: normalized a.name → passesGate query a = true
  /-- A name that equals the query once spaces do not count passes if its words join those of the
  query. -/
  of_joins : withoutSpaces (normalized query) = withoutSpaces (normalized a.name) →
    Joins (queryWords query) (words (normalized a.name)) → passesGate query a = true
  /-- In general it passes exactly if three quarters of the words of the query occur in it or, for more
  than one word, in one alias. -/
  iff_occurring : passesGate query a = true ↔ ∃ name ∈ consulted query a,
    3 * (queryWords query).length ≤ 4 * occurring (queryWords query) (normalized name)
  /-- The scorer puts exactly these names into its tiers of names. -/
  tiers : (tier query a.name = .exact ∨ tier query a.name = .unspaced ∨
      tier query a.name = .contains) ↔
    withoutSpaces (normalized query) = withoutSpaces (normalized a.name) ∨
      normalized query <:+: normalized a.name
  /-- The authors that pass are kept, each as often as it was found, and no others. -/
  ranked : ∀ authors, (rankAuthors query authors).Perm (authors.filter (passesGate query))

/-- **The gate and the names that match.** -/
theorem judged_of_words (query : String) (a : Author) (h : queryWords query ≠ []) :
    Judged query a where
  of_contains hin := passesGate_of_occurring h (occurring_of_contains hin)
  of_joins _ hjoins := passesGate_of_occurring h (occurring_of_joins hjoins)
  iff_occurring := passesGate_iff h
  tiers := tier_of_name_iff
  ranked _ := rankBy_perm _ _ _

/-- Initials that the query sets apart and the name does not. -/
theorem judged_joinedInitials :
    queryWords "J. K. Rowling" ≠ [] ∧
      Judged "J. K. Rowling" (Sample.author "1" "J.K. Rowling") ∧
      passesGate "J. K. Rowling" (Sample.author "1" "J.K. Rowling") = true := by
  have hwords : queryWords "J. K. Rowling" ≠ [] := by decide +kernel
  have hjoins : Joins (queryWords "J. K. Rowling") (words (normalized "J.K. Rowling")) :=
    ⟨[["j".toList, "k".toList], ["rowling".toList]], by decide +kernel, by decide +kernel⟩
  have h := judged_of_words "J. K. Rowling" (Sample.author "1" "J.K. Rowling") hwords
  exact ⟨hwords, h, h.of_joins (by decide +kernel) hjoins⟩

/-- **A name that matches is discarded**: initials that the name sets apart and the query does not.
Without spaces the two are equal, and the scorer says so. -/
theorem discarded_spacedInitials :
    queryWords "J.K. Rowling" ≠ [] ∧
      withoutSpaces (normalized "J.K. Rowling") = withoutSpaces (normalized "J. K. Rowling") ∧
      tier "J.K. Rowling" "J. K. Rowling" = .unspaced ∧
      passesGate "J.K. Rowling" (Sample.author "1" "J. K. Rowling") = false ∧
      rankAuthors "J.K. Rowling" [Sample.author "1" "J. K. Rowling"] = [] := by
  have hgate : passesGate "J.K. Rowling" (Sample.author "1" "J. K. Rowling") = false := by
    decide +kernel
  refine ⟨by decide +kernel, by decide +kernel, by decide +kernel, hgate, ?_⟩
  rw [rankAuthors, List.filter_cons_of_neg (Bool.eq_false_iff.mp hgate), List.filter_nil]
  exact (rankBy_perm _ _ _).eq_nil

end Relevance
end Biblio
