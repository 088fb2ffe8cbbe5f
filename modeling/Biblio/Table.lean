/-!
# Tables as lists of pairs

Caches, instances and other tables are lists of pairs that are looked up by the first component.  An
entry is dropped by filtering its key out, and replaced by putting the new one in front as well.

* `lookup_filter_self` and `lookup_filter_ne` are the look-ups after an entry was dropped.
* `lookup_replace_self` and `lookup_replace_ne` are those after it was replaced.
* `lookup_filter_of_nodup` — where no key stands twice, a look-up among the entries that were picked out
  is the look-up among all, picked out afterwards.
-/

set_option autoImplicit false

namespace Biblio
namespace Table

variable {K V : Type} [BEq K] [LawfulBEq K]

theorem lookup_filter_self (key : K) (kvs : List (K × V)) :
    (kvs.filter (fun e => e.1 != key)).lookup key = none := by
  induction kvs with
  | nil => rfl
  | cons kv rest ih =>
    obtain ⟨k, v⟩ := kv
    by_cases h : k = key
    · simp [List.filter, h, ih]
    · have hb : (key == k) = false := by simpa using fun e => h e.symm
      have hn : (k != key) = true := by simpa using h
      simp [List.filter, hn, List.lookup_cons, hb, ih]

theorem lookup_filter_ne {key other : K} (hne : other ≠ key) (kvs : List (K × V)) :
    (kvs.filter (fun e => e.1 != key)).lookup other = kvs.lookup other := by
  induction kvs with
  | nil => rfl
  | cons kv rest ih =>
    obtain ⟨k, v⟩ := kv
    by_cases h : k = key
    · have hb : (other == k) = false := by simpa [h] using hne
      simp [List.filter, List.lookup_cons, h, ih, h ▸ hb]
    · have hn : (k != key) = true := by simpa using h
      simp only [List.filter, hn, List.lookup_cons]
      split <;> simp_all

theorem lookup_replace_self (key : K) (v : V) (kvs : List (K × V)) :
    ((key, v) :: kvs.filter (fun e => e.1 != key)).lookup key = some v :=
  List.lookup_cons_self

theorem lookup_replace_ne {key other : K} (hne : other ≠ key) (v : V) (kvs : List (K × V)) :
    ((key, v) :: kvs.filter (fun e => e.1 != key)).lookup other = kvs.lookup other := by
  have hb : (other == key) = false := by simpa using hne
  simp only [List.lookup_cons, hb]
  exact lookup_filter_ne hne kvs

theorem mem_of_lookup {key : K} {v : V} {kvs : List (K × V)} (h : kvs.lookup key = some v) :
    (key, v) ∈ kvs := by
  obtain ⟨before, after, rfl, -⟩ := List.lookup_eq_some_iff.mp h
  exact List.mem_append_right before List.mem_cons_self

theorem lookup_eq_none_of_not_mem {key : K} {kvs : List (K × V)} (h : key ∉ kvs.map Prod.fst) :
    kvs.lookup key = none := by
  rw [List.lookup_eq_none_iff]
  intro kv hkv
  rw [bne_iff_ne]
  rintro rfl
  exact h (List.mem_map_of_mem hkv)

theorem lookup_of_mem_of_nodup {kv : K × V} {kvs : List (K × V)} (h : (kvs.map Prod.fst).Nodup)
    (hkv : kv ∈ kvs) : kvs.lookup kv.1 = some kv.2 := by
  induction kvs with
  | nil => exact nomatch hkv
  | cons first rest ih =>
    rw [List.map_cons, List.nodup_cons] at h
    rcases List.mem_cons.mp hkv with rfl | hrest
    · exact List.lookup_cons_self
    · have hne : kv.1 ≠ first.1 := fun heq => h.1 (heq ▸ List.mem_map_of_mem hrest)
      rw [List.lookup_cons, beq_false_of_ne hne]
      exact ih h.2 hrest

theorem lookup_filter_of_nodup {kvs : List (K × V)} (h : (kvs.map Prod.fst).Nodup)
    (keep : K × V → Bool) (key : K) :
    (kvs.filter keep).lookup key = (kvs.lookup key).filter fun v => keep (key, v) := by
  induction kvs with
  | nil => rfl
  | cons first rest ih =>
    obtain ⟨k, v⟩ := first
    rw [List.map_cons, List.nodup_cons] at h
    by_cases hkey : key = k
    · subst hkey
      have hrest : (rest.filter keep).lookup key = none :=
        lookup_eq_none_of_not_mem fun hmem =>
          h.1 ((List.filter_sublist.map Prod.fst).subset hmem)
      rw [List.lookup_cons_self, List.filter_cons]
      split
      · next hkeep => rw [List.lookup_cons_self, Option.filter_some, if_pos hkeep]
      · next hkeep => rw [hrest, Option.filter_some, if_neg hkeep]
    · have hne : (key == k) = false := beq_false_of_ne hkey
      rw [List.lookup_cons, hne, ← ih h.2, List.filter_cons]
      split
      · rw [List.lookup_cons, hne]
      · rfl

end Table
end Biblio
