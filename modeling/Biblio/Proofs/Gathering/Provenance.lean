import Biblio.Proofs.Gathering.Lookups
import Biblio.Proofs.Provider.CacheContents

/-!
# Where the entities in the caches come from

A provider never keeps an entity that its own source did not bring.

* `Caches.Hold` — what the caches keep under an identifier is what a rule says of the lookup that goes
  through them.
* `Service.Brought` — the source of a provider brought an entity in an earlier visit of the same lookup.
* `Looked.traced` — at every time of a history of lookups this holds of all that is in the caches.
  `Looked.brought_of_cached` — so it does of each reply from a cache.
* `Looked.keeps` — what is passed on through a cache is kept there.
-/

set_option autoImplicit false

namespace Biblio

variable {W : Type}

/-! ## Rules -/

/-- What is kept under an identifier is what a rule says of its lookup. -/
structure Caches.Hold (rule : (l : Lookup) → l.Entity → Prop) (cs : Caches) : Prop where
  authors : cs.authors.Holds fun key a => rule (.author key true) a
  books : cs.books.Holds fun key i => rule (.book key) i

theorem Caches.Hold.mono {rule rule' : (l : Lookup) → l.Entity → Prop} {cs : Caches}
    (h : cs.Hold rule) (hle : ∀ l t, rule l t → rule' l t) : cs.Hold rule' :=
  ⟨h.authors.mono fun _ _ => hle _ _, h.books.mono fun _ _ => hle _ _⟩

namespace Lookup

variable {l : Lookup}

/-- What the rule allows in the cache of a lookup. -/
def allows (rule : (l : Lookup) → l.Entity → Prop) : (l : Lookup) → String → l.Entity → Prop
  | .author _ _, key, a => rule (.author key true) a
  | .book _, key, i => rule (.book key) i

theorem allows_key (rule : (l : Lookup) → l.Entity → Prop)
    (h : (l.fetch (W := W)).shelf.isSome) (t : l.Entity) :
    l.allows rule (l.fetch (W := W)).key t ↔ rule l t := by
  cases l with
  | author id useCache =>
    cases useCache with
    | false => exact nomatch h
    | true => rfl
  | book id => rfl

theorem guards (rule : (l : Lookup) → l.Entity → Prop) {shelf : Shelf l.Entity}
    (h : (l.fetch (W := W)).shelf = some shelf) :
    shelf.Guards (l.allows rule) (Caches.Hold rule) := by
  have hempty : ∀ w, (Caches.empty w).Hold rule := fun w =>
    ⟨⟨⟨w.entity, rfl⟩, fun _ he => nomatch he⟩, ⟨⟨w.entity, rfl⟩, fun _ he => nomatch he⟩⟩
  cases l with
  | author id useCache =>
    cases useCache with
    | false => exact nomatch h
    | true =>
      obtain rfl := Option.some.inj h
      exact ⟨fun _ _ => rfl, hempty, fun hcs => hcs.authors, fun hcs hc => ⟨hc, hcs.books⟩⟩
  | book id =>
    obtain rfl := Option.some.inj h
    exact ⟨fun _ _ => rfl, hempty, fun hcs => hcs.books, fun hcs hc => ⟨hcs.authors, hc⟩⟩

end Lookup

theorem Reply.answer_eq_some_iff {T : Type} {r : Reply T} {t : T} :
    r.answer = .ok (some t) ↔ r = .cached t ∨ r = .called (.ok (some t)) := by
  constructor
  · intro h
    cases r with
    | refused source operation => cases h
    | cached u =>
      obtain rfl := Option.some.inj (Except.ok.inj h)
      exact .inl rfl
    | called ending =>
      cases ending with
      | ok found =>
        obtain rfl := Except.ok.inj h
        exact .inr rfl
      | error e =>
        rw [answer] at h
        split at h <;> cases h
  · rintro (rfl | rfl) <;> rfl

namespace Service

variable {past past' : List (Record W)} {l : Lookup} {n : Nat} {s s' : State W}

/-! ## Provenance -/

/-- In a visit of the lookup the source of a provider brought the entity. -/
def Brought (past : List (Record W)) (n : Nat) (l : Lookup) (t : l.Entity) : Prop :=
  ∃ v, ⟨l, v⟩ ∈ past ∧ v.provider.number = n ∧ v.reply = .called (.ok (some t))

theorem Brought.mono {t : l.Entity} (h : Brought past n l t) (hle : past ⊆ past') :
    Brought past' n l t := by
  obtain ⟨v, hv, hn, hreply⟩ := h
  exact ⟨v, hle hv, hn, hreply⟩

/-- All that is in the caches was brought. -/
def Traces (past : List (Record W)) (s : State W) : Prop :=
  s.AllCaches fun n => Caches.Hold (Brought past n)

theorem Traces.mono (h : Traces past s) (hle : past ⊆ past') : Traces past' s :=
  fun e he => (h e he).mono fun _ _ hbrought => hbrought.mono hle

/-- What is replied from a cache was brought. -/
theorem Traces.brought {v : Visit W l.Entity} (hs : Traces past v.before)
    (hanswers : v.Answers l.fetch) {t : l.Entity} (hcached : v.reply = .cached t) :
    Brought past v.provider.number l t := by
  have hreply := hanswers.reply
  rw [hcached] at hreply
  have hallowed := Fetch.allowed_of_cached (fun _ hshelf => Lookup.guards _ hshelf) hs hreply
  exact (Lookup.allows_key _ (Fetch.isSome_of_cached hreply) t).mp hallowed

/-- One visit: what it passes on through a cache was brought before, or is brought now. -/
theorem Traces.visit {v : Visit W l.Entity} (hs : Traces past v.before)
    (hanswers : v.Answers l.fetch) : Traces (past ++ [⟨l, v⟩]) v.after := by
  have hbefore := hs.mono (List.subset_append_left past [⟨l, v⟩])
  refine Fetch.allCaches_ask (fun _ hshelf => Lookup.guards _ hshelf) hbefore hanswers.ask
    fun hsome t ht => ?_
  refine (Lookup.allows_key _ hsome t).mpr ?_
  rcases Reply.answer_eq_some_iff.mp (Except.ok.inj ht) with hreply | hreply
  · exact hbefore.brought hanswers hreply
  · exact ⟨v, List.mem_append_right _ (List.mem_singleton_self _), rfl, hreply⟩

/-- At every visit all that was in the caches had been brought until then. -/
def Traced (past : List (Record W)) : Prop :=
  ∀ before e, before ++ [e] <+: past → Traces before e.2.before ∧ Traces (before ++ [e]) e.2.after

theorem Traced.snoc (h : Traced past) {e : Record W} (hs : Traces past e.2.before)
    (hanswers : e.2.Answers e.1.fetch) : Traced (past ++ [e]) := by
  intro before e' hstart
  rcases List.prefix_concat_iff.mp hstart with heq | hstart
  · obtain ⟨rfl, hsame⟩ := List.append_inj' heq rfl
    obtain rfl := List.singleton_inj.mp hsame
    exact ⟨hs, hs.visit hanswers⟩
  · exact h before e' hstart

theorem traces_failover (hs : Traces past s) (o : Operation) (k : Nat) :
    Traces past (s.failover o k) := by
  refine State.AllCaches.congr hs ?_
  rw [State.failover]
  split <;> rfl

theorem traces_of_replies {k : Nat} {p : Provider W} {r : Reply l.Entity}
    (h : Replies l.fetch k p s r s') (hs : Traces past s) :
    Traces past (s.failover (l.fetch (W := W)).operation k) ∧
      Traces (past ++ [⟨l, ⟨p, s.failover (l.fetch (W := W)).operation k, r, s'⟩⟩]) s' := by
  have hbefore := traces_failover hs (l.fetch (W := W)).operation k
  exact ⟨hbefore, hbefore.visit h.answers⟩

/-- The loop over the providers. -/
theorem traced_of_providerLoop {k : Nat} {ps : List (Provider W)} {vs : List (Visit W l.Entity)}
    {x : Except ClockOverflow (Except Failure l.Entity) × State W} (h : ProviderLoop l.fetch k ps s vs x)
    (hpast : Traced past) (hs : Traces past s) :
    Traced (past ++ vs.map (Sigma.mk l)) ∧ Traces (past ++ vs.map (Sigma.mk l)) x.2 := by
  -- every visit adds to the past of the next one
  induction h generalizing past with
  | inVain =>
    rw [List.map_nil, List.append_nil]
    exact ⟨hpast, hs⟩
  | broken ask =>
    rw [List.map_nil, List.append_nil]
    exact ⟨hpast, Fetch.allCaches_ask (fun _ hshelf => Lookup.guards _ hshelf)
      (traces_failover hs _ _) ask fun _ _ ht => nomatch ht⟩
  | found replies entity =>
    obtain ⟨hbefore, hafter⟩ := traces_of_replies replies hs
    exact ⟨hpast.snoc hbefore replies.answers, hafter⟩
  | passed replies entity others ih =>
    obtain ⟨hbefore, hafter⟩ := traces_of_replies replies hs
    rw [List.map_cons, List.append_cons]
    exact ih (hpast.snoc hbefore replies.answers) hafter

variable {service : Service W}

/-- **All that is in the caches was brought**, at every time of a history of lookups. -/
theorem Looked.traced (h : service.Looked past s) : Traced past ∧ Traces past s := by
  induction h with
  | start fresh =>
    refine ⟨fun before e hstart => ?_, fun e he => ?_⟩
    · exact absurd (List.prefix_nil.mp hstart) (List.append_ne_nil_of_right_ne_nil _ (List.cons_ne_nil _ _))
    · rw [fresh] at he
      exact nomatch he
  | @look past s before l ih =>
    obtain ⟨hpast, hs⟩ := ih
    obtain ⟨ps, s₀, x, hcaches, hloop, hend, -⟩ := service.look_providerLoop l s
    have hs₀ : Traces past s₀ := State.AllCaches.congr hs hcaches
    rw [hend]
    exact traced_of_providerLoop hloop hpast hs₀
  | meanwhile before caches ih =>
    exact ⟨ih.1, ih.2.congr caches⟩

/-- **What is replied from a cache was brought** by the source of the same provider in an earlier visit
of the same lookup. -/
theorem Looked.brought_of_cached (h : service.Looked past s) {before : List (Record W)} {e : Record W}
    (hstart : before ++ [e] <+: past) {t : e.1.Entity} (hcached : e.2.reply = .cached t) :
    Brought before e.2.provider.number e.1 t := by
  have hmem : e ∈ past := hstart.subset (List.mem_append_right _ (List.mem_singleton_self e))
  exact (h.traced.1 before e hstart).1.brought (h.answers e hmem) hcached

/-- Every visit begins and ends with caches in which all was brought. -/
theorem Looked.traces_visit (h : service.Looked past s) {e : Record W} (he : e ∈ past) :
    Traces past e.2.before ∧ Traces past e.2.after := by
  obtain ⟨before, rest, rfl⟩ := List.append_of_mem he
  have hstart : before ++ [e] <+: before ++ e :: rest :=
    List.prefix_append_right_inj before |>.mpr ⟨rest, rfl⟩
  obtain ⟨hbefore, hafter⟩ := h.traced.1 before e hstart
  exact ⟨hbefore.mono (List.subset_append_left _ _), hafter.mono hstart.subset⟩

/-! ## What is kept -/

/-- **What is passed on through a cache is kept there.** -/
theorem Looked.keeps (h : service.Looked past s) {e : Record W} (he : e ∈ past)
    {shelf : Shelf e.1.Entity} (hshelf : (e.1.fetch (W := W)).shelf = some shelf) {t : e.1.Entity}
    (ht : e.2.reply.answer = .ok (some t)) :
    shelf.Keeps (e.2.after.cachesOf e.2.provider) (e.1.fetch (W := W)).key t e.2.after.now := by
  have hguards := Lookup.guards (Brought past e.2.provider.number) hshelf
  have hcaches := (h.traces_visit he).1.cachesOf e.2.provider hguards.empty
  have hask := (h.answers e he).ask
  rw [ht] at hask
  exact Fetch.keeps_of_ask hshelf hguards.get_set (hguards.holds hcaches) hask

end Service
end Biblio
