import Biblio.Proofs.Gathering.Provenance
import Biblio.Sample

/-!
# Entities without an identifier

A provider that brings an entity without an identifier is passed over like one that brings nothing.  Its
cache does not make this distinction.

* `Record.BringsUnidentified` — in a lookup that goes through a cache, a source brings an entity without
  an identifier.
* `Service.KeepsUnidentified` is what is promised of a history of lookups, and
  `Service.keepsUnidentified_of_looked` proves it.  No cache ever holds an entity without an identifier
  exactly if no visit brings one.  A provider whose visits of a lookup brought none asks its source
  again.  Else it repeats the entity, and its source is not called, until the window has passed without
  a lookup.
* `Service.repeated_stateAfterLookup` — a source that has the author by the second lookup is not called
  then.
-/

set_option autoImplicit false

namespace Biblio

variable {W T : Type}

/-- The lookup goes through a cache, and the source brings an entity without an identifier. -/
def Record.BringsUnidentified (e : Record W) : Prop :=
  (e.1.fetch (W := W)).shelf.isSome ∧
    ∃ t, e.2.reply = .called (.ok (some t)) ∧ Keyed.foreignId t = ""

/-- Every entity in the caches that is fetched by identifier, alive or not, carries one. -/
structure Caches.Identified (cs : Caches) : Prop where
  authors : ∀ e ∈ cs.authors.entries, Keyed.foreignId e.2.value ≠ ""
  books : ∀ e ∈ cs.books.entries, Keyed.foreignId e.2.value ≠ ""

theorem Caches.Hold.identified {rule : (l : Lookup) → l.Entity → Prop} {cs : Caches}
    (h : cs.Hold rule)
    (hrule : ∀ l, (l.fetch (W := W)).shelf.isSome → ∀ t, rule l t → Keyed.foreignId t ≠ "") :
    cs.Identified :=
  ⟨fun e he => hrule (.author e.1 true) rfl _ (h.authors.values e he),
    fun e he => hrule (.book e.1) rfl _ (h.books.values e he)⟩

theorem Caches.Identified.of_find? {cs : Caches} (h : cs.Identified) {l : Lookup}
    {shelf : Shelf l.Entity} (hshelf : (l.fetch (W := W)).shelf = some shelf) {key : String}
    {e : CacheEntry l.Entity} (hfind : (shelf.get cs).find? key = some e) :
    Keyed.foreignId e.value ≠ "" := by
  cases l with
  | author id useCache =>
    cases useCache with
    | false => exact nomatch hshelf
    | true =>
      obtain rfl := Option.some.inj hshelf
      exact h.authors (key, e) (Table.mem_of_lookup hfind)
  | book id =>
    obtain rfl := Option.some.inj hshelf
    exact h.books (key, e) (Table.mem_of_lookup hfind)

/-- In every provider's caches every entity carries an identifier. -/
def State.Identified (s : State W) : Prop := s.AllCaches fun _ => Caches.Identified

/-- What the source supports is not refused. -/
theorem Provider.reply_ne_refused {p : Provider W} {f : Fetch W T} {s : State W} {source : String}
    {operation : Operation} (h : p.supports f.operation = true) :
    p.reply f s ≠ .ok (.refused source operation) := by
  rw [reply, if_pos h]
  cases f.find p s with
  | error e => rintro ⟨⟩
  | ok hit =>
    cases hit with
    | some t => rintro ⟨⟩
    | none =>
      show (p.ending s (f.call p)).map Reply.called ≠ _
      cases p.ending s (f.call p) <;> rintro ⟨⟩

namespace Service

variable {service : Service W} {past : List (Record W)} {s : State W}

/-- What is promised of a history of lookups. -/
structure KeepsUnidentified (service : Service W) (past : List (Record W)) (s : State W) : Prop where
  /-- **No cache ever holds an entity without an identifier** exactly if no visit brings one. -/
  identified_iff : ((∀ e ∈ past, e.2.before.Identified ∧ e.2.after.Identified) ∧ s.Identified) ↔
    ∀ e ∈ past, ¬ e.BringsUnidentified
  /-- A provider replies from its cache only with what its source brought in an earlier visit of the same
  lookup. -/
  brought : ∀ before e, before ++ [e] <+: past → ∀ t, e.2.reply = .cached t →
    Brought before e.2.provider.number e.1 t
  /-- If none of these visits brought such an entity, it calls its source for whatever it has not kept
  under an identifier. -/
  asked : ∀ before e, before ++ [e] <+: past →
    (∀ v, ⟨e.1, v⟩ ∈ before → v.provider.number = e.2.provider.number →
      ¬ Record.BringsUnidentified ⟨e.1, v⟩) →
      e.2.provider.supports (e.1.fetch (W := W)).operation = true →
        (∃ ending, e.2.reply = .called ending) ∨
          ∃ t, e.2.reply = .cached t ∧ Keyed.foreignId t ≠ ""
  /-- Whatever was brought before, the answer to the next lookup is the entity that a visit brings. -/
  found_iff : ∀ (l : Lookup) (t : l.Entity), ((service.look l).eval s).1 = .ok (.ok t) ↔
    ∃ v ∈ service.visits l s, v.reply.entity? = some t
  /-- What a provider has passed on through a cache it repeats, with an identifier or without one.  The
  source is not called until the window has passed, which every time begins anew. -/
  repeated : ∀ e ∈ past, ∀ shelf, (e.1.fetch (W := W)).shelf = some shelf →
    ∀ t, e.2.reply.answer = .ok (some t) →
      ∀ s' till, s'.cachesOf e.2.provider = e.2.after.cachesOf e.2.provider →
        s'.now < e.2.after.now + (shelf.get (s'.cachesOf e.2.provider)).expiry.window →
        s'.now.after (shelf.get (s'.cachesOf e.2.provider)).expiry.window = .ok till →
          e.2.provider.reply e.1.fetch s' = .ok (.cached t)

/-- What a visit brings without an identifier is left in a cache. -/
theorem Looked.not_identified (h : service.Looked past s) {e : Record W} (he : e ∈ past)
    (hnone : e.BringsUnidentified) : ¬ e.2.after.Identified := by
  intro hidentified
  obtain ⟨hsome, t, hreply, hname⟩ := hnone
  obtain ⟨shelf, hshelf⟩ := Option.isSome_iff_exists.mp hsome
  have hkeeps := h.keeps he hshelf (Reply.answer_eq_some_iff.mpr (.inr hreply))
  have hcaches := hidentified.cachesOf e.2.provider fun _ =>
    ⟨fun _ he => (nomatch he), fun _ he => (nomatch he)⟩
  exact hcaches.of_find? hshelf hkeeps.find? hname

/-- What was brought carries an identifier, if no visit brought an entity without one. -/
theorem Traces.identified (hs : Traces past s) (hnone : ∀ e ∈ past, ¬ e.BringsUnidentified) :
    s.Identified := by
  refine fun e he => (hs e he).identified (W := W) fun l hsome t hbrought hname => ?_
  obtain ⟨v, hv, -, hreply⟩ := hbrought
  exact hnone _ hv ⟨hsome, t, hreply, hname⟩

/-- **What is retained of a history of lookups.** -/
theorem keepsUnidentified_of_looked (h : service.Looked past s) : service.KeepsUnidentified past s where
  identified_iff := by
    refine ⟨fun hall e he hnone => ?_, fun hnone => ⟨fun e he => ?_, ?_⟩⟩
    · exact h.not_identified he hnone (hall.1 e he).2
    · obtain ⟨hbefore, hafter⟩ := h.traces_visit he
      exact ⟨hbefore.identified hnone, hafter.identified hnone⟩
    · exact h.traced.2.identified hnone
  brought before e hstart t hcached := h.brought_of_cached hstart hcached
  asked before e hstart hnone hsupports := by
    have he : e ∈ past := hstart.subset (List.mem_append_right _ (List.mem_singleton_self e))
    have hanswers := (h.answers e he).reply
    cases hreply : e.2.reply with
    | refused source operation =>
      exact absurd (hreply ▸ hanswers) (Provider.reply_ne_refused hsupports)
    | cached t =>
      refine .inr ⟨t, rfl, fun hname => ?_⟩
      obtain ⟨v, hv, hnumber, hbrought⟩ := h.brought_of_cached hstart hreply
      exact hnone v hv hnumber ⟨Fetch.isSome_of_cached (hreply ▸ hanswers), t, hbrought, hname⟩
    | called ending => exact .inl ⟨ending, rfl⟩
  found_iff l t := by
    obtain ⟨ps, s₀, x, -, hloop, -, hfound⟩ := service.look_providerLoop l s
    rw [hfound, hloop.found_iff]
  repeated e he shelf hshelf t ht s' till hcaches halive hroom := by
    have hkeeps := h.keeps he hshelf ht
    rw [← hcaches] at hkeeps
    have hsupports : e.2.provider.supports (e.1.fetch (W := W)).operation = true := by
      by_contra hrefused
      have hask := Fetch.ask_of_unsupported (f := e.1.fetch) (Bool.eq_false_iff.mpr hrefused) e.2.before
      rw [(h.answers e he).ask, ht] at hask
      exact nomatch Except.ok.inj (congrArg Prod.fst hask)
    exact Fetch.reply_of_keeps hshelf hkeeps hsupports halive hroom

/-! ## A source without identifiers -/

/-- A source whose first answer carries no identifier. -/
def emptyIdSource : Source Nat :=
  { Sample.source "Mock" with
    fetchAuthor := fun id => .look fun _ answers => .change (· + 1)
      (.done (.ok (some (Sample.author (if answers = 0 then "" else id) "Ann")))) }

/-- A service that knows this source alone. -/
def emptyIdService : Service Nat where
  factory := ⟨[("Mock", fun _ => .ok emptyIdSource)]⟩
  rules := { callTimeout := Span.seconds 30 }

/-- The definition of its provider. -/
def emptyIdDefinition : Definition := (DefinitionRow.write 1 (Definition.new "first" "Mock")).read

/-- The state before anything was looked up. -/
def stateBeforeLookup : State Nat where
  world := 0
  store := { definitions := [DefinitionRow.write 1 (Definition.new "first" "Mock")], lastId := 1 }

/-- The lookup that is made. -/
def lookupOfAnn : Lookup := .author "1" true

/-- The state after the first lookup. -/
def stateAfterLookup : State Nat :=
  ((firstAnswer .authorSearch .getAuthor "1" (Fetch.author "1" true).ask
    (emptyIdService.providers [emptyIdDefinition] stateBeforeLookup).1).eval
    (emptyIdService.providers [emptyIdDefinition] stateBeforeLookup).2).2

/-- The one provider is selected, before the first lookup and after it. -/
theorem selected_emptyId {s : State Nat} (h : s = stateBeforeLookup ∨ s = stateAfterLookup) :
    s.selected (fun d => d.enabledFor lookupOfAnn.category) true = .ok [emptyIdDefinition] := by
  have hsort : s.selected (fun d => d.enabledFor lookupOfAnn.category) true =
      .ok ([emptyIdDefinition].mergeSort fun a b => b.priority ≤ a.priority) := by
    rcases h with rfl | rfl <;> rfl
  rw [hsort, List.mergeSort_singleton]

/-- The source brings an author without an identifier, and the next time its provider repeats it. -/
theorem looked_emptyId : ∃ v v' s, emptyIdService.Looked [⟨lookupOfAnn, v⟩] stateAfterLookup ∧
    emptyIdService.Looked [⟨lookupOfAnn, v⟩, ⟨lookupOfAnn, v'⟩] s ∧
    v.reply = .called (.ok (some (Sample.author "" "Ann"))) ∧
    v'.reply = .cached (Sample.author "" "Ann") := by
  have hvisit : ∃ v, emptyIdService.visits lookupOfAnn stateBeforeLookup = [v] ∧
      v.reply = .called (.ok (some (Sample.author "" "Ann"))) := by
    rw [(emptyIdService.look_of_selected (selected_emptyId (.inl rfl))).1]
    exact ⟨_, rfl, rfl⟩
  have hvisit' : ∃ v, emptyIdService.visits lookupOfAnn stateAfterLookup = [v] ∧
      v.reply = .cached (Sample.author "" "Ann") := by
    rw [(emptyIdService.look_of_selected (selected_emptyId (.inr rfl))).1]
    exact ⟨_, rfl, rfl⟩
  obtain ⟨v, hv, hreply⟩ := hvisit
  obtain ⟨v', hv', hreply'⟩ := hvisit'
  have hblank : emptyIdService.Looked [] stateBeforeLookup := .start rfl
  have hfirst := hblank.look lookupOfAnn
  rw [hv, (emptyIdService.look_of_selected (selected_emptyId (.inl rfl))).2] at hfirst
  have hsecond := Looked.look (s := stateAfterLookup) hfirst lookupOfAnn
  rw [hv'] at hsecond
  exact ⟨v, v', _, hfirst, hsecond, hreply, hreply'⟩

/-- What the source brought without an identifier is retained. -/
theorem keepsUnidentified_stateAfterLookup :
    ∃ e : Record Nat, emptyIdService.Looked [e] stateAfterLookup ∧
    e.BringsUnidentified ∧ emptyIdService.KeepsUnidentified [e] stateAfterLookup := by
  obtain ⟨v, v', s, hfirst, -, hreply, -⟩ := looked_emptyId
  exact ⟨⟨lookupOfAnn, v⟩, hfirst, ⟨rfl, _, hreply, rfl⟩, keepsUnidentified_of_looked hfirst⟩

/-- **An entity without an identifier is kept and repeated.**  The second lookup finds nothing, although
the source was called only once and has the author by then. -/
theorem repeated_stateAfterLookup :
    (¬ ∀ (past : List (Record Nat)) (s : State Nat), emptyIdService.Looked past s →
      s.Identified) ∧
    (¬ ∀ (past : List (Record Nat)) (s : State Nat), emptyIdService.Looked past s →
      ∀ e ∈ past, e.2.reply.entity? = none → ∃ ending, e.2.reply = .called ending) ∧
    ((emptyIdService.look lookupOfAnn).eval stateAfterLookup).1 =
      .ok (.error (.nothingFound .authorSearch "1" 1 none)) ∧
    ((emptyIdService.look lookupOfAnn).eval stateAfterLookup).2.world = 1 := by
  obtain ⟨v, v', s, hfirst, hsecond, -, hreply'⟩ := looked_emptyId
  refine ⟨fun hall => ?_, fun hall => ?_, ?_⟩
  · have hkept : ∃ cs e, stateAfterLookup.caches = [(0, cs)] ∧ cs.authors.entries = [("1", e)] ∧
        Keyed.foreignId e.value = "" := ⟨_, _, rfl, rfl, rfl⟩
    obtain ⟨cs, e, hcaches, hentries, hname⟩ := hkept
    have hidentified := hall _ _ hfirst (0, cs) (by rw [hcaches]; exact List.mem_singleton_self _)
    exact hidentified.authors ("1", e) (by rw [hentries]; exact List.mem_singleton_self _) hname
  · have hnone : v'.reply.entity? = none := by
      rw [hreply']
      rfl
    obtain ⟨ending, hcalled⟩ := hall _ _ hsecond ⟨lookupOfAnn, v'⟩
      (List.mem_cons_of_mem _ (List.mem_singleton_self _)) hnone
    exact nomatch hreply'.symm.trans hcalled
  · rw [(emptyIdService.look_of_selected (selected_emptyId (.inr rfl))).2]
    exact ⟨rfl, rfl⟩

end Service
end Biblio
