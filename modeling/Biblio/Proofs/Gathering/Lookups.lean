import Biblio.Proofs.Gathering.FailsOver
import Biblio.Proofs.Provider.Consultation
import Biblio.Proofs.Registry.Current

/-!
# Lookups by identifier, one after the other

Authors and books are looked up by identifier while providers, sources and time change.

* `Visit` is a provider that is asked, and `Fetch.visits` are the visits of one lookup.  `ProviderLoop`
  follows the loop over the providers together with its visits, so that what holds of both is an
  induction over it.
* `Lookup` is a lookup of the service, and `Service.Looked` a history of them.
* `Service.look_providerLoop` — a lookup is the loop over the providers that are selected.
* `ProviderLoop.found_iff` — the entity that is found is the one that a visit brings.
-/

set_option autoImplicit false

namespace Biblio

variable {W T : Type}

/-! ## Visits -/

/-- A provider that is asked: the state before, what it replies, and the state after. -/
structure Visit (W T : Type) where
  provider : Provider W
  before : State W
  reply : Reply T
  after : State W

/-- The visit is what becomes of a question. -/
structure Visit.Answers (f : Fetch W T) (v : Visit W T) : Prop where
  reply : v.provider.reply f v.before = .ok v.reply
  ask : (f.ask v.provider).eval v.before = (.ok v.reply.answer, v.after)

theorem Replies.answers {f : Fetch W T} {k : Nat} {p : Provider W} {s s' : State W} {r : Reply T}
    (h : Replies f k p s r s') : Visit.Answers f ⟨p, s.failover f.operation k, r, s'⟩ :=
  ⟨h.reply, h.ask⟩

/-- The providers that are asked after a number of others.  The first that brings an entity is the last
to be visited. -/
def Fetch.visits [Keyed T] (f : Fetch W T) : Nat → List (Provider W) → State W → List (Visit W T)
  | _, [], _ => []
  | k, p :: rest, s =>
    match p.reply f (s.failover f.operation k), (f.ask p).eval (s.failover f.operation k) with
    | .ok r, (.ok _, s') =>
      ⟨p, s.failover f.operation k, r, s'⟩ ::
        r.entity?.elim (f.visits (k + 1) rest s') (fun _ => [])
    | _, _ => []

/-- The loop over the providers: the visits, and how it ends. -/
inductive ProviderLoop [Keyed T] (f : Fetch W T) :
    Nat → List (Provider W) → State W → List (Visit W T) →
    Except ClockOverflow (Except Failure T) × State W → Prop
  | inVain {k : Nat} {s : State W} {failure : Failure} :
    ProviderLoop f k [] s [] (.ok (.error failure), s)
  | broken {k : Nat} {p : Provider W} {rest : List (Provider W)} {s s' : State W} {e : ClockOverflow}
      (ask : (f.ask p).eval (s.failover f.operation k) = (.error e, s')) :
      ProviderLoop f k (p :: rest) s [] (.error e, s')
  | found {k : Nat} {p : Provider W} {rest : List (Provider W)} {s s' : State W} {r : Reply T} {t : T}
      (replies : Replies f k p s r s') (entity : r.entity? = some t) :
      ProviderLoop f k (p :: rest) s [⟨p, s.failover f.operation k, r, s'⟩] (.ok (.ok t), s')
  | passed {k : Nat} {p : Provider W} {rest : List (Provider W)} {s s' : State W} {r : Reply T}
      {vs : List (Visit W T)} {x : Except ClockOverflow (Except Failure T) × State W}
      (replies : Replies f k p s r s') (entity : r.entity? = none)
      (others : ProviderLoop f (k + 1) rest s' vs x) :
      ProviderLoop f k (p :: rest) s (⟨p, s.failover f.operation k, r, s'⟩ :: vs) x

section ProviderLoop

variable [Keyed T] {f : Fetch W T} {k : Nat} {ps rest : List (Provider W)} {p : Provider W}
  {s s' : State W} {vs : List (Visit W T)} {x : Except ClockOverflow (Except Failure T) × State W}

theorem visits_cons_of_replies {r : Reply T} (h : Replies f k p s r s') :
    f.visits k (p :: rest) s = ⟨p, s.failover f.operation k, r, s'⟩ ::
      r.entity?.elim (f.visits (k + 1) rest s') (fun _ => []) := by
  rw [Fetch.visits, h.reply, h.ask]

theorem visits_cons_of_error {e : ClockOverflow}
    (h : (f.ask p).eval (s.failover f.operation k) = (.error e, s')) :
    f.visits k (p :: rest) s = [] := by
  rw [Fetch.visits, h]
  cases p.reply f (s.failover f.operation k) <;> rfl

/-- **The loop visits its providers.** -/
theorem providerLoop_tryEach (f : Fetch W T) (k : Nat) (cause : Option SourceError)
    (ps : List (Provider W))
    (s : State W) :
    ProviderLoop f k ps s (f.visits k ps s) ((tryEach f.operation f.ask ps ⟨k, cause⟩).eval s) := by
  induction ps generalizing k cause s with
  | nil => exact .inVain
  | cons p rest ih =>
    cases hask : (f.ask p).eval (s.failover f.operation k) with
    | mk a s' =>
      cases a with
      | error e =>
        rw [visits_cons_of_error hask, eval_tryEach_of_error hask]
        exact .broken hask
      | ok a =>
        obtain ⟨r, hreply, rfl⟩ := Fetch.answer_of_ask hask
        have first : Replies f k p s r s' := ⟨hreply, hask⟩
        rw [visits_cons_of_replies first, eval_tryEach_of_replies first]
        cases hentity : r.entity? with
        | some t => exact .found first hentity
        | none => exact .passed first hentity (ih (k + 1) _ s')

theorem ProviderLoop.answers (h : ProviderLoop f k ps s vs x) : ∀ v ∈ vs, v.Answers f := by
  induction h with
  | inVain => exact fun _ hv => nomatch hv
  | broken ask => exact fun _ hv => nomatch hv
  | found replies entity => exact List.forall_mem_singleton.mpr replies.answers
  | passed replies entity others ih => exact List.forall_mem_cons.mpr ⟨replies.answers, ih⟩

/-- The entity that is found is the one that a visit brings. -/
theorem ProviderLoop.found_iff (h : ProviderLoop f k ps s vs x) (t : T) :
    x.1 = .ok (.ok t) ↔ ∃ v ∈ vs, v.reply.entity? = some t := by
  induction h with
  | inVain => exact iff_of_false (fun h => nomatch h) (fun ⟨_, hv, _⟩ => nomatch hv)
  | broken ask => exact iff_of_false (fun h => nomatch h) (fun ⟨_, hv, _⟩ => nomatch hv)
  | found replies entity =>
    simp only [List.mem_singleton, exists_eq_left, entity, Except.ok.injEq, Option.some.injEq]
  | passed replies entity others ih =>
    simp only [ih, List.mem_cons, exists_eq_or_imp, entity, reduceCtorEq, false_or]

/-- Taking the first answer is the loop, put into the words of the caller. -/
theorem firstAnswer_providerLoop (category : Category) (f : Fetch W T) (id : String)
    (ps : List (Provider W))
    (s : State W) : ∃ x, ProviderLoop f 0 ps s (f.visits 0 ps s) x ∧
      ((firstAnswer category f.operation id f.ask ps).eval s).2 = x.2 ∧
      ∀ t, ((firstAnswer category f.operation id f.ask ps).eval s).1 = .ok (.ok t) ↔
        x.1 = .ok (.ok t) := by
  refine ⟨_, providerLoop_tryEach f 0 none ps s, ?_⟩
  by_cases hps : ps = []
  · subst hps
    exact ⟨rfl, fun t => iff_of_false (fun h => nomatch h) (fun h => nomatch h)⟩
  · rw [eval_firstAnswer category f id hps, Action.eval_bind]
    obtain ⟨result, s'⟩ := (tryEach f.operation f.ask ps ⟨0, none⟩).eval s
    cases result with
    | error e => exact ⟨rfl, fun t => iff_of_false (fun h => nomatch h) (fun h => nomatch h)⟩
    | ok outcome =>
      cases outcome with
      | error failure => exact ⟨rfl, fun t => iff_of_false (fun h => nomatch h) (fun h => nomatch h)⟩
      | ok u => exact ⟨rfl, fun t => by simp only [Action.eval_pure, Except.ok.injEq]⟩

end ProviderLoop

/-! ## Lookups -/

/-- A lookup by identifier. -/
inductive Lookup where
  | author (id : String) (useCache : Bool)
  | book (id : String)
  deriving DecidableEq

namespace Lookup

/-- What is looked up. -/
def Entity : Lookup → Type
  | .author _ _ => Author
  | .book _ => BookInfo

instance keyed : (l : Lookup) → Keyed l.Entity
  | .author _ _ => inferInstanceAs (Keyed Author)
  | .book _ => inferInstanceAs (Keyed BookInfo)

def id : Lookup → String
  | .author id _ => id
  | .book id => id

/-- The category of the providers that are asked. -/
def category : Lookup → Category
  | .author _ _ => .authorSearch
  | .book _ => .bookSearch

/-- What the providers are asked. -/
def fetch : (l : Lookup) → Fetch W l.Entity
  | .author id useCache => .author id useCache
  | .book id => .book id

end Lookup

/-- A visit of a lookup. -/
abbrev Record (W : Type) := (l : Lookup) × Visit W l.Entity

namespace Service

/-- Answers a lookup. -/
def look (service : Service W) : (l : Lookup) → Action W (Except GatherError l.Entity)
  | .author id useCache => service.authorInfo id useCache
  | .book id => service.bookInfo id

/-- The providers that are visited for a lookup. -/
def visits (service : Service W) (l : Lookup) (s : State W) : List (Visit W l.Entity) :=
  match service.selectFor l.category true s with
  | (.ok ps, s₀) => l.fetch.visits 0 ps s₀
  | (.error _, _) => []

theorem look_eq (service : Service W) (l : Lookup) : service.look l = service.withUsable l.category
    (firstAnswer l.category (l.fetch (W := W)).operation l.id l.fetch.ask) := by
  cases l with
  | author id useCache =>
    have hask : (Fetch.author id useCache).ask = fun p : Provider W => p.fetchAuthor id useCache :=
      funext (Fetch.ask_author id useCache)
    show service.authorInfo id useCache = service.withUsable .authorSearch
      (firstAnswer .authorSearch .getAuthor id (Fetch.author id useCache).ask)
    rw [hask]
    rfl
  | book id => rfl

/-- Who is visited once it is known what is selected. -/
theorem look_of_selected (service : Service W) {l : Lookup} {s : State W} {ds : List Definition}
    (h : s.selected (fun d => d.enabledFor l.category) true = .ok ds) :
    service.visits l s = l.fetch.visits 0 (service.providers ds s).1 (service.providers ds s).2 ∧
      (service.look l).eval s =
        (firstAnswer l.category (l.fetch (W := W)).operation l.id l.fetch.ask
          (service.providers ds s).1).eval (service.providers ds s).2 := by
  have hselect : service.selectFor l.category true s =
      (.ok (service.providers ds s).1, (service.providers ds s).2) := by
    rw [selectFor, select, h]
  rw [visits, hselect, look_eq]
  exact ⟨rfl, eval_withUsable_of_ok hselect _⟩

/-- **A lookup is the loop** over the providers that are selected, from a state with the same caches. -/
theorem look_providerLoop (service : Service W) (l : Lookup) (s : State W) :
    ∃ ps s₀ x, s₀.caches = s.caches ∧ ProviderLoop l.fetch 0 ps s₀ (service.visits l s) x ∧
      ((service.look l).eval s).2 = x.2 ∧
      ∀ t, ((service.look l).eval s).1 = .ok (.ok t) ↔ x.1 = .ok (.ok t) := by
  have hcaches := (service.addsInstances_select (fun d => d.enabledFor l.category) true s).caches_eq
  cases hselect : service.selectFor l.category true s with
  | mk selection s₀ =>
    replace hcaches : s₀.caches = s.caches := by
      rw [selectFor] at hselect
      rw [hselect] at hcaches
      exact hcaches
    rw [look_eq, visits, hselect]
    cases selection with
    | error e =>
      rw [eval_withUsable_of_error hselect]
      refine ⟨[], s₀, (.ok (.error ⟨0, none⟩), s₀), hcaches, .inVain, rfl, fun t => ?_⟩
      exact iff_of_false (by rintro ⟨⟩) (by rintro ⟨⟩)
    | ok ps =>
      rw [eval_withUsable_of_ok hselect]
      obtain ⟨x, hloop, hx⟩ := firstAnswer_providerLoop l.category l.fetch l.id ps s₀
      exact ⟨ps, s₀, x, hcaches, hloop, hx⟩

/-! ## Histories -/

/-- A history of lookups: every visit, the first one first.  Nothing is in the caches at the start.  In
between anything may happen that leaves the caches alone. -/
inductive Looked (service : Service W) : List (Record W) → State W → Prop
  | start {s : State W} (fresh : s.caches = []) : Looked service [] s
  | look {past : List (Record W)} {s : State W} (before : Looked service past s) (l : Lookup) :
      Looked service (past ++ (service.visits l s).map (Sigma.mk l)) ((service.look l).eval s).2
  | meanwhile {past : List (Record W)} {s s' : State W} (before : Looked service past s)
      (caches : s'.caches = s.caches) : Looked service past s'

variable {service : Service W} {past : List (Record W)} {s : State W}

theorem forall_mem_append_visits {l : Lookup} {vs : List (Visit W l.Entity)} {Q : Record W → Prop} :
    (∀ e ∈ past ++ vs.map (Sigma.mk l), Q e) ↔ (∀ e ∈ past, Q e) ∧ ∀ v ∈ vs, Q ⟨l, v⟩ := by
  rw [List.forall_mem_append, List.forall_mem_map]

theorem Looked.answers (h : service.Looked past s) : ∀ e ∈ past, e.2.Answers e.1.fetch := by
  induction h with
  | start fresh => exact fun _ he => nomatch he
  | @look past s before l ih =>
    obtain ⟨ps, s₀, x, -, hloop, -⟩ := service.look_providerLoop l s
    exact forall_mem_append_visits.mpr ⟨ih, hloop.answers⟩
  | meanwhile before caches ih => exact ih

end Service
end Biblio
