import Biblio.Config.Basic
import Mathlib.Data.List.Forall2

/-!
# What redaction shows and what it hides

Redaction is meant to hide the values under secret keys, whatever they are and however deep they stand,
and nothing else.

* `Alike` are values that differ at most in what stands under secret keys.  `redact_eq_iff` — they are the
  values that look the same after redaction.
* `at?` follows a path into a value, and `Outline` is what can be seen there without going further: a
  scalar as it is, the length of an array, the keys of an object.  `into?_redact` says what one step
  finds after redaction, and `at?_redact` is the induction on the path.
* `HidesSecrets` puts this together as a property of any way to show values; `discretion` proves it of
  redaction, and says what it means for configurations.
-/

set_option autoImplicit false

namespace Biblio
namespace Redaction

/-! ## Secret keys -/

/-- A key that contains one of four words in lower case. -/
def SecretKey (key : String) : Prop :=
  ∃ word ∈ ["key", "token", "secret", "password"], word.toList <:+: (Text.lowercase key).toList

theorem isSecretKey_iff {key : String} : isSecretKey key = true ↔ SecretKey key := by
  have hmarkers : markers = ["key", "token", "secret", "password"].map String.toList := by decide
  simp [isSecretKey, hmarkers, SecretKey, Text.occursIn_iff, Text.lowercase]

/-! ## Values that differ in secrets only -/

mutual

/-- Values that differ at most in what stands under secret keys. -/
inductive Alike : Json → Json → Prop
  | same (j : Json) : Alike j j
  | arr {items items' : List Json} (h : AlikeItems items items') : Alike (.arr items) (.arr items')
  | obj {members members' : List (String × Json)} (h : AlikeMembers members members') :
      Alike (.obj members) (.obj members')

/-- Lists of such values, one by one. -/
inductive AlikeItems : List Json → List Json → Prop
  | nil : AlikeItems [] []
  | cons {j j' : Json} {rest rest' : List Json} (first : Alike j j') (others : AlikeItems rest rest') :
      AlikeItems (j :: rest) (j' :: rest')

/-- Members with the same keys, and with such values unless the key is secret. -/
inductive AlikeMembers : List (String × Json) → List (String × Json) → Prop
  | nil : AlikeMembers [] []
  | secret {key : String} (h : SecretKey key) (j j' : Json) {rest rest' : List (String × Json)}
      (others : AlikeMembers rest rest') : AlikeMembers ((key, j) :: rest) ((key, j') :: rest')
  | plain {key : String} {j j' : Json} {rest rest' : List (String × Json)} (first : Alike j j')
      (others : AlikeMembers rest rest') : AlikeMembers ((key, j) :: rest) ((key, j') :: rest')

end

mutual

/-- **Nothing of a secret shows.** -/
theorem Alike.redact_eq : ∀ {j j' : Json}, Alike j j' → redact j = redact j'
  | _, _, .same _ => rfl
  | _, _, .arr h => congrArg Json.arr h.redactItems_eq
  | _, _, .obj h => congrArg Json.obj h.redactMembers_eq

theorem AlikeItems.redactItems_eq : ∀ {items items' : List Json}, AlikeItems items items' →
    redactItems items = redactItems items'
  | _, _, .nil => rfl
  | _, _, .cons first others => congrArg₂ List.cons first.redact_eq others.redactItems_eq

theorem AlikeMembers.redactMembers_eq : ∀ {members members' : List (String × Json)},
    AlikeMembers members members' → redactMembers members = redactMembers members'
  | _, _, .nil => rfl
  | _, _, .secret h j j' others => by
    rw [redactMembers, redactMembers, isSecretKey_iff.mpr h, others.redactMembers_eq]
    rfl
  | _, _, .plain first others => by
    rw [redactMembers, redactMembers, first.redact_eq, others.redactMembers_eq]

end

mutual

/-- **Only secrets are hidden.** -/
theorem alike_redact : ∀ j : Json, Alike j (redact j)
  | .null => .same _
  | .bool _ => .same _
  | .num _ => .same _
  | .str _ => .same _
  | .arr items => .arr (alikeItems_redactItems items)
  | .obj members => .obj (alikeMembers_redactMembers members)

theorem alikeItems_redactItems : ∀ items : List Json, AlikeItems items (redactItems items)
  | [] => .nil
  | j :: rest => .cons (alike_redact j) (alikeItems_redactItems rest)

theorem alikeMembers_redactMembers : ∀ members : List (String × Json),
    AlikeMembers members (redactMembers members)
  | [] => .nil
  | (key, j) :: rest => by
    rw [redactMembers]
    by_cases h : isSecretKey key = true
    · exact .secret (isSecretKey_iff.mp h) j _ (alikeMembers_redactMembers rest)
    · rw [if_neg h]
      exact .plain (alike_redact j) (alikeMembers_redactMembers rest)

end

theorem redact_redact (j : Json) : redact (redact j) = redact j := (alike_redact j).redact_eq.symm

mutual

/-- Values that look the same differ in secrets only.  Scalars are shown as they are, so what looks like
one is one. -/
theorem alike_of_redact_eq : ∀ j j' : Json, redact j = redact j' → Alike j j'
  | .arr items, .arr items', h => .arr (alikeItems_of_redactItems_eq items items' (Json.arr.inj h))
  | .obj members, .obj members', h =>
    .obj (alikeMembers_of_redactMembers_eq members members' (Json.obj.inj h))
  | .null, j', h | .bool _, j', h | .num _, j', h | .str _, j', h => by
    cases j' <;> cases h
    exact .same _
  | .arr _, .null, h | .arr _, .bool _, h | .arr _, .num _, h | .arr _, .str _, h
  | .arr _, .obj _, h => nomatch h
  | .obj _, .null, h | .obj _, .bool _, h | .obj _, .num _, h | .obj _, .str _, h
  | .obj _, .arr _, h => nomatch h

theorem alikeItems_of_redactItems_eq : ∀ items items' : List Json,
    redactItems items = redactItems items' → AlikeItems items items'
  | [], [], _ => .nil
  | j :: rest, j' :: rest', h =>
    have ⟨hfirst, hrest⟩ := List.cons.inj h
    .cons (alike_of_redact_eq j j' hfirst) (alikeItems_of_redactItems_eq rest rest' hrest)
  | [], _ :: _, h | _ :: _, [], h => nomatch h

theorem alikeMembers_of_redactMembers_eq : ∀ members members' : List (String × Json),
    redactMembers members = redactMembers members' → AlikeMembers members members'
  | [], [], _ => .nil
  | (key, j) :: rest, (key', j') :: rest', h => by
    rw [redactMembers, redactMembers] at h
    obtain ⟨hfirst, hrest⟩ := List.cons.inj h
    obtain ⟨rfl, hvalue⟩ := Prod.mk.inj hfirst
    have hothers := alikeMembers_of_redactMembers_eq rest rest' hrest
    by_cases hsecret : isSecretKey key = true
    · exact .secret (isSecretKey_iff.mp hsecret) j j' hothers
    · rw [if_neg hsecret, if_neg hsecret] at hvalue
      exact .plain (alike_of_redact_eq j j' hvalue) hothers
  | [], _ :: _, h | _ :: _, [], h => nomatch h

end

/-- **Noninterference**, in both directions. -/
theorem redact_eq_iff {j j' : Json} : redact j = redact j' ↔ Alike j j' :=
  ⟨alike_of_redact_eq j j', Alike.redact_eq⟩

/-! ## What stands where -/

/-- A step into a value: to what stands under a key, or to an item. -/
inductive Step where
  | key (name : String)
  | item (index : Nat)

/-- What a step leads to. -/
def into? : Json → Step → Option Json
  | .obj members, .key name => members.lookup name
  | .arr items, .item index => items[index]?
  | _, _ => none

/-- What a path leads to. -/
def at? : List Step → Json → Option Json
  | [], j => some j
  | step :: rest, j => (into? j step).bind (at? rest)

/-- What can be seen of a value without a step into it. -/
inductive Outline where
  | scalar (j : Json)
  | array (length : Nat)
  | object (keys : List String)

/-- The outline of a value. -/
def outline : Json → Outline
  | .arr items => .array items.length
  | .obj members => .object (members.map Prod.fst)
  | j => .scalar j

/-- A path that leads past no secret key. -/
def Plain (path : List Step) : Prop := ∀ name, .key name ∈ path → ¬ SecretKey name

/-- What is shown of what stands behind a step. -/
def shown : Step → Json → Json
  | .key name, j => if isSecretKey name then hidden else redact j
  | .item _, j => redact j

theorem redactItems_eq_map (items : List Json) : redactItems items = items.map redact := by
  induction items with
  | nil => rfl
  | cons j rest ih => rw [redactItems, ih, List.map_cons]

theorem keys_redactMembers (members : List (String × Json)) :
    (redactMembers members).map Prod.fst = members.map Prod.fst := by
  induction members with
  | nil => rfl
  | cons m rest ih => exact congrArg (m.1 :: ·) ih

theorem lookup_redactMembers (members : List (String × Json)) (name : String) :
    (redactMembers members).lookup name = (members.lookup name).map (shown (.key name)) := by
  induction members with
  | nil => rfl
  | cons m rest ih =>
    obtain ⟨key, j⟩ := m
    rw [redactMembers, List.lookup_cons, List.lookup_cons, ih]
    cases h : name == key with
    | true =>
      obtain rfl := eq_of_beq h
      rfl
    | false => rfl

/-- **One step.** -/
theorem into?_redact (j : Json) (step : Step) :
    into? (redact j) step = (into? j step).map (shown step) := by
  cases j with
  | arr items =>
    cases step with
    | key name => rfl
    | item index =>
      show (redactItems items)[index]? = _
      rw [redactItems_eq_map, List.getElem?_map]
      rfl
  | obj members =>
    cases step with
    | key name => exact lookup_redactMembers members name
    | item index => rfl
  | _ => cases step <;> rfl

theorem outline_redact (j : Json) : outline (redact j) = outline j := by
  cases j with
  | arr items =>
    show Outline.array (redactItems items).length = _
    rw [redactItems_eq_map, List.length_map]
    rfl
  | obj members => exact congrArg Outline.object (keys_redactMembers members)
  | _ => rfl

theorem Plain.shown_eq {step : Step} {rest : List Step} (h : Plain (step :: rest)) :
    shown step = redact := by
  cases step with
  | key name =>
    have hplain : ¬ isSecretKey name = true := fun hsecret =>
      h name List.mem_cons_self (isSecretKey_iff.mp hsecret)
    funext j
    rw [shown, if_neg hplain]
  | item index => rfl

/-- **A path past no secret key** finds what it found before, after redaction. -/
theorem at?_redact {path : List Step} (h : Plain path) (j : Json) :
    at? path (redact j) = (at? path j).map redact := by
  induction path generalizing j with
  | nil => rfl
  | cons step rest ih =>
    have hrest : Plain rest := fun name hname => h name (List.mem_cons_of_mem _ hname)
    rw [at?, at?, into?_redact, h.shown_eq]
    cases into? j step with
    | none => rfl
    | some v => exact ih hrest v

theorem at?_snoc (path : List Step) (step : Step) (j : Json) :
    at? (path ++ [step]) j = (at? path j).bind (into? · step) := by
  induction path generalizing j with
  | nil => exact Option.bind_fun_some (into? j step)
  | cons first rest ih =>
    rw [List.cons_append, at?, at?, Option.bind_assoc]
    exact congrArg _ (funext ih)

/-- Under a secret key stands the same in all cases. -/
theorem at?_redact_secret {path : List Step} (h : Plain path) {name : String} (hname : SecretKey name)
    (j : Json) : at? (path ++ [.key name]) (redact j) =
      (at? (path ++ [.key name]) j).map fun _ => hidden := by
  rw [at?_snoc, at?_snoc, at?_redact h]
  cases at? path j with
  | none => rfl
  | some v =>
    show into? (redact v) (.key name) = (into? v (.key name)).map fun _ => hidden
    rw [into?_redact]
    refine congrArg (Option.map · (into? v (.key name))) (funext fun j => ?_)
    rw [shown, if_pos (isSecretKey_iff.mpr hname)]

/-! ## Configurations -/

/-- Definitions that differ at most in the secrets of their settings. -/
structure AlikeDefinitions (d d' : Definition) : Prop where
  rest : d' = { d with settings := d'.settings }
  settings : Alike d.settings d'.settings

/-- Configurations that differ at most in the secrets of the settings of their definitions. -/
structure AlikeConfigs (c c' : Config) : Prop where
  rest : c' = { c with metadata := { c.metadata with providers := c'.metadata.providers } }
  providers : List.Forall₂ AlikeDefinitions c.metadata.providers c'.metadata.providers

theorem AlikeDefinitions.redacted_eq {d d' : Definition} (h : AlikeDefinitions d d') :
    Config.redacted d = Config.redacted d' := by
  rw [h.rest, Config.redacted, Config.redacted, h.settings.redact_eq]

theorem AlikeConfigs.sanitizedJson_eq {c c' : Config} (h : AlikeConfigs c c') :
    c.sanitizedJson = c'.sanitizedJson := by
  have hproviders : c.metadata.providers.map (fun d => (Config.redacted d).toJson) =
      c'.metadata.providers.map (fun d => (Config.redacted d).toJson) := by
    rw [← List.forall₂_eq_eq_eq, List.forall₂_map_left_iff, List.forall₂_map_right_iff]
    exact h.providers.imp fun _ _ hd => congrArg Definition.toJson hd.redacted_eq
  rw [h.rest, Config.sanitizedJson, Config.sanitizedJson, hproviders]

/-! ## Discretion -/

/-- A way to show values that hides what stands under secret keys, and nothing else. -/
structure HidesSecrets (view : Json → Json) : Prop where
  /-- Two values look the same exactly if they differ at most in what stands under secret keys. -/
  eq_iff : ∀ j j', view j = view j' ↔ Alike j j'
  /-- Wherever a path leads that passes no secret key, the same scalar, length or keys can be seen. -/
  outline_at : ∀ j path, Plain path → (at? path (view j)).map outline = (at? path j).map outline
  /-- Under a secret key nothing can be seen but that something stands there. -/
  hidden_at : ∀ j path name, Plain path → SecretKey name →
    at? (path ++ [.key name]) (view j) = (at? (path ++ [.key name]) j).map fun _ => hidden
  /-- Showing what is shown changes nothing. -/
  twice : ∀ j, view (view j) = view j

/-- **Redaction hides secrets and nothing else**, and configurations that differ in secrets only are shown
alike. -/
theorem discretion :
    HidesSecrets redact ∧ ∀ c c' : Config, AlikeConfigs c c' → c.sanitizedJson = c'.sanitizedJson := by
  refine ⟨⟨fun _ _ => redact_eq_iff, fun j path hpath => ?_, fun j path name hpath hname =>
    at?_redact_secret hpath hname j, redact_redact⟩, fun _ _ h => h.sanitizedJson_eq⟩
  rw [at?_redact hpath, Option.map_map]
  exact congrArg (Option.map · (at? path j)) (funext outline_redact)

/-- Settings with one secret in an object and another in a list, beside a name that is none. -/
def privateSettings (secret other : Json) : Json :=
  .obj [("auth", .obj [("Token", secret), ("user", .str "me")]),
    ("mirrors", .arr [.obj [("password", other)]])]

/-- A configuration with these settings. -/
def privateConfig (secret other : Json) : Config :=
  let settings := privateSettings secret other
  { metadata := { providers := [{ Definition.new "Private" "OpenLibrary" with settings := settings }] } }

theorem secretKey_token : SecretKey "Token" := isSecretKey_iff.mp (by decide +kernel)

theorem secretKey_password : SecretKey "password" := isSecretKey_iff.mp (by decide +kernel)

theorem alike_privateConfig (secret secret' other other' : Json) :
    AlikeConfigs (privateConfig secret other) (privateConfig secret' other') where
  rest := rfl
  providers := by
    refine .cons ⟨rfl, .obj (.plain (.obj ?_) (.plain (.arr (.cons (.obj ?_) .nil)) .nil))⟩ .nil
    · exact .secret secretKey_token _ _ (.plain (.same _) .nil)
    · exact .secret secretKey_password _ _ .nil

/-- Nobody sees whether the token is a text or an object, and the user is there for all to see. -/
theorem discreet_privateConfig :
    AlikeConfigs (privateConfig (.str "t") .null) (privateConfig (.obj [("user", .str "you")]) (.nat 5)) ∧
      (privateConfig (.str "t") .null).sanitizedJson =
        (privateConfig (.obj [("user", .str "you")]) (.nat 5)).sanitizedJson ∧
      (at? [.key "auth", .key "user"] (redact (privateSettings (.str "t") .null))).map outline =
        some (.scalar (.str "me")) ∧
      at? [.key "mirrors", .item 0, .key "password"] (redact (privateSettings (.str "t") .null)) =
        some hidden := by
  have hauth : ¬ SecretKey "auth" := mt isSecretKey_iff.mpr (by decide +kernel)
  have huser : ¬ SecretKey "user" := mt isSecretKey_iff.mpr (by decide +kernel)
  have hmirrors : ¬ SecretKey "mirrors" := mt isSecretKey_iff.mpr (by decide +kernel)
  have halike := alike_privateConfig (.str "t") (.obj [("user", .str "you")]) .null (.nat 5)
  refine ⟨halike, discretion.2 _ _ halike, ?_, ?_⟩
  · rw [discretion.1.outline_at _ _ (by simp [Plain, hauth, huser])]
    rfl
  · exact discretion.1.hidden_at _ [.key "mirrors", .item 0] "password"
      (by simp [Plain, hmirrors]) secretKey_password

end Redaction
end Biblio
