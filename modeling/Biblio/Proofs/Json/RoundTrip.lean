import Biblio.Json.Decoder
import Biblio.Proofs.Json.Literal

/-!
# Values that are read back

The text that is written for a JSON value is read as this value again.

* `Legible` says of which values this is shown: their integers fit, their members are in order, and
  they are not nested too deeply.  Doubles are left out, because reading them rounds.
* `Reads` — the reader takes exactly the text of a value, whatever follows it.  It passes from items
  and members to arrays and objects, and `Legible.reads` is the induction.
* `Legible.ofString_render` is what a whole text is read as, and `parse_render` and
  `ofString_render_strs` are the two ways in which columns of a table are read.
-/

set_option autoImplicit false

namespace Biblio
namespace Json

/-- Values without doubles that are read back, with a number of containers that may be nested. -/
inductive Legible : Nat → Json → Prop
  | null {depth : Nat} : Legible depth .null
  | bool {depth : Nat} (b : Bool) : Legible depth (.bool b)
  | int {depth : Nat} {i : Int} (least : Number.leastInt ≤ i) (greatest : i ≤ Number.greatestInt) :
      Legible depth (.num (.int i))
  | str {depth : Nat} (s : String) : Legible depth (.str s)
  | arr {depth : Nat} {items : List Json} (items_legible : ∀ j ∈ items, Legible depth j) :
      Legible (depth + 1) (.arr items)
  | obj {depth : Nat} {members : List (String × Json)}
      (ordered : members.Pairwise fun a b => Text.precedes a.1 b.1 = true)
      (members_legible : ∀ m ∈ members, Legible depth m.2) : Legible (depth + 1) (.obj members)

/-! ## Texts -/

/-- The characters of a value. -/
def chars (j : Json) : List Char := j.render.toList

/-- The characters of the items of an array. -/
def itemChars : List Json → List Char
  | [] => []
  | [j] => chars j
  | j :: rest => chars j ++ ',' :: itemChars rest

/-- The characters of the members of an object. -/
def memberChars : List (String × Json) → List Char
  | [] => []
  | [(k, j)] => (quote k).toList ++ ':' :: chars j
  | (k, j) :: rest => (quote k).toList ++ ':' :: (chars j ++ ',' :: memberChars rest)

theorem itemChars_cons_cons (j j' : Json) (rest : List Json) :
    itemChars (j :: j' :: rest) = chars j ++ ',' :: itemChars (j' :: rest) := rfl

theorem memberChars_cons_cons (k : String) (j : Json) (m : String × Json)
    (rest : List (String × Json)) : memberChars ((k, j) :: m :: rest) =
      (quote k).toList ++ ':' :: (chars j ++ ',' :: memberChars (m :: rest)) := rfl

theorem toList_renderItems (items : List Json) : (renderItems items).toList = itemChars items := by
  induction items with
  | nil => rfl
  | cons j rest ih =>
    cases rest with
    | nil => simp [renderItems, itemChars, chars]
    | cons j' rest => simp [renderItems, itemChars, chars, ih]

theorem toList_renderMembers (members : List (String × Json)) :
    (renderMembers members).toList = memberChars members := by
  induction members with
  | nil => rfl
  | cons m rest ih =>
    obtain ⟨k, j⟩ := m
    cases rest with
    | nil => simp [renderMembers, memberChars, chars]
    | cons m' rest => simp [renderMembers, memberChars, chars, ih]

theorem chars_arr (items : List Json) : chars (.arr items) = '[' :: (itemChars items ++ [']']) := by
  simp [chars, render, toList_renderItems]

theorem chars_obj (members : List (String × Json)) :
    chars (.obj members) = '\x7b' :: (memberChars members ++ ['\x7d']) := by
  simp [chars, render, toList_renderMembers]

/-! ## Reading -/

/-- The reader takes exactly the text of a value. -/
def Reads (j : Json) : Prop := ∀ (fuel : Nat) (rest : List Char), 2 * (chars j).length ≤ fuel →
  Stops rest → readValue fuel (chars j ++ rest) = (toDocument j, rest)

/-- A character with which the text of a value may begin: it is no blank, and it ends nothing. -/
abbrev Begins (c : Char) : Prop := c ∉ [' ', '\n', '\t', '\r', ']', '\x7d']

theorem Begins.dropBlanks {c : Char} (h : Begins c) (cs : List Char) :
    dropBlanks (c :: cs) = c :: cs := by
  unfold Json.dropBlanks
  split <;> simp_all [Begins]

theorem begins_of_isDigit {c : Char} (h : c.isDigit = true) : Begins c := by
  intro hmem
  simp only [List.mem_cons, List.not_mem_nil, or_false] at hmem
  rcases hmem with rfl | rfl | rfl | rfl | rfl | rfl <;> exact absurd h (by decide)

/-- The text of a value is not empty. -/
theorem Legible.exists_chars_cons {depth : Nat} {j : Json} (h : Legible depth j) :
    ∃ c cs, chars j = c :: cs ∧ Begins c := by
  cases h with
  | null => exact ⟨'n', ['u', 'l', 'l'], rfl, by decide⟩
  | bool b =>
    cases b with
    | false => exact ⟨'f', ['a', 'l', 's', 'e'], rfl, by decide⟩
    | true => exact ⟨'t', ['r', 'u', 'e'], rfl, by decide⟩
  | @int _ i least greatest =>
    cases i with
    | ofNat n =>
      obtain ⟨d, ds, hds, hd, -⟩ := digits_head n
      refine ⟨d, ds, ?_, begins_of_isDigit hd⟩
      simp [chars, render, renderNumber, Decimal.intText, Decimal.text, hds]
    | negSucc n =>
      refine ⟨'-', Decimal.digits (n + 1), ?_, by decide⟩
      simp [chars, render, renderNumber, Decimal.intText]
  | str s => exact ⟨'"', _, toList_quote s, by decide⟩
  | arr h => exact ⟨'[', _, chars_arr _, by decide⟩
  | obj h h' => exact ⟨'\x7b', _, chars_obj _, by decide⟩

/-! ### Scalars -/

theorem reads_null : Reads .null := by
  intro fuel rest hfuel _
  cases fuel with
  | zero => exact absurd hfuel (by decide)
  | succ fuel => rfl

theorem reads_bool (b : Bool) : Reads (.bool b) := by
  intro fuel rest hfuel _
  cases fuel with
  | zero => cases b <;> exact absurd hfuel (by decide)
  | succ fuel => cases b <;> rfl

theorem reads_str (s : String) : Reads (.str s) := by
  intro fuel rest hfuel _
  have hchars : chars (.str s) = '"' :: (s.toList.flatMap escape ++ ['"']) := toList_quote s
  rw [hchars] at hfuel ⊢
  cases fuel with
  | zero => simp at hfuel
  | succ fuel =>
    obtain ⟨ps, hscan, htext⟩ := scanString_quoted s rest
    have hdrop (cs : List Char) : Json.dropBlanks ('"' :: cs) = '"' :: cs := rfl
    rw [List.cons_append, List.append_assoc, List.singleton_append, readValue, hdrop]
    simp only [hscan, htext, toDocument]

/-- A digit can only begin a number. -/
theorem readValue_of_isDigit (fuel : Nat) {d : Char} (hd : d.isDigit = true) (cs : List Char) :
    readValue (fuel + 1) (d :: cs) = readUnsigned false (d :: cs) := by
  have hmarks : d ∉ ['"', '[', '\x7b', 'n', 't', 'f', '-'] := by
    intro hmem
    simp only [List.mem_cons, List.not_mem_nil, or_false] at hmem
    rcases hmem with rfl | rfl | rfl | rfl | rfl | rfl | rfl <;> exact absurd hd (by decide)
  rw [readValue, (begins_of_isDigit hd).dropBlanks]
  split <;> simp_all

theorem reads_int {i : Int} (least : Number.leastInt ≤ i) (greatest : i ≤ Number.greatestInt) :
    Reads (.num (.int i)) := by
  intro fuel rest hfuel hstops
  rw [Number.leastInt] at least
  rw [Number.greatestInt] at greatest
  cases i with
  | ofNat n =>
    obtain ⟨d, ds, hds, hd, -⟩ := digits_head n
    have hchars : chars (.num (.int (.ofNat n))) = Decimal.digits n := by
      simp [chars, render, renderNumber, Decimal.intText, Decimal.text]
    rw [hchars] at hfuel ⊢
    have hread := readUnsigned_digits false n hstops
    have hle : (n : Int) ≤ 18446744073709551615 := greatest
    have hn : n < wordCount := by rw [wordCount]; omega
    rw [value?_of_natural hn] at hread
    cases fuel with
    | zero => simp [hds] at hfuel
    | succ fuel =>
      rw [hds, List.cons_append] at hread ⊢
      exact (readValue_of_isDigit fuel hd _).trans hread
  | negSucc n =>
    have hchars : chars (.num (.int (.negSucc n))) = '-' :: Decimal.digits (n + 1) := by
      simp [chars, render, renderNumber, Decimal.intText]
    rw [hchars] at hfuel ⊢
    have hread := readUnsigned_digits true (n + 1) hstops
    have hn : 2 * (n + 1) ≤ wordCount := by rw [wordCount]; omega
    rw [value?_of_negative (Nat.succ_pos n) hn] at hread
    cases fuel with
    | zero => simp at hfuel
    | succ fuel =>
      have hdrop (cs : List Char) : Json.dropBlanks ('-' :: cs) = '-' :: cs := rfl
      rw [List.cons_append, readValue, hdrop]
      exact hread

/-! ### Arrays -/

theorem stops_cons {c : Char} (h : c = ',' ∨ c = ']' ∨ c = '\x7d') (cs : List Char) :
    Stops (c :: cs) := by
  intro d hd
  obtain rfl := Option.some.inj hd
  exact h

/-- What the items of an array begin with is no bracket that closes it. -/
theorem exists_itemChars_cons {depth : Nat} {j : Json} (h : Legible depth j) (rest : List Json) :
    ∃ c cs, itemChars (j :: rest) = c :: cs ∧ Begins c := by
  obtain ⟨c, cs, hcs, hc⟩ := h.exists_chars_cons
  cases rest with
  | nil => exact ⟨c, cs, hcs, hc⟩
  | cons j' rest =>
    refine ⟨c, cs ++ ',' :: itemChars (j' :: rest), ?_, hc⟩
    rw [itemChars_cons_cons, hcs, List.cons_append]

/-- **Items are read one after the other.** -/
theorem readItems_itemChars {depth : Nat} {j : Json} {items : List Json}
    (hlegible : ∀ i ∈ j :: items, Legible depth i) (hreads : ∀ i ∈ j :: items, Reads i)
    {fuel : Nat} (rest : List Char) (hfuel : 2 * (itemChars (j :: items)).length + 1 ≤ fuel) :
    readItems fuel (itemChars (j :: items) ++ ']' :: rest) = (toItems (j :: items), rest) := by
  induction items generalizing j fuel with
  | nil =>
    cases fuel with
    | zero => simp at hfuel
    | succ fuel =>
      have hj := hreads j List.mem_cons_self fuel (']' :: rest) (by simpa [itemChars] using hfuel)
        (stops_cons (by decide) rest)
      have hdrop : dropBlanks (']' :: rest) = ']' :: rest := rfl
      simp only [itemChars, readItems, hj, hdrop, toItems]
  | cons j' items ih =>
    cases fuel with
    | zero => simp at hfuel
    | succ fuel =>
      obtain ⟨c, cs, hcs, hc⟩ :=
        exists_itemChars_cons (hlegible j' (by simp)) items
      have hlength : (itemChars (j :: j' :: items)).length =
          (chars j).length + 1 + (itemChars (j' :: items)).length := by
        simp [itemChars, Nat.add_assoc, Nat.add_comm 1]
      have hj := hreads j List.mem_cons_self fuel (',' :: (itemChars (j' :: items) ++ ']' :: rest))
        (by omega) (stops_cons (by decide) _)
      have hroom : 2 * (itemChars (j' :: items)).length + 1 ≤ fuel := by omega
      have hitems := ih (fun i hi => hlegible i (List.mem_cons_of_mem j hi))
        (fun i hi => hreads i (List.mem_cons_of_mem j hi)) hroom
      have hcomma (cs : List Char) : dropBlanks (',' :: cs) = ',' :: cs := rfl
      have hbracket : c ≠ ']' := fun h => hc (by simp [h])
      rw [itemChars_cons_cons, List.append_assoc, List.cons_append, readItems, hj]
      simp only [hcomma]
      rw [hcs, List.cons_append] at hitems ⊢
      rw [hc.dropBlanks]
      split
      · next h => exact nomatch h
      · next h => exact absurd (List.cons.inj h).1 hbracket
      · rw [hitems]
        rfl

/-- An array of values that are read is read. -/
theorem reads_arr {depth : Nat} {items : List Json} (hlegible : ∀ i ∈ items, Legible depth i)
    (hreads : ∀ i ∈ items, Reads i) : Reads (.arr items) := by
  intro fuel rest hfuel _
  have hbracket (cs : List Char) : dropBlanks ('[' :: cs) = '[' :: cs := rfl
  rw [chars_arr] at hfuel ⊢
  rw [List.cons_append, List.append_assoc, List.singleton_append]
  cases fuel with
  | zero => simp at hfuel
  | succ fuel =>
    rw [readValue, hbracket]
    simp only
    cases items with
    | nil => rfl
    | cons j items =>
      obtain ⟨c, cs, hcs, hc⟩ := exists_itemChars_cons (hlegible j List.mem_cons_self) items
      have hclose : c ≠ ']' := fun h => hc (by simp [h])
      have hlength : 2 * (itemChars (j :: items)).length + 1 ≤ fuel := by
        simp only [List.length_cons, List.length_append, List.length_nil] at hfuel
        omega
      have hitems := readItems_itemChars hlegible hreads rest hlength
      rw [hcs, List.cons_append] at hitems ⊢
      rw [hc.dropBlanks]
      split
      · next h => exact absurd (List.cons.inj h).1 hclose
      · next h => exact nomatch h
      · rw [hitems]
        rfl

/-! ### Objects -/

/-- The marks of an object are no blanks. -/
theorem dropBlanks_mark {c : Char} (h : c = '"' ∨ c = ':' ∨ c = ',' ∨ c = '\x7d') (cs : List Char) :
    dropBlanks (c :: cs) = c :: cs := by
  rcases h with rfl | rfl | rfl | rfl <;> rfl

/-- What the members of an object begin with. -/
theorem exists_memberChars_cons (m : String × Json) (rest : List (String × Json)) :
    ∃ cs, memberChars (m :: rest) = '"' :: cs := by
  obtain ⟨k, j⟩ := m
  cases rest with
  | nil => exact ⟨_, by rw [memberChars, toList_quote, List.cons_append]⟩
  | cons m' rest => exact ⟨_, by rw [memberChars_cons_cons, toList_quote, List.cons_append]⟩

/-- **The last member** is read up to the mark that closes its object. -/
theorem readMembers_last (k : String) {j : Json} (hreads : Reads j) {fuel : Nat} (rest : List Char)
    (hfuel : 2 * (chars j).length ≤ fuel) :
    readMembers (fuel + 1) ((quote k).toList ++ ':' :: (chars j ++ '\x7d' :: rest)) =
      (.member (some k) (toDocument j) .close, rest) := by
  obtain ⟨ps, hscan, hkey⟩ := scanString_quoted k (':' :: (chars j ++ '\x7d' :: rest))
  have hvalue := hreads fuel ('\x7d' :: rest) hfuel (stops_cons (.inr (.inr rfl)) rest)
  rw [toList_quote, List.cons_append, List.append_assoc, List.singleton_append, readMembers,
    dropBlanks_mark (.inl rfl)]
  simp only [hscan, hkey, dropBlanks_mark (.inr (.inl rfl)), hvalue,
    dropBlanks_mark (.inr (.inr (.inr rfl)))]

/-- **Any other member** is read up to the mark after it. -/
theorem readMembers_next (k : String) {j : Json} (hreads : Reads j) {fuel : Nat} (rest : List Char)
    (hfuel : 2 * (chars j).length ≤ fuel) :
    readMembers (fuel + 1) ((quote k).toList ++ ':' :: (chars j ++ ',' :: rest)) =
      (.member (some k) (toDocument j) (readMembers fuel rest).1, (readMembers fuel rest).2) := by
  obtain ⟨ps, hscan, hkey⟩ := scanString_quoted k (':' :: (chars j ++ ',' :: rest))
  have hvalue := hreads fuel (',' :: rest) hfuel (stops_cons (.inl rfl) rest)
  rw [toList_quote, List.cons_append, List.append_assoc, List.singleton_append, readMembers,
    dropBlanks_mark (.inl rfl)]
  simp only [hscan, hkey, dropBlanks_mark (.inr (.inl rfl)), hvalue,
    dropBlanks_mark (.inr (.inr (.inl rfl)))]

/-- **Members are read one after the other.** -/
theorem readMembers_memberChars {m : String × Json} {members : List (String × Json)}
    (hreads : ∀ n ∈ m :: members, Reads n.2) {fuel : Nat} (rest : List Char)
    (hfuel : 2 * (memberChars (m :: members)).length + 1 ≤ fuel) :
    readMembers fuel (memberChars (m :: members) ++ '\x7d' :: rest) =
      (toMembers (m :: members), rest) := by
  induction members generalizing m fuel with
  | nil =>
    obtain ⟨k, j⟩ := m
    have hj : Reads j := hreads (k, j) List.mem_cons_self
    rw [memberChars] at hfuel ⊢
    simp only [List.length_append, List.length_cons] at hfuel
    cases fuel with
    | zero => omega
    | succ fuel =>
      rw [List.append_assoc, List.cons_append, readMembers_last k hj rest (by omega)]
      rfl
  | cons m' members ih =>
    obtain ⟨k, j⟩ := m
    have hj : Reads j := hreads (k, j) List.mem_cons_self
    rw [memberChars_cons_cons] at hfuel ⊢
    simp only [List.length_append, List.length_cons] at hfuel
    cases fuel with
    | zero => omega
    | succ fuel =>
      have hroom : 2 * (memberChars (m' :: members)).length + 1 ≤ fuel := by omega
      have hmembers := ih (fun n hn => hreads n (List.mem_cons_of_mem _ hn)) hroom
      rw [List.append_assoc, List.cons_append, List.append_assoc, List.cons_append,
        readMembers_next k hj _ (by omega), hmembers]
      rfl

/-- An object of values that are read is read. -/
theorem reads_obj {members : List (String × Json)} (hreads : ∀ m ∈ members, Reads m.2) :
    Reads (.obj members) := by
  intro fuel rest hfuel _
  have hbrace (cs : List Char) : dropBlanks ('\x7b' :: cs) = '\x7b' :: cs := rfl
  rw [chars_obj] at hfuel ⊢
  rw [List.cons_append, List.append_assoc, List.singleton_append]
  cases fuel with
  | zero => simp at hfuel
  | succ fuel =>
    rw [readValue, hbrace]
    simp only
    cases members with
    | nil => rfl
    | cons m members =>
      obtain ⟨cs, hcs⟩ := exists_memberChars_cons m members
      have hlength : 2 * (memberChars (m :: members)).length + 1 ≤ fuel := by
        simp only [List.length_cons, List.length_append, List.length_nil] at hfuel
        omega
      have hmembers := readMembers_memberChars hreads rest hlength
      rw [hcs, List.cons_append] at hmembers ⊢
      rw [dropBlanks_mark (.inl rfl)]
      split
      · next h => exact absurd (List.cons.inj h).1 (by decide)
      · rw [hmembers]
        rfl

/-! ### All values -/

/-- **The reader takes exactly the text of a value.** -/
theorem Legible.reads {depth : Nat} {j : Json} (h : Legible depth j) : Reads j := by
  induction h with
  | null => exact reads_null
  | bool b => exact reads_bool b
  | int least greatest => exact reads_int least greatest
  | str s => exact reads_str s
  | arr hlegible ih => exact reads_arr hlegible ih
  | obj _ _ ih => exact reads_obj ih

/-- **A whole text** is read as the document of its value. -/
theorem Legible.ofString_render {depth : Nat} {j : Json} (h : Legible depth j) :
    Framed.ofString j.render = ⟨toDocument j, false⟩ := by
  have hread := h.reads (2 * (chars j).length + 2) [] (by omega) fun c hc => nomatch hc
  rw [List.append_nil, chars] at hread
  simp only [Framed.ofString, hread]
  rfl

/-! ## Documents -/

theorem toJson_toItems {depth : Nat} {items : List Json}
    (h : ∀ j ∈ items, (toDocument j).toJson depth = .ok j) :
    (toItems items).toJson depth = .ok items := by
  induction items with
  | nil => rfl
  | cons j items ih =>
    rw [toItems, Items.toJson, h j List.mem_cons_self,
      ih fun j' hj' => h j' (List.mem_cons_of_mem j hj')]

/-- A key that all others precede is put at the end. -/
theorem insertSorted_append {α : Type} {k : String} {acc : List (String × α)}
    (h : ∀ m ∈ acc, Text.precedes m.1 k = true) (v : α) :
    Text.insertSorted k v acc = acc ++ [(k, v)] := by
  induction acc with
  | nil => rfl
  | cons m acc ih =>
    obtain ⟨k', v'⟩ := m
    have hbefore : Text.precedes k' k = true := h (k', v') List.mem_cons_self
    have hne : k ≠ k' := by
      rintro rfl
      exact absurd hbefore (by rw [Text.precedes_irrefl]; decide)
    have hnot : ¬ Text.precedes k k' = true := by
      intro hafter
      exact absurd (Text.precedes_trans hafter hbefore) (by rw [Text.precedes_irrefl]; decide)
    rw [Text.insertSorted, if_neg hne, if_neg hnot, ih fun m hm => h m (List.mem_cons_of_mem _ hm)]
    rfl

/-- Members in order are read in this order. -/
theorem toJson_toMembers {depth : Nat} {members acc : List (String × Json)}
    (hvalues : ∀ m ∈ members, (toDocument m.2).toJson depth = .ok m.2)
    (hordered : (acc ++ members).Pairwise fun a b => Text.precedes a.1 b.1 = true) :
    (toMembers members).toJson depth acc = .ok (acc ++ members) := by
  induction members generalizing acc with
  | nil => rw [toMembers, Members.toJson, List.append_nil]
  | cons m members ih =>
    obtain ⟨k, j⟩ := m
    have hj : (toDocument j).toJson depth = .ok j := hvalues (k, j) List.mem_cons_self
    have hlast : ∀ m ∈ acc, Text.precedes m.1 k = true := fun m hm =>
      (List.pairwise_append.mp hordered).2.2 m hm (k, j) List.mem_cons_self
    have hmove : acc ++ [(k, j)] ++ members = acc ++ (k, j) :: members := by simp
    rw [toMembers, Members.toJson, hj]
    simp only
    rw [insertSorted_append hlast, ih (fun m hm => hvalues m (List.mem_cons_of_mem _ hm)), hmove]
    rw [hmove]
    exact hordered

/-- **A value is what its document is read as**, if the containers in it may be nested. -/
theorem Legible.toJson_toDocument {depth : Nat} {j : Json} (h : Legible depth j) :
    (toDocument j).toJson (depth + 1) = .ok j := by
  induction h with
  | null => rfl
  | bool b => rfl
  | int least greatest => rfl
  | str s => rfl
  | @arr depth items _ ih =>
    have hdeep : ¬ depth + 1 + 1 ≤ 1 := by omega
    rw [toDocument, Document.toJson, if_neg hdeep, Nat.add_sub_cancel, toJson_toItems ih]
  | @obj depth members ordered _ ih =>
    have hdeep : ¬ depth + 1 + 1 ≤ 1 := by omega
    rw [toDocument, Document.toJson, if_neg hdeep, Nat.add_sub_cancel,
      toJson_toMembers ih (by rwa [List.nil_append]), List.nil_append]

/-! ## Columns -/

/-- **A legible value is read back from its text.** -/
theorem Legible.parse_render {j : Json} (h : Legible 127 j) : parse j.render = .ok j := by
  have hbody : (toDocument j).toJson nestingLimit = .ok j := h.toJson_toDocument
  rw [parse, h.ofString_render]
  simp only [hbody, Bool.false_eq_true, if_false]

theorem items_text (depth : Nat) (ts : List String) :
    Decoder.items Decoder.text depth (toItems (ts.map .str)) = .ok ts := by
  induction ts with
  | nil => rfl
  | cons t ts ih =>
    rw [List.map_cons, toItems, Decoder.items, toDocument, Decoder.text]
    simp only [ih]
    rfl

/-- **A list of strings is read back from its text.** -/
theorem ofString_render_strs (ts : List String) :
    Decoder.ofString (Decoder.list Decoder.text) (strs ts).render = .ok ts := by
  have hlegible : Legible 1 (strs ts) := by
    refine .arr fun j hj => ?_
    obtain ⟨t, -, rfl⟩ := List.mem_map.mp hj
    exact .str t
  have hdeep : ¬ nestingLimit ≤ 1 := by decide
  rw [Decoder.ofString, hlegible.ofString_render]
  simp only [strs, toDocument, Decoder.list, if_neg hdeep, items_text, Bool.false_eq_true, if_false]

end Json
end Biblio
