import Biblio.Gathering.Search
import Biblio.OpenLibrary.Source
import Biblio.Proofs.OpenLibrary.Lookup
import Biblio.Proofs.Provider.Sharing
import Biblio.Proofs.SearchTerm.Grammar

/-!
# One product number in several spellings

What is typed as a product number is brought to its key by everything that works with it.

* `parse_of_shape` — a text with the shape of a number is taken for one, since no label begins it.
* `encodeSegment_of_plain` — a plain number is a segment of a path as it is, so that the first
  request to Open Library names the key (`exists_sent_searchIsbn`).
* `OneNumber` is what two spellings have in common on their way from the search field to the
  source, and `spelled` says which texts are spellings of one number.
-/

set_option autoImplicit false

namespace Biblio

open Text

variable {s t : String} {cs : List Char}

/-! ## Search terms -/

namespace SearchTerm

/-- No label begins with a character of a plain number. -/
theorem labels_lettered : ∀ l ∈ labels, ∀ c ∈ l.1.head?,
    countsInNumber c = true ∧ c.isDigit = false ∧ c.toUpper ≠ 'X' := by
  have hall : labels.all (fun l => l.1.head?.all fun c =>
      countsInNumber c && !c.isDigit && c.toUpper != 'X') = true := by decide +kernel
  simpa [and_assoc, Option.all_eq_true] using hall

theorem not_carries_of_shape (h : looksLikeIsbn (String.ofList cs) = true) :
    ∀ l ∈ labels, ∀ v, ¬ Carries l.1 cs v := by
  rintro l hl v ⟨-, rest, ⟨head, rfl, hhead⟩, -⟩
  obtain ⟨c, head, rfl, hfirst⟩ := exists_first_of_label hl hhead
  obtain ⟨hcounts, hdigit, hX⟩ := labels_lettered l hl c.toLower hfirst
  rw [← countsInNumber_toUpper, Char.toUpper_toLower_eq_toUpper, countsInNumber_toUpper] at hcounts
  rw [← isDigit_toUpper, Char.toUpper_toLower_eq_toUpper] at hdigit
  rw [Char.toUpper_toLower_eq_toUpper] at hX
  -- the first letter of the label would be in the key
  have hmem : c.toUpper ∈ (isbnKey (String.ofList (c :: head ++ rest))).toList := by
    rw [toList_isbnKey, String.toList_ofList, List.cons_append,
      List.filter_cons_of_pos hcounts]
    exact List.mem_cons_self
  rcases (looksLikeIsbn_iff.mp h).digit_or_X _ hmem with his | his
  · exact absurd (his.symm.trans hdigit) nofun
  · exact hX his

/-- **A text with the shape of a number** is taken for one. -/
theorem parse_of_shape (h : looksLikeIsbn s = true) : parse s = .isbn (trim s) := by
  have hshape : looksLikeIsbn (trim s) = true := (looksLikeIsbn_congr (isbnKey_trim s)).trans h
  exact parse_eq_iff.mpr (.number (not_carries_of_shape hshape) (looksLikeIsbn_iff.mp hshape))

end SearchTerm

/-! ## Paths -/

theorem segmentOctet_of_plain {c : Char} (h : c.isDigit = true ∨ c = 'X') :
    IsAscii c ∧ Http.segmentOctet c.toNat = [c] := by
  have hchar : Http.octetChar c.toNat = c := Char.ofNat_toNat c
  rcases h with hdigit | rfl
  · obtain ⟨-, hle⟩ := isDigit_iff_toNat.mp hdigit
    have hascii : c.toNat < 128 := by omega
    refine ⟨hascii, ?_⟩
    rw [Http.segmentOctet, Http.isPlain, hchar]
    simp [hascii, Char.isAlphanum, hdigit]
  · exact ⟨by decide, by decide⟩

/-- **A plain number is a segment of a path as it is.** -/
theorem encodeSegment_of_plain (h : PlainNumber s.toList) : Http.encodeSegment s = s := by
  have hplain (c : Char) (hc : c ∈ s.toList) := segmentOctet_of_plain (h.digit_or_X c hc)
  have hoctets : Utf8.encode s = s.toList.map Char.toNat :=
    (encode_eq_octets s).trans (octets_of_ascii fun c hc => (hplain c hc).1)
  have hsegment : (s.toList.map Char.toNat).flatMap Http.segmentOctet = s.toList := by
    rw [List.flatMap_map, List.flatMap_congr fun c hc => (hplain c hc).2, List.flatMap_singleton']
  rw [Http.encodeSegment, hoctets, hsegment, String.ofList_toList]

namespace OpenLibrary

/-- **The first request names the key.** -/
theorem exists_sent_searchIsbn (h : looksLikeIsbn s = true) (c : Config) (network : Network) :
    ∃ later, (c.searchIsbn s).sent network =
      (c.baseUrl ++ "/isbn/" ++ isbnKey s ++ ".json") :: later := by
  have haddress : c.address ("/isbn/" ++ Http.encodeSegment (isbnKey s) ++ ".json") [] =
      c.baseUrl ++ "/isbn/" ++ isbnKey s ++ ".json" := by
    rw [encodeSegment_of_plain (looksLikeIsbn_iff.mp h), Config.address]
    simp [String.append_assoc]
  rw [Config.searchIsbn, Lookup.sent_bind, Lookup.sent_found, ← haddress]
  exact ⟨_, rfl⟩

end OpenLibrary

/-! ## From the search field to the source -/

section

variable {W : Type}

theorem Provider.searchIsbn_congr (h : isbnKey s = isbnKey t) (p : Provider W) :
    p.searchIsbn s = p.searchIsbn t := by
  rw [searchIsbn, searchIsbn, h]

theorem Service.searchIsbn_congr (h : isbnKey s = isbnKey t) (service : Service W) :
    service.searchIsbn s = service.searchIsbn t := by
  simp only [searchIsbn, Provider.searchIsbn_congr h]

end

/-- What two spellings of a product number have in common. -/
structure OneNumber (s t : String) : Prop where
  /-- Both are taken for a number. -/
  parsed : SearchTerm.parse s = .isbn (trim s) ∧ SearchTerm.parse t = .isbn (trim t)
  /-- They have one entry in the cache of a provider. -/
  shared : ∀ (W : Type) (p : Provider W), Shares p (.isbn (trim s)) (.isbn (trim t))
  /-- A provider does the same for both. -/
  asked : ∀ (W : Type) (p : Provider W),
    (Inquiry.isbn (trim s)).ask p = (Inquiry.isbn (trim t)).ask p
  /-- If its source is called, then with the key. -/
  called : ∀ u, u = s ∨ u = t → ∀ (W : Type) (p : Provider W) es x, Run p es x →
    p.supports .searchIsbn = true → p.HasRoom x.now →
      ¬ (Inquiry.isbn (trim u)).Remembered p es x.now →
        (((Inquiry.isbn (trim u)).ask p.journaled).eval x).2.asked = x.asked ++ [.isbn (isbnKey s)]
  /-- Open Library is then asked for the key. -/
  sent : ∀ u, u = s ∨ u = t → ∀ (c : OpenLibrary.Config) network, ∃ later,
    (c.searchIsbn (isbnKey u)).sent network =
      (c.baseUrl ++ "/isbn/" ++ isbnKey s ++ ".json") :: later
  /-- So the service finds the same. -/
  found : ∀ (W : Type) (service : Service W), service.searchEntities s = service.searchEntities t

theorem OneNumber.of_key (hkey : isbnKey s = isbnKey t) (hs : looksLikeIsbn s = true) :
    OneNumber s t := by
  have ht : looksLikeIsbn t = true := (looksLikeIsbn_congr hkey).symm.trans hs
  have htrim : isbnKey (trim s) = isbnKey (trim t) := by rw [isbnKey_trim, isbnKey_trim, hkey]
  have hone {u : String} (hu : u = s ∨ u = t) : isbnKey u = isbnKey s := by
    rcases hu with rfl | rfl
    · rfl
    · exact hkey.symm
  have hparse := SearchTerm.parse_of_shape hs
  have hparse' := SearchTerm.parse_of_shape ht
  refine ⟨⟨hparse, hparse'⟩, fun W p => ?_, fun W p => ?_,
    fun u hu W p es x hrun hsupports hroom hno => ?_, fun u hu c network => ?_, fun W service => ?_⟩
  · have hslot : (Inquiry.isbn (trim t)).slot? = some ⟨.isbn, isbnKey (trim s)⟩ := by
      rw [Inquiry.slot?, htrim]
    exact .of_slot rfl hslot rfl p
  · exact congrArg (Answer.books <$> ·) (Provider.searchIsbn_congr htrim p)
  · have hcalled := (hrun.told.called_iff (q := .isbn (trim u)) hsupports hroom).mpr hno
    rw [Inquiry.question, isbnKey_trim, hone hu] at hcalled
    exact hcalled
  · have hshape : looksLikeIsbn (isbnKey s) = true :=
      (looksLikeIsbn_congr (isbnKey_isbnKey s)).trans hs
    obtain ⟨later, hsent⟩ := OpenLibrary.exists_sent_searchIsbn hshape c network
    rw [isbnKey_isbnKey] at hsent
    rw [hone hu]
    exact ⟨later, hsent⟩
  · rw [Service.searchEntities, Service.searchEntities, hparse, hparse']
    dsimp only
    rw [Service.searchIsbn_congr htrim]

/-- What is known of a text as the spelling of a product number. -/
structure Spelled (s : String) : Prop where
  /-- A key is its own key. -/
  key_key : isbnKey (isbnKey s) = isbnKey s
  /-- A text has the shape of a number exactly if its key has it. -/
  shape_key : looksLikeIsbn s = looksLikeIsbn (isbnKey s)
  /-- It is then thirteen digits, or nine and a check digit, which may be an `X`. -/
  shape_iff : looksLikeIsbn s = true ↔ PlainNumber (isbnKey s).toList
  /-- Texts with one key are spellings of one number if one of them has the shape of a number. -/
  one_number : ∀ t, isbnKey s = isbnKey t → looksLikeIsbn s = true ∨ looksLikeIsbn t = true →
    OneNumber s t

/-- **Spellings of a product number** agree wherever they are used. -/
theorem spelled (s : String) : Spelled s where
  key_key := isbnKey_isbnKey s
  shape_key := looksLikeIsbn_congr (isbnKey_isbnKey s).symm
  shape_iff := looksLikeIsbn_iff
  one_number t hkey hshape := by
    refine .of_key hkey ?_
    rcases hshape with hs | ht
    · exact hs
    · exact (looksLikeIsbn_congr hkey).trans ht

end Biblio
