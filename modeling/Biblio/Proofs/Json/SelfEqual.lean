import Biblio.Json.Reader
import Mathlib

/-!
# Values that equal themselves

Doubles are compared as numbers are, so that one that is no number differs from itself, and with it every
value that holds it.  No text stands for such a value.

* `beq_self_of_isFinite` — a finite double equals itself.
* `beqItems_self_iff` and `beqMembers_self_iff` lead from arrays and objects to what is in them.
* `Document.beq_self` is the induction on a document, and `parse_beq_self` what it says of texts.
-/

set_option autoImplicit false

namespace Biblio

/-! ## Numbers -/

/-- A finite double equals itself, a zero of either sign included. -/
theorem Number.beq_self_of_isFinite {x : Float} (h : x.isFinite = true) : (x == x) = true := by
  have hfinite : x.toModel.unpack.isFinite = true := h
  show x.toModel.unpack.beq x.toModel.unpack = true
  cases hx : x.toModel.unpack with
  | notANumber =>
    rw [hx] at hfinite
    exact nomatch hfinite
  | infinity sign =>
    rw [hx] at hfinite
    exact nomatch hfinite
  | zero sign => rfl
  | finite sign mantissa exponent pos =>
    cases sign <;> simp [Float.Model.UnpackedFloat.beq, Float.Model.UnpackedFloat.compare]

namespace Json

/-- A number is read as a value that equals itself. -/
theorem beq_self_ofNumber (n : Number) : (ofNumber n).beq (ofNumber n) = true := by
  cases n with
  | int i =>
    show instBEqNumber.beq (.int i) (.int i) = true
    simp [instBEqNumber.beq]
  | float x =>
    rw [ofNumber]
    split
    · next hfinite =>
      show instBEqNumber.beq (.float x) (.float x) = true
      simp [instBEqNumber.beq, Number.beq_self_of_isFinite hfinite]
    · rfl

/-! ## Arrays and objects -/

theorem beqItems_self_iff (items : List Json) :
    beqItems items items = true ↔ ∀ j ∈ items, j.beq j = true := by
  induction items with
  | nil => simp [beqItems]
  | cons j rest ih => simp [beqItems, ih]

theorem beqMembers_self_iff (members : List (String × Json)) :
    beqMembers members members = true ↔ ∀ m ∈ members, m.2.beq m.2 = true := by
  induction members with
  | nil => simp [beqMembers]
  | cons m rest ih => simp [beqMembers, ih]

theorem mem_insertSorted {α : Type} {k : String} {v : α} {m : String × α} {kvs : List (String × α)}
    (h : m ∈ Text.insertSorted k v kvs) : m = (k, v) ∨ m ∈ kvs := by
  induction kvs with
  | nil => exact .inl (List.mem_singleton.mp h)
  | cons kv rest ih =>
    rw [Text.insertSorted] at h
    split at h
    · rcases List.mem_cons.mp h with rfl | hrest
      · exact .inl rfl
      · exact .inr (List.mem_cons_of_mem _ hrest)
    · split at h
      · exact List.mem_cons.mp h
      · rcases List.mem_cons.mp h with rfl | hrest
        · exact .inr List.mem_cons_self
        · exact (ih hrest).imp_right (List.mem_cons_of_mem _)

/-! ## Documents -/

mutual

/-- What a document is read as equals itself. -/
theorem Document.beq_self : ∀ (v : Document) {depth : Nat} {j : Json},
    v.toJson depth = .ok j → j.beq j = true
  | .null, _, _, h => by
    rw [Document.toJson] at h
    rw [← Except.ok.inj h]
    rfl
  | .bool b, _, _, h => by
    rw [Document.toJson] at h
    rw [← Except.ok.inj h]
    exact beq_self_eq_true b
  | .number (some n), _, _, h => by
    rw [Document.toJson] at h
    rw [← Except.ok.inj h]
    exact beq_self_ofNumber n
  | .number none, _, _, h => nomatch h
  | .text (some s), _, _, h => by
    rw [Document.toJson] at h
    rw [← Except.ok.inj h]
    exact beq_self_eq_true s
  | .text none, _, _, h => nomatch h
  | .broken _ _, _, _, h => nomatch h
  | .array items _, depth, _, h => by
    rw [Document.toJson] at h
    split at h
    · exact nomatch h
    · split at h
      · exact nomatch h
      · next js hitems =>
        rw [← Except.ok.inj h]
        exact (beqItems_self_iff js).mpr (items.beq_self hitems)
  | .object members, depth, _, h => by
    rw [Document.toJson] at h
    split at h
    · exact nomatch h
    · split at h
      · exact nomatch h
      · next kvs hmembers =>
        rw [← Except.ok.inj h]
        exact (beqMembers_self_iff kvs).mpr (members.beq_self hmembers fun m hm => nomatch hm)

theorem Items.beq_self : ∀ (v : Items) {depth : Nat} {js : List Json},
    v.toJson depth = .ok js → ∀ j ∈ js, j.beq j = true
  | .close, _, _, h => by
    rw [Items.toJson] at h
    rw [← Except.ok.inj h]
    exact fun j hj => nomatch hj
  | .broken _, _, _, h => nomatch h
  | .item v rest, _, _, h => by
    rw [Items.toJson] at h
    split at h
    · exact nomatch h
    · next j hv =>
      split at h
      · exact nomatch h
      · next js hrest =>
        rw [← Except.ok.inj h]
        exact List.forall_mem_cons.mpr ⟨v.beq_self hv, rest.beq_self hrest⟩

/-- Members are read into those before, which may be replaced but not changed. -/
theorem Members.beq_self : ∀ (v : Members) {depth : Nat} {before kvs : List (String × Json)},
    v.toJson depth before = .ok kvs → (∀ m ∈ before, m.2.beq m.2 = true) →
      ∀ m ∈ kvs, m.2.beq m.2 = true
  | .close, _, _, _, h, hbefore => by
    rw [Members.toJson] at h
    rw [← Except.ok.inj h]
    exact hbefore
  | .broken _, _, _, _, h, _ => nomatch h
  | .member none _ _, _, _, _, h, _ => nomatch h
  | .member (some k) v rest, _, before, _, h, hbefore => by
    rw [Members.toJson] at h
    split at h
    · exact nomatch h
    · next j hv =>
      refine rest.beq_self h fun m hm => ?_
      rcases mem_insertSorted hm with rfl | hm
      · exact v.beq_self hv
      · exact hbefore m hm

end

/-- **What is read from a text equals itself.** -/
theorem parse_beq_self {text : String} {j : Json} (h : parse text = .ok j) : j.beq j = true := by
  rw [parse] at h
  split at h
  · exact nomatch h
  · next value hvalue =>
    split at h
    · exact nomatch h
    · rw [← Except.ok.inj h]
      exact (Framed.ofString text).body.beq_self hvalue

end Json
end Biblio
