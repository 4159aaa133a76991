import Mathlib.Data.List.Basic

/-!
# `Lib.Delimited` — sequences of fields that can be told apart

An object is written as the concatenation of its fields, each under an encoding of its own kind.
`Delimited` says of one field that its encoding tells where it ends: knowing the kind, a reader can
split the field off whatever follows. From that one fact about single fields,

* `Delimited.split` — two sequences of the same kinds that start equal byte strings are the same
  sequence, and what follows them is the same;
* `Delimited.flatMap_inj` — of two sequences whose kinds agree as far as both go, equal
  concatenations come from equal sequences.

The second covers a sequence with an optional tail: where one object has the tail and the other has
not, the kinds of the shorter are a first part of the kinds of the longer.
-/

namespace Lib

variable {κ φ β : Type} {kind : φ → κ} {encode : φ → List β} {Fits : φ → Prop} {xs : List φ}

/-- Among the fields that fit, the encoding of a field says where it ends to whoever knows its kind. -/
def Delimited (kind : φ → κ) (encode : φ → List β) (Fits : φ → Prop) : Prop :=
  ∀ ⦃a b : φ⦄ ⦃s t : List β⦄, kind a = kind b → Fits a → Fits b → encode a ++ s = encode b ++ t → a = b ∧ s = t

/-- **Splitting a sequence off.** -/
theorem Delimited.split (h : Delimited kind encode Fits) {ys : List φ} {s t : List β}
    (hki : xs.map kind = ys.map kind) (hxs : ∀ x ∈ xs, Fits x) (hys : ∀ y ∈ ys, Fits y)
    (heq : xs.flatMap encode ++ s = ys.flatMap encode ++ t) : xs = ys ∧ s = t := by
  induction xs generalizing ys with
  | nil =>
    cases ys with
    | nil => exact ⟨rfl, heq⟩
    | cons y ys => simp at hki
  | cons x xs ih =>
    cases ys with
    | nil => simp at hki
    | cons y ys =>
      injection hki with hhd htl
      rw [List.flatMap_cons, List.flatMap_cons, List.append_assoc, List.append_assoc] at heq
      obtain ⟨hxy, hre⟩ := h hhd (hxs x List.mem_cons_self) (hys y List.mem_cons_self) heq
      obtain ⟨hs, ht⟩ := ih htl (fun z hz => hxs z (List.mem_cons_of_mem _ hz))
        (fun z hz => hys z (List.mem_cons_of_mem _ hz)) hre
      exact ⟨by rw [hxy, hs], ht⟩

/-- A sequence whose concatenation is empty is empty. -/
theorem flatMap_eq_nil_of_nonempty (hne : ∀ a, encode a ≠ []) (h : xs.flatMap encode = []) : xs = [] := by
  cases xs with
  | nil => rfl
  | cons x xs =>
    exact absurd (List.append_eq_nil_iff.mp h).1 (hne x)

/-- **Equal concatenations come from equal sequences.** The kinds are known as far as the shorter
    sequence goes. -/
theorem Delimited.flatMap_inj (h : Delimited kind encode Fits) (hne : ∀ a, encode a ≠ []) {ys : List φ}
    (hki : xs.map kind <+: ys.map kind ∨ ys.map kind <+: xs.map kind) (hxs : ∀ x ∈ xs, Fits x)
    (hys : ∀ y ∈ ys, Fits y) (heq : xs.flatMap encode = ys.flatMap encode) : xs = ys := by
  -- The longer sequence is cut where the shorter ends; its second part encodes to nothing.
  have cut : ∀ {short long : List φ}, short.map kind <+: long.map kind → (∀ x ∈ short, Fits x) →
      (∀ y ∈ long, Fits y) → short.flatMap encode = long.flatMap encode → short = long := by
    intro short long hkinds hsho hlong hfl
    have hsplit : long.take short.length ++ long.drop short.length = long := List.take_append_drop _ _
    have hfst : short.map kind = (long.take short.length).map kind := by
      rw [List.map_take, ← List.length_map (f := kind)]
      exact List.prefix_iff_eq_take.mp hkinds
    have hbs : short.flatMap encode ++ [] =
        (long.take short.length).flatMap encode ++ (long.drop short.length).flatMap encode := by
      rw [List.append_nil, ← List.flatMap_append, hsplit, hfl]
    obtain ⟨hsm, hnil⟩ := h.split hfst hsho (fun y hy => hlong y (List.mem_of_mem_take hy)) hbs
    have hre : long.drop short.length = [] := flatMap_eq_nil_of_nonempty hne hnil.symm
    rw [hre, List.append_nil, ← hsm] at hsplit
    exact hsplit
  rcases hki with hki | hki
  · exact cut hki hxs hys heq
  · exact (cut hki hys hxs heq.symm).symm

end Lib
