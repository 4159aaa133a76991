import Mathlib.Data.List.Basic

/-!
# `Lib.Exact` — readers that accept exactly what is written

A decoder takes a value off the front of a list and leaves the rest, or refuses.
`Exact r write Fits` says of a decoder that it accepts exactly the values that fit, off exactly what
is written for them: what it reads was written that way, and what was written for a fitting value is
read back. So one fact about a decoder gives both round trips.

A record is read a field at a time. `ExactWhere` is `Exact` with what is already known of the
record:

* `ExactWhere.field` — a field, under its projection, and then the other fields;
* `ExactWhere.done` — the record, once every field is known;
* `ExactWhere.roundTrip` — a record whose valid values fit;
* `Exact.many` — a table whose length is known;
* `Exact.all` — a reading that must leave nothing.
-/

namespace Lib

/-- A decoder of values of type `α` off a list; it refuses with an `ε`. -/
abbrev Decoder (β ε α : Type) := StateT (List β) (Except ε) α

namespace Decoder

variable {β ε α γ : Type}

/-- A number of elements. -/
def take (n : Nat) (short : ε) : Decoder β ε (List β) := fun input =>
  if n ≤ input.length then .ok (input.take n, input.drop n) else .error short

/-- Refuse unless a condition holds. -/
def guard (p : Prop) [Decidable p] (refusal : ε) : Decoder β ε Unit := fun input =>
  if p then .ok ((), input) else .error refusal

/-- The same decoder a number of times. -/
def many (r : Decoder β ε α) : Nat → Decoder β ε (List α)
  | 0 => pure []
  | n + 1 => do
    let a ← r
    let as ← many r n
    pure (a :: as)

/-- Read everything. -/
def all (r : Decoder β ε α) (trailing : ε) (input : List β) : Except ε α :=
  match r input with
  | .error refusal => .error refusal
  | .ok (a, []) => .ok a
  | .ok (_, _ :: _) => .error trailing

variable {input rest : List β}

theorem bind_ok {r : Decoder β ε α} {f : α → Decoder β ε γ} {y : γ} :
    (r >>= f) input = .ok (y, rest) ↔ ∃ x mid, r input = .ok (x, mid) ∧ f x mid = .ok (y, rest) := by
  show (r input >>= fun read => f read.1 read.2) = .ok (y, rest) ↔ _
  cases hr : r input with
  | error refusal =>
    constructor
    · intro h
      cases h
    · rintro ⟨x, mid, h, -⟩
      cases h
  | ok read =>
    constructor
    · intro h
      exact ⟨read.1, read.2, rfl, h⟩
    rintro ⟨x, mid, h, hf⟩
    cases h
    exact hf

theorem pure_ok {x y : α} : (pure x : Decoder β ε α) input = .ok (y, rest) ↔ y = x ∧ rest = input := by
  show Except.ok (x, input) = .ok (y, rest) ↔ _
  rw [Except.ok.injEq, Prod.mk.injEq]
  exact ⟨fun ⟨hx, hinp⟩ => ⟨hx.symm, hinp.symm⟩, fun ⟨hx, hinp⟩ => ⟨hx.symm, hinp.symm⟩⟩

theorem take_ok {n : Nat} {short : ε} {u : List β} :
    take n short input = .ok (u, rest) ↔ u.length = n ∧ input = u ++ rest := by
  unfold take
  constructor
  · intro h
    split_ifs at h with hlen
    cases h
    exact ⟨List.length_take_of_le hlen, (List.take_append_drop n input).symm⟩
  · rintro ⟨rfl, rfl⟩
    rw [if_pos (by simp), List.take_left, List.drop_left]

theorem guard_ok {p : Prop} [Decidable p] {refusal : ε} {x : Unit} :
    guard p refusal input = .ok (x, rest) ↔ p ∧ input = rest := by
  unfold guard
  split_ifs with h
  · constructor
    · intro hrd
      cases hrd
      exact ⟨h, rfl⟩
    · rintro ⟨-, rfl⟩
      rfl
  constructor
  · intro hrd
    cases hrd
  · rintro ⟨hp, -⟩
    exact absurd hp h

end Decoder

open Decoder

variable {β ε α γ : Type}

/-- The decoder reads exactly the values that fit and are as `Known` says, off what is written for
    them. -/
def ExactWhere (r : Decoder β ε α) (write : α → List β) (Fits Known : α → Prop) : Prop :=
  ∀ input a rest, r input = .ok (a, rest) ↔ (Fits a ∧ Known a) ∧ input = write a ++ rest

/-- The decoder reads exactly the values that fit, off what is written for them. -/
def Exact (r : Decoder β ε α) (write : α → List β) (Fits : α → Prop) : Prop :=
  ∀ input a rest, r input = .ok (a, rest) ↔ Fits a ∧ input = write a ++ rest

/-- The end of a record whose unwritten fields are `Fixed`. -/
theorem ExactWhere.fixed {x : α} {Known : α → Prop} (Fixed : α → Prop) (h : ∀ a, Fixed a ∧ Known a ↔ a = x) :
    ExactWhere (pure x : Decoder β ε α) (fun _ => []) Fixed Known := by
  intro input a rest
  rw [pure_ok, h, List.nil_append, eq_comm (a := rest)]

/-- **The end of a record.** Its fields are known. -/
theorem ExactWhere.done {x : α} {Known : α → Prop} (h : ∀ a, Known a ↔ a = x := by rintro ⟨⟩; simp [and_assoc]) :
    ExactWhere (pure x : Decoder β ε α) (fun _ => []) (fun _ => True) Known :=
  ExactWhere.fixed _ fun a => by rw [true_and, h]

variable {r : Decoder β ε α} {write : α → List β} {Fits : α → Prop}

/-- **One field of a record.** The other fields are read knowing it. -/
theorem ExactWhere.field {f : α → Decoder β ε γ} {others : γ → List β} {OthersFit Known : γ → Prop}
    (projection : γ → α) (hr : Exact r write Fits)
    (hf : ∀ {a}, ExactWhere (f a) others OthersFit fun v => Known v ∧ projection v = a) :
    ExactWhere (r >>= f) (fun v => write (projection v) ++ others v) (fun v => Fits (projection v) ∧ OthersFit v)
      Known := by
  intro input v rest
  rw [bind_ok]
  constructor
  · rintro ⟨a, mid, hrd, hre⟩
    obtain ⟨hft, rfl⟩ := (hr _ _ _).mp hrd
    obtain ⟨⟨hothers, hkn, rfl⟩, rfl⟩ := (hf _ _ _).mp hre
    exact ⟨⟨⟨hft, hothers⟩, hkn⟩, (List.append_assoc _ _ _).symm⟩
  rintro ⟨⟨⟨hft, hothers⟩, hkn⟩, rfl⟩
  refine ⟨projection v, others v ++ rest, ?_, ?_⟩
  · rw [hr, List.append_assoc]
    exact ⟨hft, rfl⟩
  · rw [hf]
    exact ⟨⟨hothers, hkn, rfl⟩, rfl⟩

/-- **A whole record**, under its own writer and in the words of its own bounds. -/
theorem ExactWhere.record {own : α → List β} {Own : α → Prop} (h : ExactWhere r write Fits fun _ => True)
    (hwr : ∀ a, Fits a → own a = write a) (hft : ∀ a, Own a ↔ Fits a) : Exact r own Own := by
  intro input a rest
  rw [h, hft, and_true]
  exact and_congr_right fun hfit => by rw [hwr a hfit]

namespace Exact

variable {r : Decoder β ε α} {write : α → List β} {Fits : α → Prop}

/-- **A table of known length.** -/
theorem many (hr : Exact r write Fits) (n : Nat) :
    Exact (r.many n) (fun as => as.flatMap write) fun as => as.length = n ∧ ∀ a ∈ as, Fits a := by
  induction n with
  | zero =>
    intro input as rest
    rw [Decoder.many, pure_ok]
    constructor
    · rintro ⟨rfl, rfl⟩
      exact ⟨⟨rfl, List.forall_mem_nil _⟩, rfl⟩
    rintro ⟨⟨hlen, -⟩, rfl⟩
    rw [List.length_eq_zero_iff] at hlen
    subst hlen
    exact ⟨rfl, rfl⟩
  | succ n ih =>
    intro input as rest
    rw [Decoder.many, bind_ok]
    constructor
    · rintro ⟨a, mid, hrd, htl⟩
      obtain ⟨tail, mid', hmany, hpu⟩ := bind_ok.mp htl
      obtain ⟨rfl, rfl⟩ := pure_ok.mp hpu
      obtain ⟨ha, rfl⟩ := (hr _ _ _).mp hrd
      obtain ⟨⟨hlen, hfit⟩, rfl⟩ := (ih _ _ _).mp hmany
      refine ⟨⟨by rw [List.length_cons, hlen], List.forall_mem_cons.mpr ⟨ha, hfit⟩⟩, ?_⟩
      · show write a ++ (tail.flatMap write ++ rest) = (a :: tail).flatMap write ++ rest
        rw [List.flatMap_cons, List.append_assoc]
    · rintro ⟨⟨hlen, hall⟩, rfl⟩
      cases as with
      | nil => cases hlen
      | cons a as =>
        obtain ⟨hhd, htl⟩ := List.forall_mem_cons.mp hall
        refine ⟨a, as.flatMap write ++ rest, (hr _ _ _).mpr ⟨hhd, ?_⟩, ?_⟩
        · show (a :: as).flatMap write ++ rest = _
          rw [List.flatMap_cons, List.append_assoc]
        · exact bind_ok.mpr ⟨as, rest, (ih _ _ _).mpr ⟨⟨Nat.succ.inj hlen, htl⟩, rfl⟩, pure_ok.mpr ⟨rfl, rfl⟩⟩

end Exact

/-- The decoder reads only what is written, and reads back every valid value. -/
structure RoundTrip (r : Decoder β ε α) (write : α → List β) (Valid : α → Prop) : Prop where
  canonical : ∀ {input a rest}, r input = .ok (a, rest) → input = write a ++ rest
  reads : ∀ {a}, Valid a → r (write a) = .ok (a, [])

/-- **A whole record whose valid values fit**, under its own writer. -/
theorem ExactWhere.roundTrip {own : α → List β} {Valid : α → Prop} (h : ExactWhere r write Fits fun _ => True)
    (hwr : ∀ a, Fits a → own a = write a) (hval : ∀ a, Valid a → Fits a) : RoundTrip r own Valid := by
  have hexact : Exact r own Fits := h.record hwr fun _ => Iff.rfl
  refine ⟨fun hrd => ((hexact _ _ _).mp hrd).2, fun {a} ha => (hexact _ _ _).mpr ⟨hval a ha, ?_⟩⟩
  exact (List.append_nil _).symm

/-- **Reading everything.** -/
theorem Decoder.all_ok {trailing : ε} {input : List β} {a : α} :
    r.all trailing input = .ok a ↔ r input = .ok (a, []) := by
  unfold Decoder.all
  constructor
  · intro h
    split at h
    · cases h
    · cases h
      assumption
    · cases h
  · intro h
    rw [h]

export Decoder (bind_ok pure_ok guard_ok take_ok all_ok)

end Lib
