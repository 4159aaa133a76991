import Mathlib.Data.List.Basic

/-!
# `Lib.Search` — binary search for the first index that satisfies a condition

The loop keeps an interval `[low, high)`: every index below `low` fails the condition and every
index from `high` on satisfies it. On a condition that is never given up again the loop ends at the
boundary (`search_le_iff`), so in a list whose keys grow it finds the element with a given key
(`getElem?_search`).
-/

namespace Lib

/-- The loop over the interval `[low, high)`; each round at least halves it. -/
def searchFrom (p : Nat → Bool) : Nat → Nat → Nat → Nat
  | 0, low, _ => low
  | fuel + 1, low, high =>
    if low < high then
      if p ((low + high) / 2) then searchFrom p fuel low ((low + high) / 2)
      else searchFrom p fuel ((low + high) / 2 + 1) high
    else low

/-- The first index below `n` that satisfies `p`, or `n`. -/
def search (n : Nat) (p : Nat → Bool) : Nat := searchFrom p n 0 n

variable {p : Nat → Bool} {n : Nat}

theorem searchFrom_le_iff (hmono : ∀ i j, i ≤ j → j < n → p i → p j) {fuel low high : Nat} (hle : low ≤ high)
    (hhi : high ≤ n) (hbelow : ∀ k, k < low → ¬p k) (habove : ∀ k, high ≤ k → k < n → p k)
    (hfuel : high - low ≤ fuel) {k : Nat} (hk : k < n) : searchFrom p fuel low high ≤ k ↔ p k := by
  -- once the interval is empty its end is the boundary
  have hemp : ∀ {low high : Nat}, ¬low < high → low ≤ high → (∀ k, k < low → ¬p k) →
      (∀ k, high ≤ k → k < n → p k) → (low ≤ k ↔ p k) := by
    intro low high hnot hle hbelow habove
    obtain rfl : low = high := by omega
    refine ⟨fun h => habove k h hk, fun hp => ?_⟩
    by_contra hlt
    exact hbelow k (by omega) hp
  induction fuel generalizing low high with
  | zero =>
    have hnot : ¬low < high := by omega
    exact hemp hnot hle hbelow habove
  | succ fuel ih =>
    unfold searchFrom
    split_ifs with hlt hp
    · refine ih (by omega) (by omega) hbelow ?_ (by omega)
      intro j hj hjn
      exact hmono _ j hj hjn hp
    · refine ih (by omega) hhi ?_ habove (by omega)
      intro j hj hpj
      exact hp (hmono j _ (by omega) (by omega) hpj)
    · exact hemp hlt hle hbelow habove

/-- **The loop ends at the boundary.** -/
theorem search_le_iff (hmono : ∀ i j, i ≤ j → j < n → p i → p j) {k : Nat} (hk : k < n) : search n p ≤ k ↔ p k :=
  searchFrom_le_iff hmono (Nat.zero_le n) (Nat.le_refl n) (fun _ h => absurd h (Nat.not_lt_zero _))
    (fun _ h h' => by omega)
    (by omega) hk

/-- In a list whose keys grow, the search for a key that occurs ends at the element that has it. -/
theorem getElem?_search {α : Type} {key : α → Nat} {l : List α} (hsrt : l.Pairwise fun a b => key a < key b) {a : α}
    (ha : a ∈ l) : l[search l.length fun i => l[i]?.any (key a ≤ key ·)]? = some a := by
  obtain ⟨i, hi, rfl⟩ := List.getElem_of_mem ha
  have hlt := List.pairwise_iff_getElem.mp hsrt
  generalize hc : (fun j : Nat => l[j]?.any (key l[i] ≤ key ·)) = c
  -- the condition at an index is a comparison of two keys
  have hcond : ∀ {j : Nat}, j < l.length → (c j ↔ i ≤ j) := by
    intro j hj
    simp only [← hc, List.getElem?_eq_getElem hj, Option.any_some, decide_eq_true_eq]
    constructor
    · intro h
      by_contra hji
      have := hlt j i hj hi (by omega)
      omega
    intro h
    rcases Nat.eq_or_lt_of_le h with rfl | h
    · exact Nat.le_refl _
    · exact Nat.le_of_lt (hlt i j hi hj h)
  have hmono : ∀ j k, j ≤ k → k < l.length → c j → c k := by
    intro j k hjk hk hj
    have := (hcond (by omega)).mp hj
    exact (hcond hk).mpr (by omega)
  have hiff : ∀ {j : Nat}, j < l.length → (search l.length c ≤ j ↔ i ≤ j) :=
    fun hj => (search_le_iff hmono hj).trans (hcond hj)
  have heq : search l.length c = i := by
    have hle := (hiff hi).mpr (Nat.le_refl i)
    have hge := (hiff (Nat.lt_of_le_of_lt hle hi)).mp (Nat.le_refl _)
    omega
  rw [heq, List.getElem?_eq_getElem hi]

end Lib
