import Mathlib.Data.List.Nodup
import Mathlib.Data.List.Range
import Mathlib.Order.Basic

/-!
# `Lib.Window` — which positions of a sequence have been received

Items are numbered in the order they are sent and received in any order, each at most once.
`frontier` is the first position beyond everything received, `outstanding` lists the positions
before it that are still to come, in order.

The two lemmas that matter say what one more item does: one from behind the frontier is taken out of
the list (`outstanding_behind`), one from beyond it adds the positions that were jumped over
(`outstanding_ahead`).
-/

namespace Lib

/-- The first position beyond everything received. -/
def frontier (received : List Nat) : Nat := received.foldr (fun q n => max (q + 1) n) 0

theorem frontier_cons (q : Nat) (received : List Nat) :
    frontier (q :: received) = max (q + 1) (frontier received) := rfl

variable {q : Nat} {received : List Nat}

theorem frontier_behind (h : q < frontier received) : frontier (q :: received) = frontier received := by
  rw [frontier_cons]
  omega

theorem frontier_ahead (h : frontier received ≤ q) : frontier (q :: received) = q + 1 := by
  rw [frontier_cons]
  omega

theorem lt_frontier (h : q ∈ received) : q < frontier received := by
  induction received with
  | nil => cases h
  | cons r received ih =>
    rw [frontier_cons]
    rcases List.mem_cons.mp h with rfl | h
    · omega
    · have := ih h
      omega

/-- The positions before the frontier that are still to come. -/
def outstanding (received : List Nat) : List Nat := (List.range (frontier received)).filter (· ∉ received)

theorem mem_outstanding : q ∈ outstanding received ↔ q < frontier received ∧ q ∉ received := by
  simp [outstanding]

theorem outstanding_nodup (received : List Nat) : (outstanding received).Nodup := List.nodup_range.filter _

/-- **From behind the frontier.** -/
theorem outstanding_behind (h : q < frontier received) :
    outstanding (q :: received) = (outstanding received).erase q := by
  rw [(outstanding_nodup received).erase_eq_filter]
  unfold outstanding
  rw [frontier_behind h, List.filter_filter]
  refine List.filter_congr fun r _ => ?_
  by_cases hq : r = q
  · simp [hq]
  · simp [hq]

/-- **From beyond it.** -/
theorem outstanding_ahead (h : frontier received ≤ q) :
    outstanding (q :: received) =
      outstanding received ++ (List.range (q - frontier received)).map (frontier received + ·) := by
  have hfrontier : frontier (q :: received) = frontier received + (q - frontier received) + 1 := by
    rw [frontier_ahead h]
    omega
  have hla : frontier received + (q - frontier received) = q := by omega
  unfold outstanding
  rw [hfrontier, List.range_succ, List.range_add, List.filter_append, List.filter_append, hla]
  have hpre : (List.range (frontier received)).filter (fun r => decide (r ∉ q :: received)) =
      (List.range (frontier received)).filter (fun r => decide (r ∉ received)) := by
    refine List.filter_congr fun r hr => ?_
    have hne : r ≠ q := by
      have := List.mem_range.mp hr
      omega
    simp [hne]
  have hbetween : ((List.range (q - frontier received)).map (frontier received + ·)).filter
      (fun r => decide (r ∉ q :: received)) = (List.range (q - frontier received)).map (frontier received + ·) := by
    rw [List.filter_eq_self]
    intro r hr
    obtain ⟨i, hi, rfl⟩ := List.mem_map.mp hr
    have hi := List.mem_range.mp hi
    have hnew : frontier received + i ∉ received := fun hmem => by
      have := lt_frontier hmem
      omega
    have hne : frontier received + i ≠ q := by omega
    simp [hnew, hne]
  rw [hpre, hbetween]
  simp

end Lib
