import Messenger.Lib.Run
import Mathlib.Order.Basic

/-!
# `Lib.Observe` — what a run shows, and runs under a clock

`observed step see s is` lists what the steps of a run show, in order. The rule for what is shown at
most once is `Along.observed_nodup`: showing `a` establishes `J a`, every step keeps `J a`, and a
state with `J a` does not show `a`.

Some of what a step keeps is true from a moment on only. `clocked` adds the latest reading of a
clock to the state of a system; a run whose readings never go back is a conditioned run of the
clocked system (`along_clocked`), and shows what it showed before (`observed_clocked`).
-/

namespace Lib

variable {σ ι α τ : Type} {step : σ → ι → σ} {P Q : σ → ι → Prop} {see : σ → ι → Option α}

theorem Along.and {s : σ} {is : List ι} (hP : Along step P s is) (hQ : Along step Q s is) :
    Along step (fun s i => P s i ∧ Q s i) s is := by
  induction is generalizing s with
  | nil => trivial
  | cons i is ih => exact ⟨⟨hP.1, hQ.1⟩, ih hP.2 hQ.2⟩

/-- What the steps of a run show, first step first. -/
def observed (step : σ → ι → σ) (see : σ → ι → Option α) : σ → List ι → List α
  | _, [] => []
  | s, i :: is => (see s i).toList ++ observed step see (step s i) is

section
variable {J : α → σ → Prop} (hkeep : ∀ a s i, P s i → J a s → J a (step s i))
  (hunseen : ∀ a s i, P s i → J a s → see s i ≠ some a)

include hkeep hunseen

theorem Along.not_mem_observed {a : α} {s : σ} {is : List ι} (h : Along step P s is) (hs : J a s) :
    a ∉ observed step see s is := by
  induction is generalizing s with
  | nil => exact List.not_mem_nil
  | cons i is ih =>
    intro hmem
    rcases List.mem_append.mp hmem with hse | hlat
    · exact hunseen a s i h.1 hs (Option.mem_toList.mp hse)
    · exact ih h.2 (hkeep a s i h.1 hs) hlat

/-- **The rule for what is shown at most once.** -/
theorem Along.observed_nodup (hset : ∀ a s i, P s i → see s i = some a → J a (step s i)) {s : σ}
    {is : List ι} (h : Along step P s is) : (observed step see s is).Nodup := by
  induction is generalizing s with
  | nil => exact List.nodup_nil
  | cons i is ih =>
    unfold observed
    cases hsee : see s i with
    | none => exact ih h.2
    | some a =>
      have hfr : a ∉ observed step see (step s i) is :=
        h.2.not_mem_observed hkeep hunseen (hset a s i h.1 hsee)
      exact List.nodup_cons.mpr ⟨hfr, ih h.2⟩

end

/-! ## Clocks -/

/-- A system beside the latest reading of a clock; not every input reads it. -/
def clocked (step : σ → ι → σ) (time : ι → Option τ) (s : σ × τ) (i : ι) : σ × τ := (step s.1 i, (time i).getD s.2)

theorem observed_clocked (time : ι → Option τ) (s : σ) (c : τ) (is : List ι) :
    observed (clocked step time) (fun s i => see s.1 i) (s, c) is = observed step see s is := by
  induction is generalizing s c with
  | nil => rfl
  | cons i is ih => exact congrArg ((see s i).toList ++ ·) (ih (step s i) ((time i).getD c))

/-- **A clock that never goes back**: each input reads it at or after what was read last. -/
theorem along_clocked [Preorder τ] {time : ι → Option τ} {is : List ι}
    (h : (is.filterMap time).Pairwise (· ≤ ·)) {c : τ} (hc : ∀ t ∈ is.filterMap time, c ≤ t)
    (s : σ) : Along (clocked step time) (fun s i => ∀ t ∈ time i, s.2 ≤ t) (s, c) is := by
  induction is generalizing s c with
  | nil => trivial
  | cons i is ih =>
    cases hti : time i with
    | none =>
      rw [List.filterMap_cons_none hti] at h hc
      refine ⟨fun t ht => ?_, ?_⟩
      · rw [hti] at ht
        cases ht
      · rw [clocked, hti]
        exact ih h hc (step s i)
    | some now =>
      rw [List.filterMap_cons_some hti] at h hc
      obtain ⟨hlat, hre⟩ := List.pairwise_cons.mp h
      refine ⟨fun t ht => hc t ?_, ?_⟩
      · rw [hti] at ht
        exact Option.mem_some.mp ht ▸ List.mem_cons_self
      · rw [clocked, hti]
        exact ih hre hlat (step s i)

/-- A reading to start from. -/
theorem exists_clock [Preorder τ] [Inhabited τ] {times : List τ} (h : times.Pairwise (· ≤ ·)) :
    ∃ c, ∀ t ∈ times, c ≤ t := by
  cases times with
  | nil => exact ⟨default, List.forall_mem_nil _⟩
  | cons now times => exact ⟨now, List.forall_mem_cons.mpr ⟨le_refl _, (List.pairwise_cons.mp h).1⟩⟩

end Lib
