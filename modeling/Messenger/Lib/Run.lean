import Mathlib.Data.List.Basic

/-!
# `Lib.Run` — runs of a transition function, and conditions on their steps

A system is a state type, an input type and a total `step : σ → ι → σ`; an input that is not enabled
leaves the state alone. A run is a list of inputs.

`Along step P s is` says that every input of the run satisfies `P` in the state it is applied to. It
is the shape of every hypothesis of the kind "no step of the run does …", and it is closed under
prefixes, so a fact proved about the end of a conditioned run holds at each state on the way.

The one induction over runs is `Along.invariant`; `run_invariant` is its unconditioned form.
-/

namespace Lib

variable {σ ι : Type} {step : σ → ι → σ} {P Q : σ → ι → Prop}

/-- The state after a list of inputs, first input first. -/
def run (step : σ → ι → σ) (s : σ) (is : List ι) : σ := is.foldl step s

variable (s : σ)

@[simp] theorem run_nil : run step s [] = s := rfl

@[simp] theorem run_cons (i : ι) (is : List ι) : run step s (i :: is) = run step (step s i) is := rfl

@[simp] theorem run_append (is js : List ι) : run step s (is ++ js) = run step (run step s is) js := List.foldl_append

/-- Each input satisfies `P` in the state it is applied to. -/
def Along (step : σ → ι → σ) (P : σ → ι → Prop) : σ → List ι → Prop
  | _, [] => True
  | s, i :: is => P s i ∧ Along step P (step s i) is

@[simp] theorem along_nil : Along step P s [] := trivial

@[simp] theorem along_cons (i : ι) (is : List ι) : Along step P s (i :: is) ↔ P s i ∧
    Along step P (step s i) is := Iff.rfl

instance Along.decidable [∀ s i, Decidable (P s i)] : ∀ s is, Decidable (Along step P s is)
  | _, [] => isTrue trivial
  | s, i :: is =>
    match (inferInstance : Decidable (P s i)), Along.decidable (step s i) is with
    | isTrue h, isTrue hs => isTrue ⟨h, hs⟩
    | isFalse h, _ => isFalse fun hc => h hc.1
    | _, isFalse h => isFalse fun hc => h hc.2

theorem along_append (is js : List ι) : Along step P s (is ++ js) ↔ Along step P s is ∧
    Along step P (run step s is) js := by
  induction is generalizing s with
  | nil => simp
  | cons i is ih => simp [ih, and_assoc]

variable {s : σ} {is : List ι} {I : σ → Prop}

/-- A prefix of a conditioned run is a conditioned run. -/
theorem Along.take (h : Along step P s is) (k : Nat) : Along step P s (is.take k) := by
  induction is generalizing s k with
  | nil => simp
  | cons i is ih =>
    cases k with
    | zero => simp
    | succ k => exact ⟨h.1, ih h.2 k⟩

theorem Along.of_forall (h : ∀ s i, P s i) (s : σ) (is : List ι) : Along step P s is := by
  induction is generalizing s with
  | nil => trivial
  | cons i is ih => exact ⟨h s i, ih _⟩

/-- A condition on the inputs alone. -/
theorem Along.of_mem {Q : ι → Prop} (h : ∀ i ∈ is, Q i) (s : σ) : Along step (fun _ i => Q i) s is := by
  induction is generalizing s with
  | nil => trivial
  | cons i is ih => exact ⟨h i List.mem_cons_self, ih (fun j hj => h j (List.mem_cons_of_mem _ hj)) _⟩

/-- A condition on each input after the inputs before it. -/
theorem Along.of_take (h : ∀ n i, is[n]? = some i → P (run step s (is.take n)) i) : Along step P s is := by
  induction is generalizing s with
  | nil => trivial
  | cons i is ih => exact ⟨h 0 i rfl, ih fun n j hj => h (n + 1) j hj⟩

theorem Along.mono (hPQ : ∀ s i, P s i → Q s i) (h : Along step P s is) : Along step Q s is := by
  induction is generalizing s with
  | nil => trivial
  | cons i is ih => exact ⟨hPQ s i h.1, ih h.2⟩

/-- **The invariant rule.** What every conditioned step preserves holds at the end of the run. -/
theorem Along.invariant (hsp : ∀ s i, I s → P s i → I (step s i)) (h : Along step P s is)
    (hs : I s) : I (run step s is) := by
  induction is generalizing s with
  | nil => exact hs
  | cons i is ih => exact ih h.2 (hsp s i hs h.1)

/-- The invariant rule for runs with no condition on their steps. -/
theorem run_invariant (hsp : ∀ s i, I s → I (step s i)) (hs : I s) (is : List ι) : I (run step s is) := by
  induction is generalizing s with
  | nil => exact hs
  | cons i is ih => exact ih (hsp s i hs)

/-- An invariant of the conditioned steps may be added to their condition. -/
theorem Along.and_invariant (hsp : ∀ s i, I s → P s i → I (step s i)) (h : Along step P s is)
    (hs : I s) : Along step (fun s i => I s ∧ P s i) s is := by
  induction is generalizing s with
  | nil => trivial
  | cons i is ih => exact ⟨⟨hs, h.1⟩, ih h.2 (hsp s i hs h.1)⟩

/-- **The rule for what a run never undoes.** A preorder every conditioned step respects relates the
    two ends of the run. -/
theorem Along.related {R : σ → σ → Prop} (hrefl : ∀ s, R s s) (htr : ∀ {a b c}, R a b → R b c → R a c)
    (hsp : ∀ s i, P s i → R s (step s i)) (h : Along step P s is) : R s (run step s is) := by
  induction is generalizing s with
  | nil => exact hrefl s
  | cons i is ih => exact htr (hsp s i h.1) (ih h.2)

section
variable {J : σ → Prop} {W : ι → Bool} (hkeep : ∀ s i, P s i → J s → J (step s i))
  (hset : ∀ s i, P s i → W i → ¬J s ∧ J (step s i)) {s : σ} {is : List ι}

include hkeep hset

theorem Along.countP_eq_zero (h : Along step P s is) (hs : J s) : is.countP W = 0 := by
  induction is generalizing s with
  | nil => rfl
  | cons i is ih =>
    have hW : ¬W i := fun hW => (hset s i h.1 hW).1 hs
    rw [List.countP_cons_of_neg hW]
    exact ih h.2 (hkeep s i h.1 hs)

/-- **The rule for what happens at most once.** An input that needs `J` to be false and makes it
    true for good. -/
theorem Along.countP_le_one (h : Along step P s is) : is.countP W ≤ 1 := by
  induction is generalizing s with
  | nil => exact Nat.zero_le _
  | cons i is ih =>
    by_cases hW : W i
    · have hz : is.countP W = 0 := h.2.countP_eq_zero hkeep hset (hset s i h.1 hW).2
      rw [List.countP_cons_of_pos hW]
      omega
    · rw [List.countP_cons_of_neg hW]
      exact ih h.2

end

/-! ## Properties of every state on the way -/

/-- `I` holds at every state of the run, both ends included. -/
def Throughout (step : σ → ι → σ) (I : σ → Prop) (s : σ) (is : List ι) : Prop := ∀ k, I (run step s (is.take k))

variable {I : σ → Prop}

theorem Throughout.start (h : Throughout step I s is) : I s := by simpa using h 0

theorem Throughout.finish (h : Throughout step I s is) : I (run step s is) := by
  simpa using h is.length

@[simp] theorem throughout_nil (s : σ) : Throughout step I s [] ↔ I s := by simp [Throughout]

@[simp] theorem throughout_cons (s : σ) (i : ι) (is : List ι) :
    Throughout step I s (i :: is) ↔ I s ∧ Throughout step I (step s i) is := by
  constructor
  · intro h
    exact ⟨h.start, fun k => h (k + 1)⟩
  rintro ⟨hs, h⟩ k
  cases k with
  | zero => exact hs
  | succ k => exact h k

theorem throughout_append {js : List ι} :
    Throughout step I s (is ++ js) ↔ Throughout step I s is ∧ Throughout step I (run step s is) js := by
  induction is generalizing s with
  | nil =>
    simp only [List.nil_append, throughout_nil, run_nil, iff_and_self]
    exact Throughout.start
  | cons i is ih => simp only [List.cons_append, throughout_cons, ih, run_cons, and_assoc]

/-- What holds throughout holds after each step. -/
theorem Along.and_throughout (h : Along step P s is) (hI : Throughout step I s is) :
    Along step (fun s i => P s i ∧ I (step s i)) s is := by
  induction is generalizing s with
  | nil => trivial
  | cons i is ih =>
    have hrest := ((throughout_cons s i is).mp hI).2
    exact ⟨⟨h.1, hrest.start⟩, ih h.2 hrest⟩

end Lib
