import Messenger.Lib.Dir

/-!
# `Lib.Sweep` — removing expired records from a directory

A sweep lists a directory once and then looks at one entry after the other. An entry that cannot be
judged is reported and kept; an entry that is to be dropped is removed, and a removal that fails
ends the sweep with what was removed so far still removed.

The interface is `sweep_lookup`: a name reads as before, or it was judged to be dropped and reads as
nothing.
-/

namespace Lib

/-- What is to be done with one entry. -/
inductive Finding where
  | unreadable
  | keep
  | drop
  deriving DecidableEq, Repr

/-- A sweep and what it did. -/
structure Sweep (κ α : Type) where
  dir : Dir κ α
  removed : Nat := 0
  unreadable : List κ := []
  /-- A removal failed. -/
  stopped : Bool := false

variable {κ α : Type} [DecidableEq κ] {judge : κ → Finding} {removes : κ → Bool}

/-- The loop over a listing; `removes` says which removals succeed. -/
def sweepNames (judge : κ → Finding) (removes : κ → Bool) : List κ → Sweep κ α → Sweep κ α
  | [], s => s
  | name :: rest, s =>
    match judge name with
    | .unreadable => sweepNames judge removes rest { s with unreadable := s.unreadable ++ [name] }
    | .keep => sweepNames judge removes rest s
    | .drop =>
      if removes name then sweepNames judge removes rest { s with dir := s.dir.erase name, removed := s.removed + 1 }
      else { s with stopped := true }

/-- Sweep a whole directory. -/
def sweep [LE κ] [DecidableLE κ] (judge : κ → Finding) (removes : κ → Bool) (d : Dir κ α) : Sweep κ α :=
  sweepNames judge removes d.names ⟨d, 0, [], false⟩

theorem sweepNames_lookup (names : List κ) (s : Sweep κ α) (k : κ) :
    lookup k (sweepNames judge removes names s).dir = lookup k s.dir ∨
      lookup k (sweepNames judge removes names s).dir = none ∧ judge k = .drop := by
  induction names generalizing s with
  | nil => exact .inl rfl
  | cons name rest ih =>
    unfold sweepNames
    cases hjdg : judge name with
    | unreadable => exact ih _
    | keep => exact ih _
    | drop =>
      by_cases hrms : removes name
      · simp only [hrms, if_true]
        -- what the rest of the sweep leaves is the directory without this name, or less
        rcases ih { s with dir := s.dir.erase name, removed := s.removed + 1 } with hsm | hdropped
        · by_cases hk : k = name
          · subst hk
            refine .inr ⟨?_, hjdg⟩
            rw [hsm, lookup_erase]
          · left
            rw [hsm, lookup_erase_ne hk]
        · exact .inr hdropped
      · simp only [hrms]
        exact .inl rfl

/-- **What a sweep does to a name.** -/
theorem sweep_lookup [LE κ] [DecidableLE κ] (judge : κ → Finding) (removes : κ → Bool) (d : Dir κ α)
    (k : κ) : lookup k (sweep judge removes d).dir = lookup k d ∨
      lookup k (sweep judge removes d).dir = none ∧ judge k = .drop :=
  sweepNames_lookup _ _ k

end Lib
