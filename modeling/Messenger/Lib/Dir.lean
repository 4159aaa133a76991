import Mathlib.Algebra.BigOperators.Group.Finset.Basic
import Mathlib.Algebra.GroupWithZero.Nat
import Mathlib.Algebra.Order.BigOperators.Group.List
import Mathlib.Algebra.Order.Group.Nat
import Mathlib.Data.List.AList
import Mathlib.Data.List.Sort

/-!
# `Lib.Dir` — a directory of records

One record a name, listed in name order. The representation is Mathlib's `AList`; this file adds the
sorted listing a program sees when it reads the directory, and that listing's two interface facts:
it holds exactly the names with a record, each once. For directories of amounts it adds their total
and how one entry enters it.
-/

namespace Lib

/-- A directory: at most one record of type `α` under each name of type `κ`. -/
abbrev Dir (κ α : Type) : Type := AList fun _ : κ => α

export AList (lookup lookup_insert lookup_insert_ne lookup_erase_ne lookup_erase lookup_empty mem_lookup_iff
    lookup_isSome mem_keys insert_insert lookup_eq_none keys_erase)

namespace Dir

variable {κ α : Type} [DecidableEq κ] {a b : α} {P : κ → α → Prop} (before : κ → κ → Bool)

/-- The names in the order `before`. -/
def namesBy (d : Dir κ α) : List κ := d.keys.insertionSort fun a b => before a b

variable {d : Dir κ α} {k : κ} {k' : κ}

theorem mem_namesBy {before : κ → κ → Bool} : k ∈ namesBy before d ↔ ∃ a, d.lookup k = some a := by
  rw [namesBy, List.mem_insertionSort, ← mem_keys, ← lookup_isSome, Option.isSome_iff_exists]

omit [DecidableEq κ] in
theorem nodup_namesBy (d : Dir κ α) : (namesBy before d).Nodup :=
  (List.perm_insertionSort _ _).nodup_iff.mpr d.keys_nodup

/-- A scan that reads records bearing their own names meets each name at most once. -/
theorem map_filterMap_sublist {κ α : Type} {scan : κ → Option α} {name : α → κ}
    (hnm : ∀ k a, scan k = some a → name a = k) (ks : List κ) : ((ks.filterMap scan).map name).Sublist ks := by
  induction ks with
  | nil => exact List.Sublist.refl _
  | cons k ks ih =>
    cases hscan : scan k with
    | none =>
      rw [List.filterMap_cons_none hscan]
      exact ih.cons k
    | some a =>
      rw [List.filterMap_cons_some hscan, List.map_cons, hnm k a hscan]
      exact ih.cons_cons k

/-- The names in listing order. -/
def names [LE κ] [DecidableLE κ] (d : Dir κ α) : List κ := d.keys.insertionSort (· ≤ ·)

theorem mem_names [LE κ] [DecidableLE κ] : k ∈ names d ↔ ∃ a, d.lookup k = some a := by
  rw [names, List.mem_insertionSort, ← mem_keys, ← lookup_isSome, Option.isSome_iff_exists]

/-- Reading back after a write, both cases at once. -/
theorem lookup_insert_eq (d : Dir κ α) (k k' : κ) (a : α) :
    lookup k' (AList.insert k a d) = if k' = k then some a else lookup k' d := by
  by_cases h : k' = k
  · subst h
    rw [if_pos rfl, lookup_insert]
  · rw [if_neg h, lookup_insert_ne h]

/-- What is read after a write is what was written or what was there. -/
theorem lookup_insert_cases (h : lookup k' (AList.insert k a d) = some b) :
    (k' = k ∧ b = a) ∨ lookup k' d = some b := by
  rw [lookup_insert_eq] at h
  split_ifs at h with hk
  · exact .inl ⟨hk, (Option.some.inj h).symm⟩
  · exact .inr h

theorem forall_empty : ∀ k a, lookup k (∅ : Dir κ α) = some a → P k a := nofun

/-- What holds of every record and of a new one holds after the write. -/
theorem forall_insert {a : α} (h : ∀ k' b, lookup k' d = some b → P k' b) (hnew : P k a) :
    ∀ k' b, lookup k' (AList.insert k a d) = some b → P k' b := by
  intro k' b hb
  rcases lookup_insert_cases hb with ⟨rfl, rfl⟩ | hold
  · exact hnew
  · exact h k' b hold

/-- A write under a new name leaves every record. -/
theorem lookup_insert_of_absent (habs : lookup k d = none) (h : lookup k' d = some b) :
    lookup k' (AList.insert k a d) = some b := by
  have hne : k' ≠ k := by
    rintro rfl
    rw [habs] at h
    cases h
  rw [lookup_insert_ne hne]
  exact h

/-- After a write each record stands as it was, or has the one written in its place. -/
theorem lookup_insert_retains {R : α → α → Prop} {a b : α} (h : lookup k' d = some b)
    (hsm : R b b) (hnew : lookup k d = some b → R b a) :
    ∃ b', lookup k' (AList.insert k a d) = some b' ∧ R b b' := by
  by_cases hk : k' = k
  · subst hk
    exact ⟨a, lookup_insert _, hnew h⟩
  · exact ⟨b, (lookup_insert_ne hk).trans h, hsm⟩

/-- Reading back after a removal. -/
theorem lookup_erase_eq (d : Dir κ α) (k k' : κ) :
    lookup k' (AList.erase k d) = if k' = k then none else lookup k' d := by
  split_ifs with hk
  · rw [hk, lookup_erase]
  · exact lookup_erase_ne hk

/-- What is read after a removal was there, under another name. -/
theorem lookup_erase_some {b : α} (h : lookup k' (AList.erase k d) = some b) : k' ≠ k ∧ lookup k' d = some b := by
  rw [lookup_erase_eq] at h
  split_ifs at h with hk
  exact ⟨hk, h⟩

/-- Removing a name without a record changes nothing. -/
theorem erase_of_lookup_none (h : lookup k d = none) : d.erase k = d := by
  have hkey : k ∉ d.entries.keys := fun hmem => lookup_eq_none.mp h hmem
  exact AList.ext (List.kerase_of_notMem_keys hkey)

/-- Removing names one after the other removes exactly those. -/
theorem lookup_foldl_erase (ks : List κ) (d : Dir κ α) (k : κ) :
    lookup k (ks.foldl (fun d k => AList.erase k d) d) = if k ∈ ks then none else lookup k d := by
  induction ks generalizing d with
  | nil => rfl
  | cons head ks ih =>
    rw [List.foldl_cons, ih]
    by_cases hhd : k = head
    · subst hhd
      simp [lookup_erase]
    · simp [hhd, lookup_erase_ne hhd]

/-! ## Totals -/

/-- The sum of all amounts. -/
def total (d : Dir κ Nat) : Nat := (d.entries.map Sigma.snd).sum

omit [DecidableEq κ] in
/-- The amount under one name; a missing name holds nothing. -/
def amount (d : Dir κ Nat) (k : κ) : Nat := (lookup k d).getD 0

theorem total_insert (d : Dir κ Nat) (k : κ) (n : Nat) : total (d.insert k n) = n + total (d.erase k) := rfl

variable (p : κ → Bool)

/-- The sum of the amounts under the names of a kind. -/
def totalWhere (d : Dir κ Nat) : Nat := ((d.entries.filter fun e => p e.1).map Sigma.snd).sum

theorem totalWhere_erase (d : Dir κ Nat) (k : κ) : totalWhere p (d.erase k) + (if p k then amount d k else 0) =
    totalWhere p d := by
  have hlist : ∀ l : List (Sigma fun _ : κ => Nat),
      (((l.kerase k).filter fun e => p e.1).map Sigma.snd).sum + (if p k then (l.dlookup k).getD 0 else 0)
        = ((l.filter fun e => p e.1).map Sigma.snd).sum := by
    intro l
    induction l with
    | nil => cases p k <;> rfl
    | cons e l ih =>
      obtain ⟨k', n⟩ := e
      by_cases hk : k = k'
      · subst hk
        have hkerase : List.kerase k (⟨k, n⟩ :: l) = l := List.kerase_cons_eq rfl
        rw [hkerase, List.dlookup_cons_eq]
        cases hp : p k with
        | true =>
          rw [List.filter_cons_of_pos (by exact hp)]
          simp only [if_true, Option.getD_some, List.map_cons, List.sum_cons]
          omega
        | false =>
          rw [List.filter_cons_of_neg (by simp [hp])]
          simp
      · rw [List.kerase_cons_ne hk, List.dlookup_cons_ne l ⟨k', n⟩ hk]
        cases hp : p k' with
        | true =>
          rw [List.filter_cons_of_pos (by exact hp), List.filter_cons_of_pos (by exact hp)]
          simp only [List.map_cons, List.sum_cons]
          omega
        | false =>
          rw [List.filter_cons_of_neg (by simp [hp]), List.filter_cons_of_neg (by simp [hp])]
          exact ih
  exact hlist d.entries

theorem total_erase (d : Dir κ Nat) (k : κ) : total (d.erase k) + amount d k = total d := by
  have hwhere := totalWhere_erase (fun _ => true) d k
  simp only [totalWhere, List.filter_true, if_true] at hwhere
  exact hwhere

theorem totalWhere_insert (d : Dir κ Nat) (k : κ) (n : Nat) :
    totalWhere p (d.insert k n) = (if p k then n else 0) + totalWhere p (d.erase k) := by
  unfold totalWhere
  rw [AList.entries_insert]
  cases hp : p k with
  | true =>
    rw [List.filter_cons_of_pos (by exact hp)]
    rfl
  | false =>
    rw [List.filter_cons_of_neg (by simp [hp])]
    simp only [Bool.false_eq_true, if_false, Nat.zero_add]
    rfl

/-- A kind that changes at one name changes the sum by that name's amount. -/
theorem totalWhere_congr {p q : κ → Bool} (h : ∀ k', k' ≠ k → p k' = q k') (d : Dir κ Nat) :
    totalWhere p d + (if q k then amount d k else 0) = totalWhere q d + (if p k then amount d k else 0) := by
  have herased : totalWhere p (d.erase k) = totalWhere q (d.erase k) := by
    unfold totalWhere
    have hfilter : (d.erase k).entries.filter (fun e => p e.1) = (d.erase k).entries.filter fun e => q e.1 := by
      refine List.filter_congr fun e he => ?_
      have hkey : e.1 ∈ (d.erase k).keys := List.mem_map_of_mem he
      have hne : e.1 ≠ k := by
        rintro rfl
        rw [keys_erase] at hkey
        exact List.Nodup.not_mem_erase d.keys_nodup hkey
      exact h e.1 hne
    rw [hfilter]
  have hp := totalWhere_erase p d k
  have hq := totalWhere_erase q d k
  omega

/-- Distinct names hold no more than the total. -/
theorem sum_amount_le_total (ks : Finset κ) (d : Dir κ Nat) : ∑ k ∈ ks, amount d k ≤ total d := by
  induction ks using Finset.induction_on generalizing d with
  | empty => exact Nat.zero_le _
  | insert k ks hk ih =>
    have hre : ∑ k' ∈ ks, amount d k' = ∑ k' ∈ ks, amount (d.erase k) k' := by
      refine Finset.sum_congr rfl fun k' hk' => ?_
      have hne : k' ≠ k := fun h => hk (h ▸ hk')
      unfold amount
      rw [lookup_erase_ne hne]
    rw [Finset.sum_insert hk, hre]
    have htl := ih (d.erase k)
    have hhd := total_erase d k
    omega

end Dir

export Dir (forall_insert lookup_insert_eq lookup_insert_cases lookup_erase_some forall_empty mem_names mem_namesBy
  lookup_erase_eq)

end Lib
