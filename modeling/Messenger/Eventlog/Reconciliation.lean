import Messenger.Eventlog.Negotiations

/-!
# `Eventlog.Reconciliation` — what start-up leaves of a budget

The specification of `reconciled`: a hold stands exactly if its negotiation stands agreed or
canonicalising, the holds of finalized negotiations have been added to what was spent, and the
budget is still within its total. The proof is the loop invariant of the walk over the holds
(`foldl_reconcileHold`).
-/

namespace Messenger.Eventlog

open Lib Negotiation

/-- The holds that become spends. -/
def spends (d : Negotiations) (id : String) : Bool := holdDisposition d id = .holdBecomesSpend

/-- What reconciling a list of holds makes of a budget. -/
structure Reconciles (d : Negotiations) (record : Budget String)
    (holds : List (Sigma fun _ : String => Nat)) (out : Budget String) : Prop where
  within : out.Within
  asset : out.asset = record.asset
  total : out.total = record.total
  spent : out.spent = record.spent + ((holds.filter fun e => spends d e.1).map Sigma.snd).sum
  hold : ∀ id, out.hold id
    = if id ∈ holds.map Sigma.fst ∧ holdDisposition d id ≠ .holdStands then none else record.hold id

variable {d : Negotiations} {record : Budget String}

theorem reconcileHold_reconciles (hwi : record.Within) {e : Sigma fun _ : String => Nat}
    (hhe : record.hold e.1 = some e.2) : Reconciles d record [e] (reconcileHold d record e) := by
  unfold reconcileHold
  cases hdispose : holdDisposition d e.1 with
  | holdStands =>
    refine ⟨hwi, rfl, rfl, ?_, fun id => ?_⟩
    · rw [List.filter_cons_of_neg (by simp [spends, hdispose])]
      rfl
    rw [if_neg]
    rintro ⟨hmem, hnot⟩
    rw [List.mem_singleton.mp hmem] at hnot
    exact hnot hdispose
  | holdReturns =>
    have hrel : record.release e.1 = some { record with reserved := record.reserved.erase e.1 } := by
      unfold Budget.release
      rw [hhe]
    refine ⟨hwi.release hrel, rfl, rfl, ?_, fun id => ?_⟩
    · rw [List.filter_cons_of_neg (by simp [spends, hdispose])]
      rfl
    rw [Budget.hold_erase record record.spent]
    refine if_congr ⟨?_, fun h => List.mem_singleton.mp h.1⟩ rfl rfl
    rintro rfl
    refine ⟨List.mem_singleton.mpr rfl, ?_⟩
    rw [hdispose]
    exact fun h => nomatch h
  | holdBecomesSpend =>
    refine ⟨hwi.spend hhe, rfl, rfl, ?_, fun id => ?_⟩
    · rw [List.filter_cons_of_pos (by simp [spends, hdispose])]
      rfl
    rw [Budget.hold_erase record (record.spent + e.2)]
    refine if_congr ⟨?_, fun h => List.mem_singleton.mp h.1⟩ rfl rfl
    rintro rfl
    refine ⟨List.mem_singleton.mpr rfl, ?_⟩
    rw [hdispose]
    exact fun h => nomatch h

/-- **The walk over the holds.** Holds under distinct keys do not disturb each other. -/
theorem foldl_reconcileHold (holds : List (Sigma fun _ : String => Nat)) (hnd : (holds.map Sigma.fst).Nodup)
    (hwi : record.Within) (hhe : ∀ e ∈ holds, record.hold e.1 = some e.2) :
    Reconciles d record holds (holds.foldl (reconcileHold d) record) := by
  induction holds generalizing record with
  | nil => exact ⟨hwi, rfl, rfl, rfl, fun id => (if_neg fun h => nomatch h.1).symm⟩
  | cons e holds ih =>
    rw [List.map_cons, List.nodup_cons] at hnd
    obtain ⟨hfst, hnd⟩ := hnd
    have hsp : Reconciles d record [e] (reconcileHold d record e) :=
      reconcileHold_reconciles hwi (hhe e List.mem_cons_self)
    -- the other holds are still there after the first was reconciled
    have hkt : ∀ e' ∈ holds, (reconcileHold d record e).hold e'.1 = some e'.2 := by
      intro e' hmem
      have hne : e'.1 ≠ e.1 := fun h => hfst (h ▸ List.mem_map_of_mem hmem)
      rw [hsp.hold, if_neg fun h => hne (List.mem_singleton.mp h.1)]
      exact hhe e' (List.mem_cons_of_mem _ hmem)
    have hre := ih hnd hsp.within hkt
    refine ⟨hre.within, hre.asset.trans hsp.asset, hre.total.trans hsp.total, ?_, fun id => ?_⟩
    · rw [List.foldl_cons, hre.spent, hsp.spent, List.filter_cons, List.filter_cons, List.filter_nil]
      cases spends d e.1 with
      | true =>
        simp only [if_true, List.map_cons, List.map_nil, List.sum_cons, List.sum_nil]
        omega
      | false => simp
    rw [List.foldl_cons, hre.hold, hsp.hold, List.map_cons]
    by_cases hstd : holdDisposition d id = .holdStands
    · rw [if_neg fun h => h.2 hstd, if_neg fun h => h.2 hstd, if_neg fun h => h.2 hstd]
    by_cases hlat : id ∈ holds.map Sigma.fst
    · rw [if_pos ⟨hlat, hstd⟩, if_pos ⟨List.mem_cons_of_mem _ hlat, hstd⟩]
    rw [if_neg fun h => hlat h.1]
    refine if_congr ⟨fun h => ⟨?_, hstd⟩, fun h => ⟨?_, hstd⟩⟩ rfl rfl
    · exact List.mem_cons.mpr (.inl (List.mem_singleton.mp h.1))
    rcases List.mem_cons.mp h.1 with hid | hid
    · exact List.mem_singleton.mpr hid
    · exact absurd hid hlat

theorem hold_of_mem_entries {e : Sigma fun _ : String => Nat} (h : e ∈ record.reserved.entries) :
    record.hold e.1 = some e.2 :=
  mem_lookup_iff.mpr h

/-- **What start-up leaves of a budget.** -/
structure Repaired (d : Negotiations) (record out : Budget String) : Prop where
  within : out.Within
  asset : out.asset = record.asset
  total : out.total = record.total
  spent : out.spent = record.spent + Dir.totalWhere (spends d) record.reserved
  hold : ∀ id, out.hold id = if holdDisposition d id = .holdStands then record.hold id else none

theorem reconciled_repaired (hwi : record.Within) : Repaired d record (reconciled d record) := by
  have hfold : Reconciles d record record.reserved.entries (reconciled d record) :=
    foldl_reconcileHold _ record.reserved.keys_nodup hwi fun e he => hold_of_mem_entries he
  refine ⟨hfold.within, hfold.asset, hfold.total, hfold.spent, fun id => ?_⟩
  rw [hfold.hold]
  by_cases hstd : holdDisposition d id = .holdStands
  · rw [if_neg fun h => h.2 hstd, if_pos hstd]
  rw [if_neg hstd]
  by_cases hmem : id ∈ record.reserved.entries.map Sigma.fst
  · rw [if_pos ⟨hmem, hstd⟩]
  · rw [if_neg fun h => hmem h.1]
    exact lookup_eq_none.mpr hmem

/-- Also when nothing is written, because every hold stands. -/
theorem reconcileBudgetFile_repaired (hwi : record.Within) {w : Written}
    (h : (reconcileBudgetFile w d record).1 = .ok ()) : Repaired d record (reconcileBudgetFile w d record).2 := by
  unfold reconcileBudgetFile at h ⊢
  split_ifs at h ⊢ with hchan
  · cases w with
    | done => exact reconciled_repaired hwi
    | refused => cases h
    | unacknowledged => cases h
  have hstand : ∀ e ∈ record.reserved.entries, holdDisposition d e.1 = .holdStands := by
    intro e he
    by_contra hnot
    exact hchan (List.any_eq_true.mpr ⟨e, he, decide_eq_true hnot⟩)
  refine ⟨hwi, rfl, rfl, ?_, fun id => ?_⟩
  · unfold Dir.totalWhere
    rw [List.filter_eq_nil_iff.mpr fun e he => ?_]
    · rfl
    · simp [spends, hstand e he]
  split_ifs with hstd
  · rfl
  cases hho : record.hold id with
  | none => rfl
  | some amt => exact absurd (hstand ⟨id, amt⟩ (mem_lookup_iff.mp hho)) hstd

/-- A refused reconciliation leaves the ledger, an unacknowledged one repairs it. -/
theorem reconcileBudgetFile_cases (w : Written) (d : Negotiations) (hwi : record.Within) :
    (reconcileBudgetFile w d record).2 = record ∨ Repaired d record (reconcileBudgetFile w d record).2 := by
  unfold reconcileBudgetFile
  split_ifs
  · cases w with
    | done | unacknowledged => exact .inr (reconciled_repaired hwi)
    | refused => exact .inl rfl
  · exact .inl rfl

end Messenger.Eventlog
