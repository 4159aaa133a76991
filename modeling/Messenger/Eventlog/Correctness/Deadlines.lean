import Messenger.Eventlog.Calls
import Messenger.Eventlog.Commerce

/-!
# `Eventlog.Correctness.Deadlines` — decisions past their window

An approval nobody decided within the window and an event nobody admitted in time are refused by a
sweep. The deciding operations ask only whether the request is still pending, so what an owner's
late decision does depends on whether the sweep came first: before it the request is granted, after
it the decision is refused.
-/

namespace Messenger.Eventlog

open Lib

section
open Commerce

variable {env : Commerce.Env} {s : Store} {id : Firewall.ActionID} {a : Approval} {now : Time}

theorem run_grantAction (hget : lookup id s.approvals = some a) (hid : a.actionID = id)
    (hnow : 0 ≤ now) : grantAction id now s = if a.state = .pending then
      ([.approval (a.decided .granted "" now.toNat)], .ok (a.decided .granted "" now.toNat))
    else ([], .error .approvalDecided) := by
  have hkn : knownApproval id s = ([], .ok a) := by
    unfold knownApproval
    rw [run_read_bind, readApproval_some.mpr ⟨hget, hid⟩]
    rfl
  unfold grantAction decideApproval
  rw [if_neg (not_lt.mpr hnow), run_bind_ok hkn, ite_not]
  split_ifs <;> rfl

/-- The sweep leaves a decided request as it is. -/
theorem expireApprovals_spares (hget : lookup id s.approvals = some a) (hst : a.state ≠ .pending) :
    lookup id ((expirePendingApprovalsLocked env now).final s).approvals = some a := by
  have hoth : ∀ w ∈ (expirePendingApprovalsLocked env now).writes s,
      ∃ b : Approval, w = .approval b ∧ b.actionID ≠ id := by
    unfold Durable.writes
    rcases expirePendingApprovalsLocked_cases env now s with ⟨e, hrun⟩ | hrun
    · rw [hrun]
      exact fun w hw => nomatch hw
    rw [hrun]
    intro w hw
    obtain ⟨b, hb, rfl⟩ := List.mem_map.mp hw
    obtain ⟨hb, hpn⟩ := List.mem_filter.mp hb
    refine ⟨_, rfl, fun hid => ?_⟩
    have hb : lookup id s.approvals = some b := hid ▸ mem_readableApprovals.mp hb
    cases hget.symm.trans hb
    exact hst (of_decide_eq_true (Bool.and_eq_true _ _ ▸ hpn).1)
  refine (Along.of_mem hoth s).invariant (I := fun s => lookup id s.approvals = some a) ?_ hget
  rintro s _ hs ⟨b, rfl, hb⟩
  exact (lookup_insert_ne (Ne.symm hb)).trans hs

end

section
variable {env : Env} {j : Journal} {id : EventID} {r : Record} {now : Time}

theorem run_admitEvent (hrd : readRecord env j id = .ok r) (hnow : 0 ≤ now) :
    admitEvent env id now j = if r.admission = .pending then
      ([.record id (r.decided .admitted none now.toNat)], .ok (r.decided .admitted none now.toNat))
    else ([], .error .notPending) := by
  have hkn : knownRecord env id j = ([], .ok r) := by
    rw [run_knownRecord, hrd]
    rfl
  unfold admitEvent decideAdmission
  rw [if_neg (not_lt.mpr hnow), run_bind_ok hkn, ite_not]
  split_ifs <;> rfl

/-- The sweep leaves a decided event as it is. -/
theorem expireAdmissions_spares (hrd : readRecord env j id = .ok r) (hst : r.admission ≠ .pending) :
    readRecord env ((expirePendingAdmissions env now).final j) id = .ok r := by
  refine (expirePendingAdmissions_refuses now).invariant (I := fun j => readRecord env j id = .ok r) ?_ hrd
  rintro j _ hj ⟨path, r', hrd', hpn, rfl⟩
  have hne : id ≠ path := by
    rintro rfl
    cases hj.symm.trans hrd'
    exact hst hpn
  obtain ⟨hget, hform⟩ := readRecord_ok.mp hj
  exact readRecord_ok.mpr ⟨(lookup_insert_ne hne).trans hget, hform⟩

end

/-- **A late decision.** Whatever the time, past the window too, the owner's decision is refused
    alike before and after the sweep exactly if the request is no longer pending. -/
theorem late_refused_iff (cenv : Commerce.Env) (env : Env) (now : Time) (hnow : 0 ≤ now) :
    (∀ s id a, lookup id s.approvals = some a → a.actionID = id →
      ((∃ e, Commerce.grantAction id now s = ([], .error e) ∧
        Commerce.grantAction id now ((Commerce.expirePendingApprovalsLocked cenv now).final s) = ([], .error e)) ↔
          a.state ≠ .pending)) ∧
    ∀ j id r, readRecord env j id = .ok r →
      ((∃ e, admitEvent env id now j = ([], .error e) ∧
        admitEvent env id now ((expirePendingAdmissions env now).final j) = ([], .error e)) ↔
          r.admission ≠ .pending) := by
  refine ⟨fun s id a hget hid => ⟨?_, fun hst => ?_⟩, fun j id r hrd => ⟨?_, fun hst => ?_⟩⟩
  · rintro ⟨e, hrun, -⟩ hst
    rw [run_grantAction hget hid hnow, if_pos hst] at hrun
    cases hrun
  · refine ⟨.approvalDecided, ?_, ?_⟩
    · rw [run_grantAction hget hid hnow, if_neg hst]
    · rw [run_grantAction (expireApprovals_spares hget hst) hid hnow, if_neg hst]
  · rintro ⟨e, hrun, -⟩ hst
    rw [run_admitEvent hrd hnow, if_pos hst] at hrun
    cases hrun
  refine ⟨.notPending, ?_, ?_⟩
  · rw [run_admitEvent hrd hnow, if_neg hst]
  · rw [run_admitEvent (expireAdmissions_spares hrd hst) hnow, if_neg hst]

/-- A request that was asked at second one. -/
def asked (state : Commerce.ApprovalState) : Commerce.Approval where
  actionID := ⟨.message, "hello", none, [], none, none⟩
  effect := .message
  summary := "hello"
  reason := ""
  origins := []
  askedAt := 1
  state

/-- A store with that request. -/
def asking (state : Commerce.ApprovalState) : Commerce.Store where
  approvals := AList.singleton (asked state).actionID (asked state)

/-- An event that arrived then and was denied. -/
def arrived : Record :=
  ⟨⟨7⟩, ⟨1⟩, ⟨1⟩, .denied, 9, none, [1], 1, 0, .unbound, 0, none, .rejected, none, 0, 0, 9, none, 0⟩

theorem late_refused_denied :
    (∃ e, Commerce.grantAction (asked .denied).actionID 604801 (asking .denied) = ([], .error e)) ∧
      ∃ e, admitEvent .plain ⟨7⟩ 604801 { Journal.empty with inbound := AList.singleton ⟨7⟩ arrived } =
        ([], .error e) := by
  obtain ⟨happ, hadm⟩ := late_refused_iff .plain .plain 604801 (by decide)
  obtain ⟨e, he, -⟩ := (happ (asking .denied) _ (asked .denied) (by decide +kernel) rfl).mpr (by decide)
  obtain ⟨e', he', -⟩ := (hadm { Journal.empty with inbound := AList.singleton ⟨7⟩ arrived } ⟨7⟩ arrived
    (by decide +kernel)).mpr (by decide)
  exact ⟨⟨e, he⟩, e', he'⟩

/-- A week later the request is granted, unless the sweep came first. -/
theorem late_granted :
    (Commerce.grantAction (asked .pending).actionID 604801 (asking .pending)).2.isOk ∧
      Commerce.grantAction (asked .pending).actionID 604801
        ((Commerce.expirePendingApprovalsLocked .plain 604801).final (asking .pending)) =
          ([], .error .approvalDecided) := by
  decide +kernel

end Messenger.Eventlog
