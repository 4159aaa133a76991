import Messenger.LocalApi.Server

/-!
# `LocalApi.Writes` — what a request can write, whatever else is being served

`Permitted q s x` says once, for every handler, which write `x` a request `q` can make in the state
`s` it is made in. It is proved of the handlers by rely-guarantee reasoning (`serve_safe`): between
two regions of a handler other requests may do anything but take a binding back (`BindingsKept`),
which is all a handler carries from one region to the next.
-/

namespace Messenger.LocalApi

open Lib
open Lib.Proc (region Safe Only)
open Negotiation (Money Terms Mandate MandateID ExecutionID)
open Firewall (Action ActionID Decision Policy actionID)
open Commerce

/-- The purchase a call proposes. -/
def Call.purchase : Call → Option ExecutionID
  | .requestAction _ action (some mandateID) =>
    match action.effect, action.terms with
    | .spend, some terms => some ⟨mandateID, terms⟩
    | _, _ => none
  | _ => none

variable (s : Store) (a : Approval) (mandateID : MandateID)

/-- An approval whose action may be executed, or was. -/
def Usable : Prop := a.state = .granted ∨ a.state = .spent

instance : DecidablePred Usable := fun a => inferInstanceAs (Decidable (a.state = .granted ∨ a.state = .spent))

/-- An invocation's key is bound to the action. Other actions need no key. -/
def Keyed (id : ActionID) : Prop :=
  id.effect.invokes → ∃ key claim, id.idempotencyKey = some key ∧
    lookup key s.toolExecutions = some claim ∧ claim.actionID = id

/-- The purchase is bound to the action. -/
def BoundTo (execution : ExecutionID) (id : ActionID) : Prop :=
  ∃ claim, lookup execution s.executions = some claim ∧ claim.actionID = id

/-- **What a request can write.** -/
inductive Permitted (q : Request) (s : Store) : Write → Prop
  /-- The action a request proposes is put to the owner. -/
  | filed {policy : Policy} {action : Action} {mandateID : Option MandateID} {a : Approval}
      (hcall : q.call = .requestAction policy action mandateID) (hid : a.actionID = action.content)
      (hpurchase : a.purchase = q.call.purchase) (habsent : lookup a.actionID s.approvals = none)
      (hstate : a.state = .pending) (hkey : Keyed s a.actionID) : Permitted q s (.approval a)
  /-- The action a request proposes is granted by the policy. -/
  | authorised {policy : Policy} {action : Action} {mandateID : Option MandateID} {a : Approval}
      (hcall : q.call = .requestAction policy action mandateID) (hid : a.actionID = action.content)
      (hpurchase : a.purchase = q.call.purchase) (habsent : lookup a.actionID s.approvals = none)
      (hstate : a.state = .granted) (hkey : Keyed s a.actionID)
      (hbound : ∀ execution, a.purchase = some execution → BoundTo s execution a.actionID) :
      Permitted q s (.approval a)
  /-- The owner grants a pending request. -/
  | granted {a : Approval} {seconds : Nat} (hcall : q.call = .grantAction a.actionID)
      (hold : lookup a.actionID s.approvals = some a) (hstate : a.state = .pending) :
      Permitted q s (.approval (a.decided .granted "" seconds))
  /-- A pending request is denied, by the owner or by expiry. -/
  | denied {a : Approval} {reason : String} {seconds : Nat} (hold : lookup a.actionID s.approvals = some a)
      (hstate : a.state = .pending) : Permitted q s (.approval (a.decided .denied reason seconds))
  /-- A granted approval is consumed. -/
  | spent {a : Approval} {seconds : Nat} (hcall : q.call = .claimAction a.actionID)
      (hold : lookup a.actionID s.approvals = some a) (hstate : a.state = .granted) :
      Permitted q s (.approval (a.consumed seconds))
  | execution {execution : ExecutionID} {claim : ExecutionClaim}
      (habsent : lookup execution s.executions = none) : Permitted q s (.execution execution claim)
  | toolExecution {key : IdempotencyKey} {claim : ExecutionClaim}
      (habsent : lookup key s.toolExecutions = none) : Permitted q s (.toolExecution key claim)
  | mandate {stored : StoredMandate} : Permitted q s (.mandate stored)
  | mandateBudget {budgetID : BudgetID} {ledger : Ledger} : Permitted q s (.mandateBudget budgetID ledger)

/-! ## Bindings are kept -/

/-- No binding of an execution or of an invocation key is taken back. -/
structure BindingsKept (s t : Store) : Prop where
  executions : ∀ execution claim, lookup execution s.executions = some claim →
    lookup execution t.executions = some claim
  toolExecutions : ∀ key claim, lookup key s.toolExecutions = some claim → lookup key t.toolExecutions = some claim

theorem BindingsKept.refl : BindingsKept s s := ⟨fun _ _ h => h, fun _ _ h => h⟩

theorem BindingsKept.trans {a b c : Store} (hab : BindingsKept a b) (hbc : BindingsKept b c) : BindingsKept a c :=
  ⟨fun e claim h => hbc.executions e claim (hab.executions e claim h),
    fun key claim h => hbc.toolExecutions key claim (hab.toolExecutions key claim h)⟩

variable {id : ActionID}

theorem BoundTo.kept {s t : Store} {exec : ExecutionID} (h : BoundTo s exec id)
    (hst : BindingsKept s t) : BoundTo t exec id := by
  obtain ⟨claim, hclm, hid⟩ := h
  exact ⟨claim, hst.executions _ _ hclm, hid⟩

theorem Keyed.kept {s t : Store} (h : Keyed s id) (hst : BindingsKept s t) : Keyed t id := by
  intro hinv
  obtain ⟨key, claim, hkey, hclm, hid⟩ := h hinv
  exact ⟨key, claim, hkey, hst.toolExecutions _ _ hclm, hid⟩

theorem Permitted.bindingsKept {q : Request} {s : Store} {x : Write} (h : Permitted q s x) :
    BindingsKept s (Medium.put s x) := by
  cases h with
  | execution habs => exact ⟨fun _ _ h => Dir.lookup_insert_of_absent habs h, fun _ _ h => h⟩
  | toolExecution habs => exact ⟨fun _ _ h => h, fun _ _ h => Dir.lookup_insert_of_absent habs h⟩
  | _ => exact ⟨fun _ _ h => h, fun _ _ h => h⟩

/-! ## The ledger operations -/

/-- A record of some mandate's budget. -/
def Ledgers : Write → Prop
  | .mandateBudget _ _ => True
  | _ => False

theorem recordLedger_only (bid : BudgetID) (ledger : Ledger) :
    (region (recordLedger bid ledger)).run.Only Ledgers := by
  refine Proc.only_region fun s x hx => ?_
  unfold Durable.writes at hx
  rcases recordLedger_cases bid ledger s with ⟨e, hrun⟩ | hrun
  · rw [hrun] at hx; cases hx
  rw [hrun] at hx
  cases List.mem_singleton.mp hx
  trivial

theorem loadLedger_only (bid : BudgetID) : (region (loadLedger bid)).run.Only Ledgers :=
  Proc.only_region fun _ _ hx => by cases hx

theorem lookupMandate_only : (region (lookupMandate mandateID)).run.Only Ledgers :=
  Proc.only_region fun _ _ hx => by cases hx

theorem spendMandate_only : (spendMandate mandateID).run.Only Ledgers := by
  refine only_tryBind (lookupMandate_only mandateID) fun found => ?_
  cases found with
  | none => trivial
  | some stored =>
    simp only
    split_ifs <;> trivial

theorem openBudget_only (total : Money) (bid : BudgetID) : (openBudget total bid).run.Only Ledgers := by
  refine only_tryBind trivial fun _ => only_tryBind (loadLedger_only bid) fun found => ?_
  cases found with
  | none => exact only_tryBind (recordLedger_only _ _) fun _ => trivial
  | some stored =>
    simp only
    split_ifs <;> trivial

theorem reserveMandateBudget_only (maxTotal : Money) (exec : ExecutionID) (price : Money) :
    (reserveMandateBudget mandateID maxTotal exec price).run.Only Ledgers :=
  only_tryBind trivial fun _ => only_tryBind (openBudget_only _ _) fun _ =>
    only_tryBind trivial fun _ => recordLedger_only _ _

theorem mandateBudgetFor_only : (mandateBudgetFor a).run.Only Ledgers := by
  unfold mandateBudgetFor
  cases a.purchase with
  | none => trivial
  | some exec =>
    refine only_tryBind (lookupMandate_only _) fun found => ?_
    cases found with
    | none => trivial
    | some stored =>
      exact only_tryBind trivial fun _ => only_tryBind (openBudget_only _ _) fun _ =>
        only_tryBind trivial fun _ => trivial

theorem commitMandateReservation_only : (commitMandateReservation a).run.Only Ledgers := by
  refine only_tryBind (mandateBudgetFor_only a) fun found => ?_
  cases found with
  | none => trivial
  | some found =>
    simp only
    cases found.2.1.hold found.2.2 with
    | none => trivial
    | some amt => exact only_tryBind trivial fun _ => recordLedger_only _ _

theorem releaseMandateReservation_only : (releaseMandateReservation a).run.Only Ledgers := by
  refine only_tryBind (mandateBudgetFor_only a) fun found => ?_
  cases found with
  | none => trivial
  | some found =>
    simp only
    cases found.2.1.release found.2.2 with
    | none => trivial
    | some next => exact recordLedger_only _ _

theorem releaseExpired_only (as : List Approval) : (releaseExpired as).run.Only Ledgers := by
  induction as with
  | nil => trivial
  | cons a as ih => exact only_tryBind (releaseMandateReservation_only a) fun _ => ih

/-! ## Every handler writes only what it may -/

section
variable {env : Env} {q : Request} {s : Store} {ρ : Type} {Q : ρ → Store → Prop}

/-- A ledger operation is safe among other requests. -/
theorem ledgers_safe {p : Proc Store Write ρ} (h : p.Only Ledgers)
    (hQ : ∀ r t, BindingsKept s t → Q r t) : Safe BindingsKept (Permitted q) p Q s := by
  refine h.safe (fun t x hx => ?_) BindingsKept.refl BindingsKept.trans (fun _ _ hx => hx.bindingsKept) hQ
  cases x with
  | mandateBudget bid ledger => exact .mandateBudget
  | _ => exact hx.elim

/-- **A handler that writes only what it may**, whatever other requests do between its regions. What
    a finished handler leaves is not asked about. -/
abbrev Lawful (q : Request) (p : Process Response) (s : Store) : Prop :=
  Safe BindingsKept (Permitted q) p.run (fun _ _ => True) s

/-- One region of a handler, and the rest of it. -/
theorem lawful_region {α : Type} {m : Durable Store Failure α} {f : α → Process Response}
    (hws : ∀ t, BindingsKept s t → Guarded (Permitted q) t (m.writes t))
    (hf : ∀ a t, Lawful q (f a) t) : Lawful q (region m >>= f) s :=
  safe_region hws (fun _ _ _ _ => trivial) fun _ a _ _ => hf a _

theorem ledgers_safe_then {p : Process Unit} {f : Unit → Process Response} (h : p.run.Only Ledgers)
    (hf : ∀ t, Lawful q (f ()) t) : Lawful q (p >>= f) s :=
  safe_tryBind (ledgers_safe h fun r t _ => match r with
    | .ok () => hf t
    | .error _ => trivial)

/-- A filing writes at most the record it is for. -/
theorem files_guarded {r : ApprovalRequest} {m : Durable Store Failure Approval} {Full : Prop}
    {a : Approval} {t : Store}
    (h : Files env r m Full a t) (ha : lookup r.actionID t.approvals = none → Permitted q t (.approval a)) :
    Guarded (Permitted q) t (m.writes t) := by
  unfold Durable.writes
  rcases h with ⟨o, hrun, -⟩ | ⟨habs, hrun⟩
  · rw [hrun]
    exact along_nil _
  · rw [hrun]
    exact ⟨ha habs, trivial⟩

/-- Binding a name is safe, and the name is bound to the action the claim returns. -/
theorem claimExecution_guarded {κ : Type} [DecidableEq κ] (directory : Store → Dir κ ExecutionClaim)
    (record : κ → ExecutionClaim → Write) (key : κ) (id : ActionID) (now : Time) (t : Store)
    (hput : ∀ claim, directory (Medium.put t (record key claim)) = (directory t).insert key claim)
    (hpermitted : ∀ claim, lookup key (directory t) = none → Permitted q t (record key claim)) :
    Guarded (Permitted q) t ((claimExecution directory record key id now).writes t) ∧
      ∀ bound fresh, (claimExecution directory record key id now).outcome t = .ok (bound, fresh) →
        (∃ claim, lookup key (directory ((claimExecution directory record key id now).final t)) = some claim ∧
          claim.actionID = bound) ∧ (fresh = true → bound = id) := by
  unfold Durable.final Durable.writes Durable.outcome
  rcases claimExecution_cases directory record key id now t with
    ⟨e, hrun⟩ | ⟨claim, hclm, hrun⟩ | ⟨habs, hrun⟩
  · rw [hrun]
    exact ⟨along_nil _, fun _ _ h => by cases h⟩
  · rw [hrun]
    refine ⟨along_nil _, fun bound fresh h => ?_⟩
    cases h
    exact ⟨⟨claim, hclm, rfl⟩, fun h => by cases h⟩
  rw [hrun]
  refine ⟨⟨hpermitted _ habs, trivial⟩, fun bound fresh h => ?_⟩
  cases h
  exact ⟨⟨⟨id, now.toNat⟩, (congrArg (lookup key) (hput _)).trans (lookup_insert _), rfl⟩, fun _ => rfl⟩

/-! ### Spends -/

section
variable {policy : Policy} {action : Action} {mandateID : MandateID} {terms : Terms}
  (hcl : q.call = .requestAction policy action (some mandateID)) (heff : action.effect = .spend)
  (htms : action.terms = some terms)

include heff htms in
theorem spendRequest_purchase (id : ActionID) (decision : Decision) (reason : String) (now : Time) :
    (spendRequest action id decision reason mandateID now).purchase = some ⟨mandateID, terms⟩ := by
  simp only [ApprovalRequest.purchase, spendRequest, heff, htms]

include heff in
/-- A spend needs no invocation key. -/
theorem keyed_of_spend (t : Store) : Keyed t action.content := by
  intro hinv
  have heq : action.content.effect = .spend := heff
  rw [heq] at hinv
  cases hinv

include hcl heff htms

theorem call_purchase : q.call.purchase = some ⟨mandateID, terms⟩ := by
  rw [hcl]
  simp only [Call.purchase, heff, htms]

theorem escalateSpend_safe (env : Env) (decision : Decision) (reason : String) (t : Store) :
    Lawful q (escalateSpend env action action.content decision reason mandateID q.now) t := by
  refine lawful_region (fun u _ => ?_) fun _ _ => trivial
  refine files_guarded (requestApproval_files ..) fun habs =>
    .filed hcl rfl ?_ habs rfl (keyed_of_spend heff u)
  rw [spendRequest_purchase heff htms, call_purchase hcl heff htms]

variable (decision : Decision) (mandate : Mandate)

theorem holdAndRecord_safe {t : Store} (hbd : BoundTo t ⟨mandateID, terms⟩ action.content) : Lawful q
    (holdAndRecord env action terms action.content decision mandateID mandate ⟨mandateID, terms⟩ q.now) t := by
  refine Proc.safe_observe (ledgers_safe (reserveMandateBudget_only _ _ _ _) fun r v hv => ?_)
  have hescalates := escalateSpend_safe hcl heff htms env decision overBudgetReason v
  cases r with
  | error e =>
    cases e with
    | budgetExceeded => exact hescalates
    | _ => trivial
  | ok _ =>
    refine lawful_region (fun w hw => ?_) fun _ _ => trivial
    refine files_guarded (recordAutoAuthorization_files ..) fun habs =>
      .authorised hcl rfl ?_ habs rfl (keyed_of_spend heff w) fun exec hex => ?_
    · rw [spendRequest_purchase heff htms, call_purchase hcl heff htms]
    rw [spendRequest_purchase heff htms] at hex
    cases hex
    exact (hbd.kept hv).kept hw

theorem authoriseSpend_safe (t : Store) : Lawful q
    (authoriseSpend env action terms action.content decision mandateID mandate q.now) t := by
  refine safe_computed (fun _ _ => trivial) fun exec hex => ?_
  obtain ⟨_, -, hex⟩ := seq_ok.mp hex
  cases hex
  have hclm := fun u => claimExecution_guarded (q := q) Store.executions .execution ⟨mandateID, terms⟩ action.content
    q.now u (fun _ => rfl) fun _ => .execution
  refine safe_region (fun u _ => (hclm u).1) (fun _ _ _ _ => trivial) fun u claimed _ hclaimed => ?_
  obtain ⟨bound, fresh⟩ := claimed
  obtain ⟨hbd, hfr⟩ := (hclm u).2 bound fresh hclaimed
  simp only
  split_ifs with htkn
  · trivial
  -- from here on the purchase is bound to this action
  have hid : bound = action.content := by
    cases fresh with
    | true => exact hfr rfl
    | false => exact not_not.mp fun hne => htkn ⟨by decide, hne⟩
  rw [hid] at hbd
  exact holdAndRecord_safe hcl heff htms decision mandate hbd

theorem holdAndEscalate_safe (t : Store) : Lawful q
    (holdAndEscalate env action terms action.content decision mandateID mandate q.now) t := by
  refine safe_computed (fun _ _ => trivial) fun exec _ => ?_
  refine Proc.safe_observe (ledgers_safe (reserveMandateBudget_only _ _ _ _) fun r v _ => ?_)
  have hescalates := escalateSpend_safe hcl heff htms env decision decision.reason v
  cases r with
  | ok _ => exact hescalates
  | error e =>
    cases e with
    | budgetExceeded => exact hescalates
    | _ => trivial

end

theorem requestSpend_safe {policy : Policy} {action : Action} {mandateID : Option MandateID}
    (hcl : q.call = .requestAction policy action mandateID) (heff : action.effect = .spend) :
    Lawful q (requestSpend env policy action mandateID q.now) s := by
  cases mandateID with
  | none => trivial
  | some mandateID =>
    refine safe_tryBind (ledgers_safe (spendMandate_only mandateID) fun r t _ => ?_)
    cases r with
    | error e => trivial
    | ok mandate =>
      refine safe_computed (fun _ _ => trivial) fun decision _ => ?_
      cases htms : action.terms with
      | none => trivial
      | some terms =>
        simp only
        by_cases hrfu : decision.outcome = .refuse
        · rw [if_pos hrfu]; trivial
        rw [if_neg hrfu]
        refine safe_computed (fun _ _ => trivial) fun id hid => ?_
        rw [Firewall.actionID_ok hid]
        split_ifs with hal
        · exact authoriseSpend_safe hcl heff htms decision mandate t
        · exact holdAndEscalate_safe hcl heff htms decision mandate t

/-! ### Everything else -/

section
variable {policy : Policy} {action : Action} {mandateID : Option MandateID}

theorem withKey_safe {next : Process Response} {t : Store}
    (hnx : ∀ u, Keyed u action.content → Lawful q next u) : Lawful q (withKey action action.content q.now next) t := by
  unfold withKey
  split_ifs with hinv
  · cases hkey : action.idempotencyKey with
    | none => exact safe_region (fun _ _ => along_nil _) (fun _ _ _ _ => trivial) fun _ _ _ h => nomatch h
    | some key =>
      have hclm := fun u => claimExecution_guarded (q := q) Store.toolExecutions .toolExecution key action.content q.now
        u (fun _ => rfl) fun _ => .toolExecution
      refine safe_region (fun u _ => (hclm u).1) (fun _ _ _ _ => trivial) fun u claimed _ hclaimed => ?_
      obtain ⟨bound, fresh⟩ := claimed
      obtain ⟨⟨claim, hget, hbd⟩, -⟩ := (hclm u).2 bound fresh hclaimed
      simp only
      split_ifs with htkn
      · trivial
      · exact hnx _ fun _ => ⟨key, claim, hkey, hget, hbd.trans (not_not.mp htkn)⟩
  · exact hnx t fun h => absurd h hinv

variable (hcl : q.call = .requestAction policy action mandateID) (heff : action.effect ≠ .spend)

include heff in
/-- A record of anything but a spend is for no purchase. -/
theorem purchase_of_not_spend {r : ApprovalRequest} (hr : r.effect = action.effect) : r.purchase = none := by
  unfold ApprovalRequest.purchase
  rw [hr]
  split
  · contradiction
  · rfl

include hcl heff

theorem call_purchase_none : q.call.purchase = none := by
  unfold Call.purchase
  split
  · split
    · simp_all
    · rfl
  · rfl

theorem requestOther_safe : Lawful q (requestOther env policy action q.now) s := by
  refine safe_computed (fun _ _ => trivial) fun decision _ => ?_
  by_cases hrfu : decision.outcome = .refuse
  · rw [if_pos hrfu]; trivial
  rw [if_neg hrfu]
  refine safe_computed (fun _ _ => trivial) fun id hid => ?_
  rw [Firewall.actionID_ok hid]
  have hno := call_purchase_none hcl heff
  split_ifs with hal hinv
  · refine withKey_safe fun u hkey => ?_
    have hbuy : (automaticRequest action action.content decision q.now).purchase = none :=
      purchase_of_not_spend heff rfl
    refine lawful_region (fun v hv => ?_) fun _ _ => trivial
    refine files_guarded (recordAutoAuthorization_files ..) fun habs =>
      .authorised hcl rfl (hbuy.trans hno.symm) habs rfl (hkey.kept hv) fun exec h => ?_
    rw [hbuy] at h
    cases h
  · trivial
  · refine withKey_safe fun u hkey => ?_
    refine lawful_region (fun v hv => ?_) fun _ _ => trivial
    exact files_guarded (requestApproval_files ..) fun habs =>
      .filed hcl rfl ((purchase_of_not_spend heff rfl).trans hno.symm) habs rfl (hkey.kept hv)

end

/-! ### Deciding, claiming and expiring -/

theorem claimAction_safe (hcl : q.call = .claimAction id) : Lawful q (claimAction id q.now) s := by
  refine Proc.safe_observe (Proc.safe_atomic fun t _ => ⟨(spendApproval_cases id q.now t).guarded ?_, ?_⟩)
  · rintro a ⟨hold, rfl⟩ hst
    exact .spent hcl hold hst
  cases (spendApproval id q.now).outcome t with
  | ok a => exact ledgers_safe_then (commitMandateReservation_only a) fun _ => trivial
  | error e =>
    simp only
    split_ifs <;> trivial

theorem grant_safe (hcl : q.call = .grantAction id) : Lawful q (grant id q.now) s := by
  refine lawful_region (fun t _ => (decideApproval_cases id .granted "" q.now t).guarded ?_) fun _ _ => trivial
  rintro a ⟨hold, rfl⟩ hst
  exact .granted hcl hold hst

theorem deny_safe {reason : String} : Lawful q (deny id reason q.now) s := by
  refine lawful_region (fun t _ => (denyAction_cases id reason q.now t).guarded ?_) fun a _ =>
    ledgers_safe_then (releaseMandateReservation_only a) fun _ => trivial
  rintro a ⟨hold, rfl⟩ hst
  exact .denied hold hst

/-- Denying distinct pending requests one after the other: none of the denials touches another
    request. -/
theorem denials_guarded {as : List Approval} (hnd : (as.map fun a => a.actionID).Nodup) {t : Store}
    (hpn : ∀ a ∈ as, lookup a.actionID t.approvals = some a ∧ a.state = .pending) (reason : String)
    (sec : Nat) : Guarded (Permitted q) t (as.map fun a => .approval (a.decided .denied reason sec)) := by
  induction as generalizing t with
  | nil => exact along_nil _
  | cons a as ih =>
    obtain ⟨hold, hst⟩ := hpn a (List.mem_cons_self ..)
    obtain ⟨hfst, hre⟩ := List.nodup_cons.mp hnd
    refine ⟨.denied hold hst, ih hre fun b hb => ?_⟩
    obtain ⟨hget, hb'⟩ := hpn b (List.mem_cons_of_mem _ hb)
    have hne : b.actionID ≠ a.actionID := fun h => hfst (List.mem_map.mpr ⟨b, hb, h⟩)
    refine ⟨?_, hb'⟩
    show lookup b.actionID (t.approvals.insert a.actionID _) = some b
    rw [lookup_insert_ne hne]
    exact hget

theorem mem_overdue {a : Approval} {now : Time} (h : a ∈ overdue env s now) :
    lookup a.actionID s.approvals = some a ∧ a.state = .pending := by
  obtain ⟨hrd, hdue⟩ := List.mem_filter.mp h
  simp only [Bool.and_eq_true, decide_eq_true_eq] at hdue
  exact ⟨mem_readableApprovals.mp hrd, hdue.1⟩

theorem nodup_overdue (env : Env) (s : Store) (now : Time) : ((overdue env s now).map fun a => a.actionID).Nodup :=
  (nodup_readableApprovals env s).sublist (List.filter_sublist.map _)

theorem expire_safe : Lawful q (expire env q.now) s := by
  refine safe_tryBind (safe_region (fun t _ => ?_) (fun _ _ _ _ => trivial) fun t expired _ _ => ?_)
  · unfold Durable.writes
    rcases expirePendingApprovalsLocked_cases env q.now t with ⟨e, hrun⟩ | hrun
    · rw [hrun]; exact along_nil _
    · rw [hrun]
      exact denials_guarded (nodup_overdue env t q.now) (fun a ha => mem_overdue ha) _ _
  · refine safe_tryBind (ledgers_safe (releaseExpired_only expired) fun r u _ => ?_)
    cases r <;> trivial

theorem places_guarded {m : Durable Store Failure StoredMandate} {t : Store} (h : Places m t) :
    Guarded (Permitted q) t (m.writes t) := by
  unfold Durable.writes
  rcases h with ⟨r, hrun⟩ | ⟨stored, hrun⟩
  · rw [hrun]; exact along_nil _
  · rw [hrun]; exact ⟨.mandate, trivial⟩

theorem place_safe {mandateID : MandateID} : Lawful q (place mandateID q.now) s :=
  lawful_region (fun t _ => places_guarded (placeMandate_cases _ _ t)) fun _ _ =>
    safe_computed (fun _ _ => trivial) fun _ _ => trivial

theorem revoke_safe {mandateID : MandateID} : Lawful q (revoke mandateID q.now) s :=
  lawful_region (fun t _ => places_guarded (revokeMandate_cases _ _ t)) fun _ _ => trivial

end

theorem handle_safe (env : Env) (q : Request) (s : Store) : Lawful q (handle env q) s := by
  unfold handle
  cases hcl : q.call with
  | requestAction policy action mandateID =>
    simp only [requestAction]
    split_ifs with heff
    · exact requestSpend_safe hcl heff
    · exact requestOther_safe hcl heff
  | grantAction id => exact grant_safe hcl
  | denyAction id reason => exact deny_safe
  | claimAction id => exact claimAction_safe hcl
  | placeMandate mandateID => exact place_safe
  | revokeMandate mandateID => exact revoke_safe
  | expire => exact expire_safe

/-- **Every write of every handler is permitted**, whatever the other handlers do between its
    regions. -/
theorem serve_safe (env : Env) (q : Request) (s : Store) :
    Safe BindingsKept (Permitted q) (serve env q) (fun _ _ => True) s :=
  Proc.safe_bind ((handle_safe env q s).mono fun r _ _ =>
    match r with
    | .ok _ => trivial
    | .error _ => trivial)

end Messenger.LocalApi
