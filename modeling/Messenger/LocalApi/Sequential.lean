import Messenger.LocalApi.Books

/-!
# `LocalApi.Sequential` — what one request does when requests are served one at a time

`Change env q s t` says once, for every handler, how approvals and ledgers differ after a request
`q` that was served with nothing in between. `serve_change` proves it of the handlers, together with
`Books`, which every request keeps.

The one change with a price is `held`: a request for a purchase holds the price, and the record is
filed only afterwards.
-/

namespace Messenger.LocalApi

open Lib
open Lib.Proc (region)
open Negotiation (Terms Mandate MandateID ExecutionID executionID)
open Firewall (Action ActionID Decision Policy actionID evaluateSpend)
open Commerce

variable (env : Env)

/-- The store after requests were served one after the other, on an installation that starts empty. -/
def served (qs : List Request) : Store := run (fun s q => (serve env q).final s) {} qs

/-- A record that was not there is. -/
structure Files (a : Approval) (s t : Store) : Prop where
  absent : lookup a.actionID s.approvals = none
  approvals : t.approvals = s.approvals.insert a.actionID a

/-- The undecided requests a request settles without an authorisation. -/
def denials (s : Store) (q : Request) : List Approval :=
  match q.call with
  | .denyAction id _ => (lookup id s.approvals).toList.filter fun a => a.state = .pending
  | .expire => overdue env s q.now
  | _ => []

theorem mem_denials {env : Env} {s : Store} {q : Request} {a : Approval} (hs : Books s)
    (h : a ∈ denials env s q) : lookup a.actionID s.approvals = some a ∧ a.state = .pending := by
  unfold denials at h
  split at h
  · obtain ⟨hmem, hst⟩ := List.mem_filter.mp h
    have hget := Option.mem_toList.mp hmem
    rw [hs.own _ a hget]
    exact ⟨hget, of_decide_eq_true hst⟩
  · exact mem_overdue h
  · cases h

/-- **What one request does to approvals and ledgers.** -/
inductive Change (env : Env) (q : Request) (s t : Store) : Prop
  | quiet (h : Quiet s t)
  /-- A record is filed, and no price is held for it. -/
  | filed {a : Approval} (hfiles : Files a s t) (hledgers : ∀ m, ledgerOf t m = ledgerOf s m) (hmanual : ¬Automatic a)
  /-- The price of a purchase is held; a record of it is filed if it can be. -/
  | held {policy : Policy} {action : Action} {mandateID : Option MandateID} {execution : ExecutionID}
      (hcall : q.call = .requestAction policy action mandateID) (hpurchase : q.call.purchase = some execution)
      (hholding : Holding execution s t)
      (hfiled : (t.approvals = s.approvals ∧ ¬CanFile env s action.content q.now) ∨
        ∃ a, Files a s t ∧ a.purchase = some execution ∧ (a.state = .pending ∧ ¬Automatic a ∨ a.state = .granted))
  /-- The owner grants a pending request. -/
  | granted {a : Approval} {seconds : Nat} (hold : lookup a.actionID s.approvals = some a)
      (hstate : a.state = .pending)
      (happrovals : t.approvals = s.approvals.insert a.actionID (a.decided .granted "" seconds))
      (hledgers : ∀ m, ledgerOf t m = ledgerOf s m)
  /-- Pending requests are denied, and the holds of their purchases freed. -/
  | denied (reason : String) (seconds : Nat) (hcall : q.call.purchase = none)
      (hdenied : ∀ a ∈ denials env s q, lookup a.actionID t.approvals = some (a.decided .denied reason seconds))
      (hothers : ∀ id, (∀ a ∈ denials env s q, a.actionID ≠ id) → lookup id t.approvals = lookup id s.approvals)
      (hspent : ∀ m, (ledgerOf t m).spent = (ledgerOf s m).spent)
      (hhold : ∀ m execution, (ledgerOf t m).hold execution
        = if ∃ a ∈ denials env s q, a.purchase = some execution then none else (ledgerOf s m).hold execution)
  /-- A granted approval is consumed, and the hold of its purchase spent. -/
  | claimed {a : Approval} {seconds : Nat} (hcall : q.call.purchase = none)
      (hold : lookup a.actionID s.approvals = some a) (hstate : a.state = .granted)
      (happrovals : t.approvals = s.approvals.insert a.actionID (a.consumed seconds))
      (hspent : ∀ m, (ledgerOf t m).spent
        = (ledgerOf s m).spent + a.purchase.elim 0 (Dir.amount (ledgerOf s m).reserved))
      (hhold : ∀ m execution, (ledgerOf t m).hold execution
        = if a.purchase = some execution then none else (ledgerOf s m).hold execution)

/-- The store a request is served in keeps its books and changes as the request can change it. -/
structure Serves (q : Request) (s t : Store) : Prop where
  books : Books t
  change : Change env q s t

/-- What is left of a handler, from `t`, serves the request that found `s`. -/
abbrev EndsServing (q : Request) (s : Store) (p : Process Response) (t : Store) : Prop :=
  p.run.Ends (fun _ u => Serves env q s u) t

section
variable {env : Env} {q : Request} {s t : Store}

theorem serves_quiet (ht : Books t) (hqt : Quiet s t) : Serves env q s t := ⟨ht, .quiet hqt⟩

theorem Books.serves (hs : Books s) : Serves env q s s := serves_quiet hs (Quiet.refl s)

/-- A record is filed by a request that changed nothing else. -/
theorem serves_filed (ht : Books t) (hqt : Quiet s t) {a : Approval}
    (habs : lookup a.actionID t.approvals = none)
    (hbuy : ∀ exec, a.purchase = some exec → Accountable t exec) (hmnl : ¬Automatic a) :
    Serves env q s (Medium.put t (.approval a)) := by
  refine ⟨ht.approval hbuy fun _ => hmnl, .filed ⟨?_, ?_⟩ hqt.ledgers hmnl⟩
  · rw [← hqt.approvals]
    exact habs
  · show t.approvals.insert a.actionID a = _
    rw [hqt.approvals]

/-! ## Requesting a purchase -/

section
variable {policy : Policy} {action : Action} {mandateID : MandateID} {mandate : Mandate} {terms : Terms}
  {decision : Decision}

/-- What is known once a spend was judged and not refused. -/
structure Judged (env : Env) (q : Request) (policy : Policy) (action : Action)
    (mandateID : MandateID) (mandate : Mandate) (terms : Terms) (decision : Decision) : Prop where
  call : q.call = .requestAction policy action (some mandateID)
  usable : toMandate mandateID = .ok mandate
  judged : evaluateSpend env.check policy mandate action q.now = .ok decision
  accepted : decision.outcome ≠ .refuse
  buys : action.terms = some terms

namespace Judged

variable (h : Judged env q policy action mandateID mandate terms decision)
include h

theorem effect : action.effect = .spend := (Firewall.evaluateSpend_ok h.judged h.accepted).1

theorem complete : terms.validate = .ok () := by
  obtain ⟨-, -, -, terms', -, htms, hterms, -⟩ := Firewall.evaluateSpend_ok h.judged h.accepted
  cases h.buys.symm.trans htms
  exact hterms

theorem purchase : q.call.purchase = some ⟨mandateID, terms⟩ := call_purchase h.call h.effect h.buys

theorem total : mandate.maxTotal = totalOf mandateID ∧ (totalOf mandateID).validate = .ok () := by
  have hman := h.usable
  obtain ⟨_, hval, hman⟩ := seq_ok.mp hman
  cases hman
  iterate 3 obtain ⟨_, -, hval⟩ := seq_ok.mp hval
  obtain ⟨_, htot, -⟩ := seq_ok.mp hval
  exact ⟨rfl, htot⟩

theorem execution : executionID mandateID terms = .ok ⟨mandateID, terms⟩ := seq_ok.mpr ⟨(), h.complete, rfl⟩

/-- The record filed for a judged spend is of its purchase. -/
theorem request_purchase (id : ActionID) (reason : String) :
    (spendRequest action id decision reason mandateID q.now).purchase = some ⟨mandateID, terms⟩ :=
  spendRequest_purchase h.effect h.buys ..

/-- Under a standing mandate the ledgers can account for the purchase. -/
theorem accountable (hsn : Standing mandateID t) {id : ActionID} {reason : String} {execution : ExecutionID}
    (hbuy : (spendRequest action id decision reason mandateID q.now).purchase = some execution) :
    Accountable t execution := by
  rw [h.request_purchase] at hbuy
  cases hbuy
  exact ⟨hsn, h.complete⟩

/-- A price is held, and the record that follows can not be filed. -/
theorem serves_held {u : Store} (hu : Books u) (hqt : Quiet s t) (happrovals : u.approvals = t.approvals)
    (hhe : Holding ⟨mandateID, terms⟩ t u) (hfu : ¬CanFile env u action.content q.now) : Serves env q s u := by
  have hsm : u.approvals = s.approvals := happrovals.trans hqt.approvals
  refine ⟨hu, .held h.call h.purchase (hhe.congr (fun m => (hqt.ledgers m).symm) fun _ => rfl) ?_⟩
  exact .inl ⟨hsm, fun hfe => hfu (hfe.congr hsm)⟩

/-- A price is held, and the record is filed. -/
theorem serves_held_filed {u : Store} (hu : Books u) (hqt : Quiet s t) (happrovals : u.approvals = t.approvals)
    (hsn : Standing mandateID u) (hhe : Holding ⟨mandateID, terms⟩ t u) {a : Approval} {reason : String}
    (ha : a.toApprovalRequest = spendRequest action action.content decision reason mandateID q.now)
    (habs : lookup a.actionID u.approvals = none)
    (hst : a.state = .pending ∧ ¬Automatic a ∨ a.state = .granted) :
    Serves env q s (Medium.put u (.approval a)) := by
  have hsm : u.approvals = s.approvals := happrovals.trans hqt.approvals
  have hbuy : a.purchase = some ⟨mandateID, terms⟩ := by rw [ha]; exact h.request_purchase _ _
  refine ⟨hu.approval (fun exec hex => ?_) fun hpn => ?_, .held h.call h.purchase
    (hhe.congr (fun m => (hqt.ledgers m).symm) fun _ => rfl) (.inr ⟨a, ⟨?_, ?_⟩, hbuy, hst⟩)⟩
  · rw [ha] at hex
    exact h.accountable hsn hex
  · rcases hst with ⟨-, hmnl⟩ | hgr
    · exact hmnl
    · rw [hgr] at hpn
      cases hpn
  · rw [← hsm]
    exact habs
  · show u.approvals.insert a.actionID a = _
    rw [hsm]

end Judged

variable (h : Judged env q policy action mandateID mandate terms decision)
include h

/-- Putting a judged spend to the owner files it, or could not file it. -/
theorem escalateSpend_ends {u : Store} {reason : String} (hrsn : Asks reason)
    {Q : Except Failure Response → Store → Prop} (hfu : ¬CanFile env u action.content q.now → ∀ r, Q r u)
    (hfl : ∀ a : Approval, a.toApprovalRequest = spendRequest action action.content decision reason mandateID q.now →
      lookup a.actionID u.approvals = none → a.state = .pending → ¬Automatic a →
      ∀ r, Q r (Medium.put u (.approval a))) :
    (escalateSpend env action action.content decision reason mandateID q.now).run.Ends Q u := by
  have hval : unixSeconds q.now ≠ 0 → validateApprovalRequest env.check
      (spendRequest action action.content decision reason mandateID q.now) = .ok () :=
    spendRequest_valid h.judged h.accepted hrsn.nonempty hrsn.bounded
  exact files_ends (requestApproval_files ..) (fun hstop => hfu (not_canFile hval id hstop))
    fun habs => hfl _ rfl habs rfl fun hau => hrsn.manual hau.2

/-- Asking the owner without a hold. -/
theorem escalateSpend_serves {u : Store} (hu : Books u) (hqt : Quiet s u)
    (hsn : Standing mandateID u) {reason : String} (hrsn : Asks reason) :
    (escalateSpend env action action.content decision reason mandateID q.now).run.Ends
      (fun _ v => Serves env q s v) u := by
  refine escalateSpend_ends h hrsn (fun _ _ => serves_quiet hu hqt) fun a ha habs _ hmnl _ => ?_
  refine serves_filed hu hqt habs (fun exec hex => ?_) hmnl
  rw [ha] at hex
  exact h.accountable hsn hex

/-- A spend the owner decides. -/
theorem holdAndEscalate_serves (ht : Books t) (hqt : Quiet s t) (hsn : Standing mandateID t)
    (hal : decision.outcome ≠ .allow) :
    EndsServing env q s (holdAndEscalate env action terms action.content decision mandateID mandate q.now) t := by
  have hasks := evaluateSpend_asks h.judged h.accepted hal
  obtain ⟨htot, hval⟩ := h.total
  unfold holdAndEscalate
  rw [h.execution, htot]
  refine ends_observe ((ht.reserve_ends ⟨mandateID, terms⟩ hval).mono ?_)
  rintro r u ⟨hu, happrovals, hmandates, ⟨rfl, hhe⟩ | ⟨e, rfl, hld⟩⟩
  · exact escalateSpend_ends h hasks (fun hfu _ => h.serves_held hu hqt happrovals hhe hfu)
      fun a ha habs hpn hmnl _ => h.serves_held_filed hu hqt happrovals (hsn.congr hmandates)
        hhe ha habs (.inl ⟨hpn, hmnl⟩)
  have hquiet' : Quiet s u := hqt.trans ⟨happrovals, hld⟩
  split
  · exact escalateSpend_serves h hu hquiet' (hsn.congr hmandates) hasks
  · exact serves_quiet hu hquiet'
  · next hok => cases hok

theorem holdAndRecord_serves (ht : Books t) (hqt : Quiet s t) (hsn : Standing mandateID t) :
    EndsServing env q s
      (holdAndRecord env action terms action.content decision mandateID mandate ⟨mandateID, terms⟩ q.now) t := by
  obtain ⟨htot, hval⟩ := h.total
  unfold holdAndRecord
  rw [htot]
  refine ends_observe ((ht.reserve_ends ⟨mandateID, terms⟩ hval).mono ?_)
  rintro r u ⟨hu, happrovals, hmandates, ⟨rfl, hhe⟩ | ⟨e, rfl, hld⟩⟩
  · have hrec : unixSeconds q.now ≠ 0 → validateApprovalRequest env.check
        (spendRequest action action.content decision automaticSpendReason mandateID q.now) = .ok () :=
      spendRequest_valid h.judged h.accepted (by decide) (by decide)
    exact files_ends (recordAutoAuthorization_files ..)
      (fun hstop _ => h.serves_held hu hqt happrovals hhe (not_canFile hrec False.elim hstop))
      fun habs _ => h.serves_held_filed hu hqt happrovals (hsn.congr hmandates) hhe rfl habs (.inr rfl)
  have hquiet' : Quiet s u := hqt.trans ⟨happrovals, hld⟩
  have hasks : Asks overBudgetReason := by decide
  split
  · exact escalateSpend_serves h hu hquiet' (hsn.congr hmandates) hasks
  · exact serves_quiet hu hquiet'
  · next hok => cases hok

/-- A spend the policy allows. -/
theorem authoriseSpend_serves (hs : Books s) (hsn : Standing mandateID s) :
    EndsServing env q s (authoriseSpend env action terms action.content decision mandateID mandate q.now) s := by
  unfold authoriseSpend
  rw [h.execution]
  have hclm := claimExecution_cases Store.executions Write.execution ⟨mandateID, terms⟩ action.content q.now s
  rcases hclm with ⟨e, hrun⟩ | ⟨claim, -, hrun⟩ | ⟨-, hrun⟩
  · exact ends_regionError hrun (hs.serves)
  · refine ends_regionBind hrun ?_
    exact ends_ite (fun _ => hs.serves) fun _ => holdAndRecord_serves h hs (Quiet.refl s) hsn
  · refine ends_regionBind hrun ?_
    exact holdAndRecord_serves h (hs.execution _ _) ⟨rfl, fun _ => rfl⟩ (hsn.congr rfl)

end

theorem spendMandate_ends (mandateID : MandateID) (s : Store) :
    (spendMandate mandateID).run.Ends
      (fun r t => t = s ∧ ∀ mandate, r = .ok mandate →
        toMandate mandateID = .ok mandate ∧ ∃ stored, readMandate s mandateID = .ok (some stored)) s := by
  have hrun := run_lookupMandate mandateID s
  cases hrd : readMandate s mandateID with
  | error e =>
    rw [hrd] at hrun
    exact ends_regionError hrun ⟨rfl, fun _ h => nomatch h⟩
  | ok found =>
    rw [hrd] at hrun
    refine ends_regionBind hrun ?_
    cases found with
    | none => exact ⟨rfl, fun _ h => nomatch h⟩
    | some stored =>
      refine ends_ite (fun _ => ⟨rfl, fun _ h => nomatch h⟩) fun _ => ?_
      rw [(readMandate_some.mp hrd).2]
      exact ⟨rfl, fun mandate h => ⟨h, stored, rfl⟩⟩

variable {action : Action} {id : ActionID} (hs : Books s)

include hs

/-- The thread for a spend. -/
theorem requestSpend_serves {policy : Policy} {mandateID : Option MandateID}
    (hcl : q.call = .requestAction policy action mandateID) :
    EndsServing env q s (requestSpend env policy action mandateID q.now) s := by
  have hqt : Serves env q s s := hs.serves
  cases mandateID with
  | none => exact hqt
  | some mandateID =>
    refine ends_tryBind ((spendMandate_ends mandateID s).mono ?_)
    rintro r t ⟨rfl, hman⟩
    cases r with
    | error e => exact hqt
    | ok mandate =>
      obtain ⟨huse, hkn⟩ := hman mandate rfl
      refine ends_computedBind (fun _ _ => hqt) fun decision hdecided => ?_
      cases htms : action.terms with
      | none => exact hqt
      | some terms =>
        refine ends_ite (fun _ => hqt) fun hrfu => ?_
        have h : Judged env q policy action mandateID mandate terms decision :=
          ⟨hcl, huse, hdecided, hrfu, htms⟩
        have hsn : Standing mandateID t := ⟨hkn, h.total.2⟩
        refine ends_computedBind (fun _ _ => hqt) fun id hid => ?_
        rw [Firewall.actionID_ok hid]
        exact ends_ite (fun _ => authoriseSpend_serves h hs hsn)
          fun hal => holdAndEscalate_serves h hs (Quiet.refl t) hsn hal

/-! ## Requesting anything else -/

theorem withKey_serves {next : Process Response} (hnx : ∀ t, Books t → Quiet s t → EndsServing env q s next t) :
    EndsServing env q s (withKey action id q.now next) s := by
  unfold withKey
  refine ends_ite (fun _ => ?_) fun _ => hnx s hs (Quiet.refl s)
  cases action.idempotencyKey with
  | none =>
    have hrun : claimToolExecution none id q.now s = ([], .error (.other "invalid execution identifier")) := rfl
    exact ends_regionError hrun (hs.serves)
  | some key =>
    have hclm := claimExecution_cases Store.toolExecutions Write.toolExecution key id q.now s
    rcases hclm with ⟨e, hrun⟩ | ⟨claim, -, hrun⟩ | ⟨-, hrun⟩
    · exact ends_regionError hrun (hs.serves)
    · refine ends_regionBind hrun ?_
      exact ends_ite (fun _ => hs.serves) fun _ => hnx s hs (Quiet.refl s)
    refine ends_regionBind hrun ?_
    simp only [ne_eq, not_true_eq_false, if_false]
    exact hnx _ (hs.toolExecution _ _) ⟨rfl, fun _ => rfl⟩

omit hs in
/-- Filing a record of no purchase. -/
theorem serves_other (ht : Books t) (hqt : Quiet s t) (heff : action.effect ≠ .spend) {a : Approval}
    (ha : a.effect = action.effect) (habs : lookup a.actionID t.approvals = none) :
    Serves env q s (Medium.put t (.approval a)) := by
  refine serves_filed ht hqt habs (fun exec hex => ?_) fun hau => heff (ha.symm.trans hau.1)
  rw [purchase_of_not_spend heff ha] at hex
  cases hex

/-- The thread for everything but a spend. -/
theorem requestOther_serves {policy : Policy} (heff : action.effect ≠ .spend) :
    EndsServing env q s (requestOther env policy action q.now) s := by
  have hqt : Serves env q s s := hs.serves
  refine ends_computedBind (fun _ _ => hqt) fun decision _ => ?_
  refine ends_ite (fun _ => hqt) fun _ => ends_computedBind (fun _ _ => hqt) fun id _ => ?_
  refine ends_ite (fun _ => ends_ite (fun _ => withKey_serves hs fun t ht hquiet => ?_) fun _ => hqt)
    fun _ => withKey_serves hs fun t ht hquiet => ?_
  · exact files_ends (recordAutoAuthorization_files ..) (fun _ _ => serves_quiet ht hquiet)
      fun habs _ => serves_other ht hquiet heff rfl habs
  · exact files_ends (requestApproval_files ..) (fun _ _ => serves_quiet ht hquiet)
      fun habs _ => serves_other ht hquiet heff rfl habs

/-! ## Deciding, claiming and expiring -/

theorem grant_serves : EndsServing env q s (grant id q.now) s := by
  rcases decideApproval_cases id .granted "" q.now s with ⟨e, hrun⟩ | ⟨a, ⟨hold, rfl⟩, hst, hrun⟩
  · exact ends_regionError hrun (hs.serves)
  · refine ends_regionBind hrun ⟨?_, .granted hold hst rfl fun _ => rfl⟩
    exact hs.approval (fun exec hex => hs.filed _ a exec hold hex) fun h => nomatch h

/-- What denying distinct pending requests leaves. -/
structure Denied (as : List Approval) (reason : String) (seconds : Nat) (s t : Store) : Prop where
  books : Books t
  mandates : t.mandates = s.mandates
  ledgers : ∀ m, ledgerOf t m = ledgerOf s m
  denied : ∀ a ∈ as, lookup a.actionID t.approvals = some (a.decided .denied reason seconds)
  others : ∀ id, (∀ a ∈ as, a.actionID ≠ id) → lookup id t.approvals = lookup id s.approvals

variable (as : List Approval)

theorem denied_puts (hnd : (as.map fun a => a.actionID).Nodup)
    (hpn : ∀ a ∈ as, lookup a.actionID s.approvals = some a ∧ a.state = .pending) (reason : String) (sec : Nat) :
    Denied as reason sec s (puts s (as.map fun a => .approval (a.decided .denied reason sec))) := by
  induction as generalizing s with
  | nil => exact ⟨hs, rfl, fun _ => rfl, fun _ h => (by cases h), fun _ _ => rfl⟩
  | cons a as ih =>
    obtain ⟨hold, -⟩ := hpn a (List.mem_cons_self ..)
    obtain ⟨hfst, hnd⟩ := List.nodup_cons.mp hnd
    have hne : ∀ b ∈ as, b.actionID ≠ a.actionID := fun b hb h => hfst (List.mem_map.mpr ⟨b, hb, h⟩)
    -- the first denial touches none of the other records
    have ht : Books (Medium.put s (.approval (a.decided .denied reason sec))) :=
      hs.approval (fun exec hex => hs.filed _ a exec hold hex) fun h => nomatch h
    have hget : ∀ id, id ≠ a.actionID →
        lookup id (Medium.put s (Write.approval (a.decided .denied reason sec))).approvals
          = lookup id s.approvals := fun id hid => lookup_insert_ne hid
    have hre := ih ht hnd fun b hb => by
      rw [hget _ (hne b hb)]
      exact hpn b (List.mem_cons_of_mem _ hb)
    refine ⟨hre.books, hre.mandates, hre.ledgers, fun b hb => ?_, fun id hid => ?_⟩
    · rcases List.mem_cons.mp hb with rfl | hb
      · refine (hre.others b.actionID fun c hc => hne c hc).trans ?_
        exact lookup_insert _
      · exact hre.denied b hb
    · refine (hre.others id fun b hb => hid b (List.mem_cons_of_mem _ hb)).trans (hget id ?_)
      exact fun h => hid a (List.mem_cons_self ..) h.symm

/-- The purchases some approvals are for. -/
def purchases : List ExecutionID := as.filterMap fun a => a.purchase

omit hs in
theorem purchases_cons (a : Approval) (as : List Approval) :
    purchases (a :: as) = a.purchase.toList ++ purchases as := by
  unfold purchases
  rw [List.filterMap_cons]
  cases a.purchase <;> rfl

omit hs in
theorem mem_purchases {execution : ExecutionID} {as : List Approval} :
    execution ∈ purchases as ↔ ∃ a ∈ as, a.purchase = some execution := List.mem_filterMap

omit hs in
/-- A decision does not change what is bought. -/
theorem purchases_decided (state : ApprovalState) (reason : String) (sec : Nat) : purchases
    (as.map fun a => a.decided state reason sec) = purchases as := by
  unfold purchases
  rw [List.filterMap_map]
  rfl

omit hs in
/-- Denials followed by the release of their holds. -/
theorem serves_denied {as : List Approval} {reason : String} {sec : Nat} (hcl : q.call.purchase = none)
    (hdenials : denials env s q = as) (hden : Denied as reason sec s t) {u : Store} (hu : Books u)
    (hrld : Released (purchases as) t u) :
    Serves env q s u := by
  subst hdenials
  refine ⟨hu, .denied reason sec hcl (fun a ha => ?_) (fun id hid => ?_) (fun m => ?_) fun m exec => ?_⟩
  · rw [hrld.approvals]
    exact hden.denied a ha
  · rw [hrld.approvals]
    exact hden.others id hid
  · rw [hrld.spent, hden.ledgers]
  · rw [hrld.hold, hden.ledgers]
    simp only [mem_purchases]

theorem deny_serves {reason : String} (hcl : q.call = .denyAction id reason) :
    EndsServing env q s (deny id reason q.now) s := by
  rcases denyAction_cases id reason q.now s with ⟨e, hrun⟩ | ⟨a, ⟨hold, rfl⟩, hst, hrun⟩
  · exact ends_regionError hrun (hs.serves)
  have hdenials : denials env s q = [a] := by
    simp only [denials, hcl, hold, Option.toList_some, List.filter_cons, hst, decide_true, if_true, List.filter_nil]
  have hden := denied_puts hs [a] (List.nodup_singleton _) (by simpa using ⟨hold, hst⟩) reason q.now.toNat
  refine ends_regionBind hrun (ends_tryBind ?_)
  refine (hden.books.release_ends fun exec hex => ?_).mono ?_
  · exact (hs.filed _ a exec hold hex).congr hden.mandates
  rintro r u ⟨rfl, hu, hrld⟩
  refine serves_denied (by rw [hcl]; rfl) hdenials hden hu ?_
  exact hrld

theorem releaseExpired_ends (has : ∀ a ∈ as, ∀ exec, a.purchase = some exec → Accountable s exec) :
    (releaseExpired as).run.Ends (fun _ t => Books t ∧ Released (purchases as) s t) s := by
  induction as generalizing s with
  | nil => exact ⟨hs, Released.refl s⟩
  | cons a as ih =>
    refine ends_tryBind ((hs.release_ends (has a (List.mem_cons_self ..))).mono ?_)
    rintro r t ⟨rfl, ht, hrld⟩
    refine (ih ht fun b hb exec hex => ?_).mono ?_
    · exact (has b (List.mem_cons_of_mem _ hb) exec hex).congr hrld.mandates
    rintro _ u ⟨hu, hre⟩
    refine ⟨hu, ?_⟩
    rw [purchases_cons]
    exact hrld.trans hre

theorem expire_serves (hcl : q.call = .expire) : EndsServing env q s (expire env q.now) s := by
  rcases expirePendingApprovalsLocked_cases env q.now s with ⟨e, hrun⟩ | hrun
  · exact ends_tryBind (ends_regionError hrun (hs.serves))
  have hdenials : denials env s q = overdue env s q.now := by simp only [denials, hcl]
  have hden := denied_puts hs _ (nodup_overdue env s q.now) (fun a ha => mem_overdue ha) expiryReason q.now.toNat
  refine ends_tryBind (ends_regionBind hrun (ends_tryBind ?_))
  refine (releaseExpired_ends hden.books _ fun b hb exec hex => ?_).mono ?_
  · obtain ⟨a, ha, rfl⟩ := List.mem_map.mp hb
    exact (hs.filed _ a exec (mem_overdue ha).1 hex).congr hden.mandates
  rintro r u ⟨hu, hrld⟩
  rw [purchases_decided] at hrld
  have hserve := serves_denied (by rw [hcl]; rfl) hdenials hden hu hrld
  cases r with
  | ok _ => exact hserve
  | error e => exact hserve

theorem claimAction_serves (hcl : q.call = .claimAction id) : EndsServing env q s (claimAction id q.now) s := by
  rcases spendApproval_cases id q.now s with ⟨e, hrun⟩ | ⟨a, ⟨hold, rfl⟩, hst, hrun⟩
  · refine ends_observe (Proc.ends_region hrun ?_)
    have hqt : Serves env q s s := hs.serves
    simp only
    split_ifs <;> exact hqt
  have hfl : ∀ execution, a.purchase = some execution → Accountable s execution :=
    fun execution hex => hs.filed _ a execution hold hex
  have ht : Books (Medium.put s (.approval (a.consumed q.now.toNat))) := hs.approval hfl fun h => nomatch h
  refine ends_observe (Proc.ends_region hrun (ends_tryBind ?_))
  refine (ht.commit_ends fun execution hex => (hfl execution hex).congr rfl).mono ?_
  rintro r u ⟨rfl, hu, hcom⟩
  exact ⟨hu, .claimed (by rw [hcl]; rfl) hold hst hcom.approvals hcom.spent hcom.hold⟩

/-! ## Mandates -/

theorem places_serves {m : Durable Store Failure StoredMandate} {f : StoredMandate → Process Response} (h : Places m s)
    (hf : ∀ stored t, Serves env q s t → EndsServing env q s (f stored) t) :
    EndsServing env q s (region m >>= f) s := by
  rcases h with ⟨r, hrun⟩ | ⟨stored, hrun⟩
  · cases r with
    | ok stored => exact ends_regionBind hrun (hf stored s hs.serves)
    | error e => exact ends_regionError hrun hs.serves
  · exact ends_regionBind hrun (hf stored _ (serves_quiet (hs.mandate _) ⟨rfl, fun _ => rfl⟩))

theorem place_serves {mandateID : MandateID} : EndsServing env q s (place mandateID q.now) s :=
  places_serves hs (placeMandate_cases ..) fun _ _ ht => ends_computedBind (fun _ _ => ht) fun _ _ => ht

theorem revoke_serves {mandateID : MandateID} : EndsServing env q s (revoke mandateID q.now) s :=
  places_serves hs (revokeMandate_cases ..) fun _ _ ht => ht

/-! ## All of them -/

theorem handle_serves : EndsServing env q s (handle env q) s := by
  unfold handle
  cases hcl : q.call with
  | requestAction policy action mandateID =>
    simp only [requestAction]
    split_ifs with heff
    · exact requestSpend_serves hs hcl
    · exact requestOther_serves hs heff
  | grantAction id => exact grant_serves hs
  | denyAction id reason => exact deny_serves hs hcl
  | claimAction id => exact claimAction_serves hs hcl
  | placeMandate mandateID => exact place_serves hs
  | revokeMandate mandateID => exact revoke_serves hs
  | expire => exact expire_serves hs hcl

omit hs in
/-- **One request keeps the books and changes what it can change.** -/
theorem serve_serves (env : Env) (q : Request) (hs : Books s) : Serves env q s ((serve env q).final s) := by
  have hsrv : (serve env q).Ends (fun _ u => Serves env q s u) s := by
    refine Proc.ends_bind.mpr ((handle_serves hs).mono fun r u hu => ?_)
    cases r with
    | ok response => exact hu
    | error e => exact hu
  exact hsrv

end

end Messenger.LocalApi
