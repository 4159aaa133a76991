import Messenger.Eventlog.Ledger

/-!
# `LocalApi.Server` — the handlers of the local API that act for an owner

`requestAction` puts a proposed action to the firewall and records what came of it; `grantAction`
and `denyAction` are the owner's; `claimAction` consumes an authorisation; `expire` is the daemon's
sweep over undecided requests. Every connection is served by a goroutine of its own, so each handler
is a process over the shared store, and `serve` is what the pool of connections runs.

The source's `requestAction` is one function that asks for the effect at each of its stages. Its
thread for a spend and its thread for everything else share no stage, and are two definitions here.
-/

namespace Messenger.LocalApi

open Lib
open Lib.Proc (region computed observe)
open Negotiation (Terms Mandate MandateID ExecutionID executionID)
open Firewall (Action ActionID Decision Outcome Policy actionID evaluate evaluateSpend)
open Commerce

/-- A response. A local failure carries its code and text, everything else is a result. -/
structure Response where
  ok : Bool
  code : Option Fault.Code := none
  actionID : Option ActionID := none
  decision : Option Outcome := none
  state : Option ApprovalState := none
  authorised : Bool := false
  mandateID : Option MandateID := none
  detail : String := ""
  deriving DecidableEq, Repr

/-- A local failure, as the one caller of this socket sees it. -/
def refuse (e : Failure) : Response := { ok := false, code := some .internal, detail := e.text }

/-! ## Requesting an action -/

/-- The mandate a stored one describes, if it is usable. -/
def toMandate (m : MandateID) : Except Failure Mandate := do
  let mandate : Mandate := {
    objective := m.objective
    authority := m.authority
    capabilityClass := m.capabilityClass
    maxTotal := ⟨m.asset, m.maxTotalAtomic⟩
    approvalAbove := ⟨m.asset, m.approvalAboveAtomic⟩
    maxCounteroffers := m.maxCounteroffers
    expiresAtUnix := m.expiresAtUnix }
  mandate.validate
  pure mandate

/-- The standing authorisation a proposed spend names. It comes from the store, never from the
    request. -/
def spendMandate (mandateID : MandateID) : Process Mandate := do
  match ← region (lookupMandate mandateID) with
  | none => throw .mandateUnknown
  | some stored =>
    if stored.revokedAtUnix ≠ 0 then throw .mandateRevoked
    else computed (toMandate stored.mandateID)

variable (env : Env) (action : Action) (terms : Terms) (id : ActionID) (decision : Decision) (reason : String)
  (mandateID : MandateID) (mandate : Mandate) (now : Time)

/-- The record of a spend. The source leaves the action's idempotency key out of it. -/
def spendRequest : ApprovalRequest where
  actionID := id
  effect := action.effect
  summary := action.summary
  reason := reason
  origins := decision.provenance
  terms := action.terms
  mandateID := some mandateID
  askedAt := unixSeconds now

def automaticSpendReason : String := "allowed by policy, inside the owner's mandate"
def overBudgetReason : String := "would exceed the mandate's remaining budget"

/-- Put a spend to the owner. -/
def escalateSpend : Process Response := do
  let approval ← region (requestApproval env (spendRequest action id decision reason mandateID now))
  pure {
    ok := true
    actionID := some id
    decision := some .requireOwnerApproval
    detail := reason
    state := some approval.state }

/-- Hold the price of a purchase the policy allows, and record the grant. -/
def holdAndRecord (execution : ExecutionID) (now : Time) : Process Response := do
  match ← observe (reserveMandateBudget mandateID mandate.maxTotal execution terms.price) with
  | .error .budgetExceeded => escalateSpend env action id decision overBudgetReason mandateID now
  | .error e => throw e
  | .ok _ => do
    let approval ← region
      (recordAutoAuthorization env (spendRequest action id decision automaticSpendReason mandateID now))
    pure {
      ok := true
      actionID := some id
      decision := some decision.outcome
      detail := decision.reason
      state := some approval.state }

/-- A spend the policy allows: bind the purchase to this action, hold its price, record the grant. -/
def authoriseSpend : Process Response := do
  let execution ← computed (executionID mandateID terms)
  let (bound, fresh) ← region (claimEconomicExecution execution id now)
  if ¬fresh ∧ bound ≠ id then
    pure {
      ok := true
      actionID := some id
      decision := some .refuse
      detail := "this purchase is already authorised under another action" }
  else holdAndRecord env action terms id decision mandateID mandate execution now

/-- A spend the owner decides: hold its price where it fits, and ask. -/
def holdAndEscalate : Process Response := do
  let execution ← computed (executionID mandateID terms)
  match ← observe (reserveMandateBudget mandateID mandate.maxTotal execution terms.price) with
  | .error .budgetExceeded => escalateSpend env action id decision decision.reason mandateID now
  | .error e => throw e
  | .ok _ => escalateSpend env action id decision decision.reason mandateID now

/-- A refusal by the firewall is a result, not a local failure. -/
def refused : Response where
  ok := true
  decision := some decision.outcome
  detail := decision.reason

variable (policy : Policy)

/-- The thread of `requestAction` for a spend. -/
def requestSpend (action : Action) (mandateID : Option MandateID) (now : Time) : Process Response := do
  let some mandateID := mandateID | throw (.other "invalid mandate identifier")
  let mandate ← spendMandate mandateID
  let decision ← computed (evaluateSpend env.check policy mandate action now)
  let some terms := action.terms | pure (refused decision)
  if decision.outcome = .refuse then pure (refused decision)
  else do
    let id ← computed (actionID env.check action)
    if decision.outcome = .allow then authoriseSpend env action terms id decision mandateID mandate now
    else holdAndEscalate env action terms id decision mandateID mandate now

/-- The record of an action other than a spend, as an owner is asked about it. -/
def actionRequest : ApprovalRequest where
  actionID := id
  effect := action.effect
  summary := action.summary
  idempotencyKey := action.idempotencyKey
  reason := decision.reason
  origins := decision.provenance
  terms := action.terms
  physical := action.physical
  askedAt := unixSeconds now

/-- The record of a tool call the policy allows. -/
def automaticRequest : ApprovalRequest where
  actionID := id
  effect := action.effect
  summary := action.summary
  idempotencyKey := action.idempotencyKey
  reason := "allowed by policy"
  origins := decision.provenance
  askedAt := unixSeconds now

/-- What is answered about an action with a record. -/
def recorded (approval : Approval) : Response where
  ok := true
  actionID := some id
  decision := some decision.outcome
  detail := decision.reason
  state := some approval.state

/-- A tool invocation key that another action used first. -/
def keyTaken : Response where
  ok := true
  actionID := some id
  decision := some .refuse
  detail := "this tool invocation key is already bound to another action"

/-- Go on with `next` if the action's invocation key is this action's, or needs none. -/
def withKey (next : Process Response) : Process Response :=
  if action.effect.invokes then do
    let (bound, _) ← region (claimToolExecution action.idempotencyKey id now)
    if bound ≠ id then pure (keyTaken id) else next
  else next

/-- The thread of `requestAction` for everything but a spend. -/
def requestOther (action : Action) (now : Time) : Process Response := do
  let decision ← computed (evaluate env.check policy action)
  if decision.outcome = .refuse then pure (refused decision)
  else do
    let id ← computed (actionID env.check action)
    if decision.outcome = .allow then
      if action.effect.invokes then
        withKey action id now do
          let approval ← region (recordAutoAuthorization env (automaticRequest action id decision now))
          pure (recorded id decision approval)
      else
        -- weaker effects are authorised inline, each time they are asked for
        pure {
          ok := true
          actionID := some id
          decision := some decision.outcome
          detail := decision.reason
          authorised := true }
    else
      withKey action id now do
        let approval ← region (requestApproval env (actionRequest action id decision now))
        pure (recorded id decision approval)

/-- Put one proposed action to the firewall. -/
def requestAction (action : Action) (mandateID : Option MandateID) (now : Time) : Process Response :=
  if action.effect = .spend then requestSpend env policy action mandateID now
  else requestOther env policy action now

/-! ## Deciding, claiming and expiring -/

/-- Consume a granted authorisation, once. -/
def claimAction : Process Response := do
  match ← observe (region (spendApproval id now)) with
  | .error e =>
    if e = .approvalNotGranted ∨ e = .approvalUnknown then
      pure { ok := true, actionID := some id, detail := e.text }
    else throw e
  | .ok approval => do
    commitMandateReservation approval
    pure { ok := true, actionID := some id, state := some approval.state, authorised := true }

def grant : Process Response := do
  let approval ← region (Commerce.grantAction id now)
  pure { ok := true, actionID := some id, state := some approval.state }

def deny : Process Response := do
  let approval ← region (Commerce.denyAction id reason now)
  releaseMandateReservation approval
  pure { ok := true, actionID := some id, state := some approval.state }

def place : Process Response := do
  let stored ← region (placeMandate mandateID now)
  -- an unusable mandate is refused while the owner is holding it, but it is stored
  let _ ← computed (toMandate stored.mandateID)
  pure { ok := true, mandateID := some stored.mandateID }

def revoke : Process Response := do
  let stored ← region (revokeMandate mandateID now)
  pure { ok := true, mandateID := some stored.mandateID }

/-- The daemon's sweep answers nobody. -/
def expire : Process Response := do
  let _ ← expirePendingApprovals env now
  pure { ok := true }

/-! ## Requests -/

inductive Call where
  | requestAction (policy : Policy) (action : Action) (mandateID : Option MandateID)
  | grantAction (id : ActionID)
  | denyAction (id : ActionID) (reason : String)
  | claimAction (id : ActionID)
  | placeMandate (mandateID : MandateID)
  | revokeMandate (mandateID : MandateID)
  | expire
  deriving DecidableEq

/-- A call and the time the server reads when it serves it. -/
structure Request where
  call : Call
  now : Time
  deriving DecidableEq

def handle (q : Request) : Process Response :=
  match q.call with
  | .requestAction policy action mandateID => requestAction env policy action mandateID q.now
  | .grantAction id => grant id q.now
  | .denyAction id reason => deny id reason q.now
  | .claimAction id => claimAction id q.now
  | .placeMandate mandateID => place mandateID q.now
  | .revokeMandate mandateID => revoke mandateID q.now
  | .expire => expire env q.now

/-- Serve one request; every error of a handler is a local failure. -/
def serve (q : Request) : Proc Store Write Response := do
  match ← (handle env q).run with
  | .ok response => pure response
  | .error e => pure (refuse e)

/-! ## Values to run the handlers on -/

/-- A policy that lets the Agent spend on its own initiative, and only then. -/
def samplePolicy : Policy := ⟨.message, .spend⟩

/-- A purchase of the Agent's own initiative. -/
def ownSpend (manifest : BitVec 256) : Action := ⟨.spend, "buy", none, [], some (sampleTerms manifest), none⟩

/-- The same purchase, prompted by a message. -/
def promptedSpend (manifest : BitVec 256) : Action :=
  ⟨.spend, "buy", none, [⟨⟨1⟩, ⟨1⟩, ⟨1⟩, ⟨1⟩, ⟨1⟩, "message", 1⟩], some (sampleTerms manifest), none⟩

/-- A request to perform a purchase under the sample mandate. -/
def asks : Request := ⟨.requestAction samplePolicy action (some sampleMandateID), now⟩

end Messenger.LocalApi
