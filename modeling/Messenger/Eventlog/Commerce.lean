import Messenger.Eventlog.Record
import Messenger.Firewall.Firewall
import Messenger.Lib.Proc
import Messenger.Negotiation.Budget

/-!
# `Eventlog.Commerce` — approvals, execution claims, mandates and their ledgers

The records behind the actions of an Agent, and the operations on them. Each operation here is one
section under the journal's lock, a `Region`; what an operation of the local API carries from one
region to the next is not protected by the lock, and is modelled where the regions are put together.

- **Approvals** are filed once per action and move `pending → granted → spent` or
  `pending → denied`; a policy's own grant is filed as `granted`.
- **Execution claims** bind a purchase, or a tool invocation key, to the first action that used it.
- **Mandates** are placed once and withdrawn, never deleted.
- **Mandate budgets** are loaded and recorded whole.

A restart changes none of these records, so the model has no recovery step for them.
-/

namespace Messenger.Commerce

open Lib
open Lib.Durable (read write fail lift)
open Negotiation (Asset Money Terms MandateID ExecutionID Budget)
open Firewall (Effect Origin PhysicalOperation ActionID)

/-! ## Records -/

def maxPendingActions : Nat := 128
def maxApprovalSummaryBytes : Nat := 512
def maxApprovalOrigins : Nat := 32
def maxMandates : Nat := 64

inductive ApprovalState where
  | pending
  | granted
  | spent
  | denied
  deriving DecidableEq, Repr

/-- What the runtime asks the owner to decide. -/
structure ApprovalRequest where
  actionID : ActionID
  effect : Effect
  summary : String
  idempotencyKey : Option IdempotencyKey := none
  reason : String
  origins : List Origin
  terms : Option Terms := none
  physical : Option PhysicalOperation := none
  mandateID : Option MandateID := none
  askedAt : Nat
  deriving DecidableEq, Repr

/-- The durable state of one request; it keeps every field of the request. -/
structure Approval extends ApprovalRequest where
  state : ApprovalState
  decidedAtUnix : Nat := 0
  spentAtUnix : Nat := 0
  denialReason : String := ""
  deriving DecidableEq, Repr

/-- The purchase an approval is for: what a spend carries, and nothing else does. -/
def ApprovalRequest.purchase (a : ApprovalRequest) : Option ExecutionID :=
  match a.effect, a.terms, a.mandateID with
  | .spend, some terms, some mandateID => some ⟨mandateID, terms⟩
  | _, _, _ => none

/-- The binding of one execution to the action that first used it. -/
structure ExecutionClaim where
  actionID : ActionID
  claimedAtUnix : Nat
  deriving DecidableEq, Repr

/-- One standing authorisation. Its terms are the content of its identifier. -/
structure StoredMandate where
  mandateID : MandateID
  placedAtUnix : Nat
  revokedAtUnix : Nat := 0
  deriving DecidableEq, Repr

/-- The identifier of one mandate's budget: the mandate and the asset. -/
structure BudgetID where
  mandateID : MandateID
  asset : Asset
  deriving DecidableEq, Repr

abbrev Ledger := Budget ExecutionID

structure Store where
  approvals : Dir ActionID Approval := ∅
  executions : Dir ExecutionID ExecutionClaim := ∅
  toolExecutions : Dir IdempotencyKey ExecutionClaim := ∅
  mandates : Dir MandateID StoredMandate := ∅
  mandateBudgets : Dir BudgetID Ledger := ∅

/-- One atomic replacement of a file. -/
inductive Write where
  | approval (approval : Approval)
  | execution (executionID : ExecutionID) (claim : ExecutionClaim)
  | toolExecution (key : IdempotencyKey) (claim : ExecutionClaim)
  | mandate (mandate : StoredMandate)
  | mandateBudget (budgetID : BudgetID) (ledger : Ledger)
  deriving DecidableEq

def Store.put (s : Store) : Write → Store
  | .approval approval => { s with approvals := s.approvals.insert approval.actionID approval }
  | .execution executionID claim => { s with executions := s.executions.insert executionID claim }
  | .toolExecution key claim => { s with toolExecutions := s.toolExecutions.insert key claim }
  | .mandate mandate => { s with mandates := s.mandates.insert mandate.mandateID mandate }
  | .mandateBudget budgetID ledger => { s with mandateBudgets := s.mandateBudgets.insert budgetID ledger }

instance : Medium Store Write := ⟨Store.put⟩

/-- One section under the journal's lock. -/
abbrev Region (α : Type) := Durable Store Failure α

/-- What the store takes from elsewhere. -/
structure Env where
  quota : Eventlog.Quota
  /-- The order of two action identifiers' digests, which is the order of their files. -/
  before : ActionID → ActionID → Bool
  /-- The check of a physical operation's arguments. -/
  check : PhysicalOperation → Except Failure Unit

variable (mandateID : MandateID) (env : Env) (s : Store) (budgetID : BudgetID) (actionID : ActionID)

/-- An environment to run fixed inputs in. -/
def Env.plain : Env where
  quota := Eventlog.defaultQuota
  before := fun _ _ => true
  check := fun _ => .ok ()

variable (now : Time)

/-- `uint64(now.Unix())`, also for a time before the epoch. -/
def unixSeconds : Nat := (now % 2 ^ 64).toNat

/-- The record under a name, which must be the name it bears. -/
def readOwn {κ α : Type} [DecidableEq κ] (directory : Dir κ α) (name : α → κ) (text : String)
    (key : κ) : Except Failure (Option α) :=
  match lookup key directory with
  | none => .ok none
  | some a => if name a = key then .ok (some a) else .error (.other text)

/-! ## Approvals -/

/-- One citation of an approval request names its kind. -/
def validateApprovalOrigin (origin : Origin) : Except Failure Unit :=
  failIf (origin.kind = "" ∨ 128 < origin.kind.utf8ByteSize) "an approval request cites content with no kind"

def validateApprovalOrigins : List Origin → Except Failure Unit
  | [] => .ok ()
  | origin :: origins => do
    validateApprovalOrigin origin
    validateApprovalOrigins origins

variable (a : Approval) (check : PhysicalOperation → Except Failure Unit) (q : ApprovalRequest)

/-- The physical operation of a request, where it must have one and where it must not. -/
def validateApprovalPhysical : Except Failure Unit :=
  match q.physical with
  | none =>
    failIf (q.effect = .physicalIo) "a physical I/O approval must carry its local Capability and operation"
  | some physical => do
    failIf (q.effect = .physicalIo ∧ (q.idempotencyKey = none ∨ physical.validate check ≠ .ok ()))
      "a physical I/O approval has malformed Capability or invocation evidence"
    failIf (q.effect ≠ .physicalIo) "only physical I/O approval carries a physical operation"

def validateApprovalRequest : Except Failure Unit := do
  failIf (q.effect.name = "" ∨ 64 < q.effect.name.utf8ByteSize) "an approval request must name an effect"
  failIf (q.summary = "" ∨ maxApprovalSummaryBytes < q.summary.utf8ByteSize)
    "an approval request must describe itself"
  failIf (q.reason = "" ∨ maxApprovalSummaryBytes < q.reason.utf8ByteSize)
    "an approval request must say why it is being asked"
  failIf (q.askedAt = 0) "an approval request has no time"
  failIf (maxApprovalOrigins < q.origins.length)
    "an approval request cites more content than an owner could review"
  validateApprovalOrigins q.origins
  failIf (q.effect = .spend ∧ q.terms = none) "a spend approval must carry the structured purchase it is for"
  Negotiation.validateTerms q.terms
  validateApprovalPhysical check q
  failIf (q.effect = .spend ∧ q.mandateID = none) "a spend approval must name the mandate it draws on"
  failIf (q.effect ≠ .spend ∧ q.mandateID ≠ none) "only a spend approval names a mandate"

def readApproval : Except Failure (Option Approval) :=
  readOwn s.approvals (fun a => a.actionID) "approval record does not describe this action" actionID

def commitApproval (approval : Approval) : Region Approval := do
  write (.approval approval)
  pure approval

/-- A request nobody decided within the window. -/
def approvalExpired (approval : Approval) (seconds : Nat) : Bool :=
  approval.askedAt ≠ 0 && wrap64 (approval.askedAt + env.quota.maxPendingAge) ≤ seconds

/-- The approvals a scan of the directory reads, in file order. -/
def readableApprovals : List Approval :=
  (Dir.namesBy env.before s.approvals).filterMap fun actionID => (readApproval s actionID).toOption.join

/-- The requests still waiting for the owner. -/
def countPendingApprovals (seconds : Nat) : Nat :=
  ((readableApprovals env s).filter fun a => a.state = .pending && !approvalExpired env a seconds).length

/-- Record that an action is waiting for a person; asking again resets nothing. -/
def requestApproval (request : ApprovalRequest) : Region Approval := do
  lift (validateApprovalRequest env.check request)
  let s ← read
  match ← lift (readApproval s request.actionID) with
  | some existing => pure existing
  | none =>
    if maxPendingActions ≤ countPendingApprovals env s request.askedAt then fail .pendingFull
    else commitApproval { request with state := .pending }

/-- Record a policy decision the way an owner decision is recorded. -/
def recordAutoAuthorization (request : ApprovalRequest) : Region Approval := do
  lift (validateApprovalRequest env.check request)
  let s ← read
  match ← lift (readApproval s request.actionID) with
  | some existing => pure existing
  | none => commitApproval { request with state := .granted, decidedAtUnix := request.askedAt }

/-- The approval of an action that must have been asked about. -/
def knownApproval : Region Approval := do
  let s ← read
  match ← lift (readApproval s actionID) with
  | some approval => pure approval
  | none => fail .approvalUnknown

/-- The record once a pending request is decided. -/
def Approval.decided (state : ApprovalState) (reason : String) (seconds : Nat) : Approval :=
  { a with state, decidedAtUnix := seconds, denialReason := reason }

def decideApproval (state : ApprovalState) (reason : String) (now : Time) : Region Approval :=
  if now < 0 then fail (.other "invalid approval time")
  else do
    let approval ← knownApproval actionID
    if approval.state ≠ .pending then fail .approvalDecided
    else commitApproval (approval.decided state reason now.toNat)

/-- The owner authorises one action. -/
def grantAction : Region Approval := decideApproval actionID .granted "" now

/-- The owner refuses one action. -/
def denyAction (reason : String) (now : Time) : Region Approval :=
  if reason = "" ∨ maxApprovalSummaryBytes < reason.utf8ByteSize then fail (.other "a refusal must say why")
  else decideApproval actionID .denied reason now

/-- The record once its action is performed. -/
def Approval.consumed (seconds : Nat) : Approval := { a with state := .spent, spentAtUnix := seconds }

/-- Consume a granted approval. -/
def spendApproval : Region Approval :=
  if now < 0 then fail (.other "invalid approval time")
  else do
    let approval ← knownApproval actionID
    if approval.state ≠ .granted then fail .approvalNotGranted
    else commitApproval (approval.consumed now.toNat)

def expiryReason : String := "nobody decided within the window this installation keeps requests for"

/-- The loop of the expiry over the approvals that ran out of time. -/
def expireApprovals (seconds : Nat) : List Approval → Region (List Approval)
  | [] => pure []
  | approval :: approvals => do
    let stored ← commitApproval (approval.decided .denied expiryReason seconds)
    let rest ← expireApprovals seconds approvals
    pure (stored :: rest)

/-- Refuse the decisions nobody made in time, all in one section. The source reads each file when it
    comes to it, which is the same: no turn of the loop changes another's file. -/
def expirePendingApprovalsLocked : Region (List Approval) :=
  if now < 0 then fail (.other "invalid expiry time")
  else do
    let s ← read
    expireApprovals now.toNat
      ((readableApprovals env s).filter fun a => a.state = .pending && approvalExpired env a now.toNat)

/-! ## Execution claims -/

/-- Bind a key of a claim directory to the first action that uses it; the flag says whether it was
    this one. -/
def claimExecution {κ : Type} [DecidableEq κ] (directory : Store → Dir κ ExecutionClaim)
    (record : κ → ExecutionClaim → Write) (key : κ) (actionID : ActionID) (now : Time) : Region (ActionID × Bool) :=
  if now < 0 then fail (.other "invalid time")
  else do
    let s ← read
    match lookup key (directory s) with
    | some claim => pure (claim.actionID, false)
    | none => do
      write (record key ⟨actionID, now.toNat⟩)
      pure (actionID, true)

def claimEconomicExecution (executionID : ExecutionID) (actionID : ActionID) (now : Time) :
    Region (ActionID × Bool) :=
  claimExecution Store.executions .execution executionID actionID now

def claimToolExecution (key : Option IdempotencyKey) (actionID : ActionID) (now : Time) : Region (ActionID × Bool) :=
  match key with
  | none => fail (.other "invalid execution identifier")
  | some key => claimExecution Store.toolExecutions .toolExecution key actionID now

/-! ## Mandates -/

def validateStoredMandate (m : MandateID) : Except Failure Unit := do
  failIf (m.objective = "" ∨ maxApprovalSummaryBytes < m.objective.utf8ByteSize) "a mandate must say what it is for"
  failIf (m.authority.name = "" ∨ 64 < m.authority.name.utf8ByteSize) "a mandate must name its authority"
  failIf (m.capabilityClass = "" ∨ 128 < m.capabilityClass.utf8ByteSize) "a mandate must name what may be bought"
  failIf (m.asset.network.id = "" ∨ 128 < m.asset.network.id.utf8ByteSize)
    "a mandate must name the network its asset lives on"
  failIf (m.expiresAtUnix = 0) "a mandate must expire"

def readMandate (mandateID : MandateID) : Except Failure (Option StoredMandate) :=
  readOwn s.mandates StoredMandate.mandateID "mandate record does not match its identifier" mandateID

def lookupMandate : Region (Option StoredMandate) := do
  let s ← read
  lift (readMandate s mandateID)

/-- The mandates that were not withdrawn. -/
def countMandates : Nat :=
  (s.mandates.keys.filter fun mandateID =>
    match readMandate s mandateID with
    | .ok (some mandate) => mandate.revokedAtUnix = 0
    | _ => false).length

/-- Record a standing authorisation; placing it again does not renew a withdrawal. -/
def placeMandate : Region StoredMandate :=
  if now < 0 then fail (.other "invalid mandate time")
  else do
    lift (validateStoredMandate mandateID)
    let s ← read
    match ← lift (readMandate s mandateID) with
    | some existing => pure existing
    | none =>
      if maxMandates ≤ countMandates s then fail .mandatesFull
      else do
        let mandate : StoredMandate := { mandateID, placedAtUnix := now.toNat }
        write (.mandate mandate)
        pure mandate

/-- Withdraw a standing authorisation; its record stays. -/
def revokeMandate : Region StoredMandate :=
  if now < 0 then fail (.other "invalid mandate time")
  else do
    let s ← read
    match ← lift (readMandate s mandateID) with
    | none => fail .mandateUnknown
    | some mandate =>
      if mandate.revokedAtUnix ≠ 0 then pure mandate
      else do
        let withdrawn := { mandate with revokedAtUnix := now.toNat }
        write (.mandate withdrawn)
        pure withdrawn

/-! ## Mandate budgets -/

def validateAmounts (asset : Asset) : List Nat → Except Failure Unit
  | [] => .ok ()
  | amount :: amounts => do
    (⟨asset, amount⟩ : Money).validate
    validateAmounts asset amounts

def readLedger : Except Failure (Option Ledger) :=
  match lookup budgetID s.mandateBudgets with
  | none => .ok none
  | some ledger => do
    failIf (ledger.asset ≠ budgetID.asset) "budget ledger holds another asset"
    (⟨ledger.asset, ledger.total⟩ : Money).validate
    (⟨ledger.asset, ledger.spent⟩ : Money).validate
    failIf (Negotiation.maxReservations < ledger.reserved.keys.length)
      "budget ledger holds more reservations than it may"
    validateAmounts ledger.asset (ledger.reserved.entries.map Sigma.snd)
    pure (some ledger)

/-- Load a ledger. -/
def loadLedger : Region (Option Ledger) := do
  let s ← read
  lift (readLedger s budgetID)

/-- Record a ledger whole. -/
def recordLedger (ledger : Ledger) : Region Unit :=
  if ledger.asset ≠ budgetID.asset then fail (.other "this budget holds another asset")
  else write (.mandateBudget budgetID ledger)

/-! ## What each section does -/

section
variable {env : Env} {s : Store} {id : ActionID} {now : Time} {a : Approval}

theorem readOwn_some {κ α : Type} [DecidableEq κ] {directory : Dir κ α} {name : α → κ} {text : String} {key : κ}
    {a : α} : readOwn directory name text key = .ok (some a) ↔ lookup key directory = some a ∧ name a = key := by
  unfold readOwn
  cases hget : lookup key directory with
  | none => simp
  | some b =>
    simp only [Option.some.injEq]
    split_ifs with hnm
    · simp only [Except.ok.injEq, Option.some.injEq]
      exact ⟨fun h => ⟨h, h ▸ hnm⟩, fun h => h.1⟩
    simp only [false_iff]
    rintro ⟨rfl, h⟩
    exact hnm h

theorem readOwn_none {κ α : Type} [DecidableEq κ] {directory : Dir κ α} {name : α → κ} {text : String} {key : κ} :
    readOwn directory name text key = .ok none ↔ lookup key directory = none := by
  unfold readOwn
  cases hget : lookup key directory with
  | none => simp
  | some b =>
    simp only [reduceCtorEq, iff_false]
    split_ifs <;> simp

theorem readApproval_some :
    readApproval s id = .ok (some a) ↔ lookup id s.approvals = some a ∧ a.actionID = id := readOwn_some

theorem readApproval_none : readApproval s id = .ok none ↔ lookup id s.approvals = none := readOwn_none

/-- Check a request and look for its record; file one where there is none. -/
def unlessAsked (env : Env) (q : ApprovalRequest) (file : Store → Region Approval) : Region Approval := do
  lift (validateApprovalRequest env.check q)
  let s ← read
  match ← lift (readApproval s q.actionID) with
  | some existing => pure existing
  | none => file s

/-- **What filing a request does.** It stops without a write, where the request is not valid, its
    action is on record or the list is full; or it files a record of an action that has none. -/
def Files (env : Env) (q : ApprovalRequest) (m : Region Approval) (Full : Prop) (a : Approval) (s : Store) : Prop :=
  (∃ o, m s = ([], o) ∧
      (validateApprovalRequest env.check q = .ok () → lookup q.actionID s.approvals = none → Full)) ∨
    lookup q.actionID s.approvals = none ∧ m s = ([.approval a], .ok a)

theorem unlessAsked_files (file : Store → Region Approval) {q : ApprovalRequest} {Full : Prop}
    (hfe : file s s = ([.approval a], .ok a) ∨ Full ∧ ∃ e, file s s = ([], .error e)) :
    Files env q (unlessAsked env q file) Full a s := by
  unfold Files unlessAsked
  cases hval : validateApprovalRequest env.check q with
  | error e => exact .inl ⟨_, rfl, fun h => (nomatch h)⟩
  | ok _ =>
    rw [run_lift_ok_bind, run_read_bind]
    cases hrd : readApproval s q.actionID with
    | error e =>
      refine .inl ⟨_, rfl, fun _ habs => ?_⟩
      cases (readApproval_none.mpr habs).symm.trans hrd
    | ok found =>
      cases found with
      | some a =>
        refine .inl ⟨_, rfl, fun _ habs => ?_⟩
        cases (readApproval_none.mpr habs).symm.trans hrd
      | none =>
        rcases hfe with hfe | ⟨hfu, e, hfe⟩
        · exact .inr ⟨readApproval_none.mp hrd, hfe⟩
        · exact .inl ⟨_, hfe, fun _ _ => hfu⟩

/-- A request for approval is filed as pending, unless the owner's list is full. -/
theorem requestApproval_files (env : Env) (q : ApprovalRequest) (s : Store) :
    Files env q (requestApproval env q) (maxPendingActions ≤ countPendingApprovals env s q.askedAt)
      { q with state := .pending } s := by
  refine unlessAsked_files (fun s => if maxPendingActions ≤ countPendingApprovals env s q.askedAt then
    fail .pendingFull else commitApproval { q with state := .pending }) ?_
  split_ifs with hfu
  · exact .inr ⟨hfu, _, rfl⟩
  · exact .inl rfl

/-- A policy's own grant is filed as granted. -/
theorem recordAutoAuthorization_files (env : Env) (q : ApprovalRequest) (s : Store) :
    Files env q (recordAutoAuthorization env q) False { q with state := .granted, decidedAtUnix := q.askedAt } s :=
  unlessAsked_files (fun _ => commitApproval { q with state := .granted, decidedAtUnix := q.askedAt }) (.inl rfl)

/-- **What an operation does to one approval**, which is in `state`. -/
abbrev Replaces (m : Region Approval) (id : ActionID) (s : Store) (state : ApprovalState)
    (f : Approval → Approval) : Prop :=
  Durable.Replaces m s (fun a => lookup id s.approvals = some a ∧ a.actionID = id) .approval (·.state = state) f

theorem replaces_known (id : ActionID) (s : Store) (state : ApprovalState) (e : Failure) (f : Approval → Approval) :
    Replaces (knownApproval id >>= fun a => if a.state ≠ state then fail e else commitApproval (f a)) id s state f := by
  have hrun : knownApproval id s = ([], (readApproval s id).bind fun found =>
      found.elim (.error .approvalUnknown) .ok) := by
    unfold knownApproval
    rw [run_read_bind]
    cases readApproval s id with
    | error e => rfl
    | ok found => cases found <;> rfl
  refine Durable.replaces_query hrun (fun a ha => ?_) fun a => ?_
  · obtain ⟨found, hrd, ha⟩ := seq_ok.mp ha
    cases found with
    | none => cases ha
    | some b =>
      cases ha
      exact readApproval_some.mp hrd
  split_ifs with hst
  · exact .inl ⟨_, rfl⟩
  · exact .inr ⟨not_not.mp hst, rfl⟩

theorem decideApproval_cases (id : ActionID) (state : ApprovalState) (reason : String) (now : Time) (s : Store) :
    Replaces (decideApproval id state reason now) id s .pending (·.decided state reason now.toNat) := by
  unfold decideApproval
  split_ifs with hnow
  · exact .inl ⟨_, rfl⟩
  · exact replaces_known id s .pending _ _

theorem denyAction_cases (id : ActionID) (reason : String) (now : Time) (s : Store) :
    Replaces (denyAction id reason now) id s .pending (·.decided .denied reason now.toNat) := by
  unfold denyAction
  split_ifs with hrsn
  · exact .inl ⟨_, rfl⟩
  · exact decideApproval_cases id .denied reason now s

theorem spendApproval_cases (id : ActionID) (now : Time) (s : Store) :
    Replaces (spendApproval id now) id s .granted (·.consumed now.toNat) := by
  unfold spendApproval
  split_ifs with hnow
  · exact .inl ⟨_, rfl⟩
  · exact replaces_known id s .granted _ _

theorem run_expireApprovals (sec : Nat) (as : List Approval) (s : Store) :
    expireApprovals sec as s =
      (as.map fun a => .approval (a.decided .denied expiryReason sec),
        .ok (as.map fun a => a.decided .denied expiryReason sec)) := by
  induction as generalizing s with
  | nil => rfl
  | cons a as ih =>
    have hcmm : commitApproval (a.decided .denied expiryReason sec) s =
        ([.approval (a.decided .denied expiryReason sec)], .ok (a.decided .denied expiryReason sec)) := rfl
    unfold expireApprovals
    rw [run_bind_ok hcmm, run_bind_ok (ih _)]
    simp

/-- The requests an expiry at `now` denies. -/
def overdue (env : Env) (s : Store) (now : Time) : List Approval :=
  (readableApprovals env s).filter fun a => a.state = .pending && approvalExpired env a now.toNat

theorem expirePendingApprovalsLocked_cases (env : Env) (now : Time) (s : Store) :
    (∃ e, expirePendingApprovalsLocked env now s = ([], .error e)) ∨
      expirePendingApprovalsLocked env now s =
        ((overdue env s now).map fun a => .approval (a.decided .denied expiryReason now.toNat),
          .ok ((overdue env s now).map fun a => a.decided .denied expiryReason now.toNat)) := by
  unfold expirePendingApprovalsLocked
  split_ifs with hnow
  · exact .inl ⟨_, rfl⟩
  · rw [run_read_bind]
    exact .inr (run_expireApprovals _ _ _)

/-- What a scan reads under a name. -/
theorem read_of_scan (h : (readApproval s id).toOption.join = some a) :
    lookup id s.approvals = some a ∧ a.actionID = id := by
  cases hfnd : readApproval s id with
  | error e => rw [hfnd] at h; cases h
  | ok found =>
    rw [hfnd] at h
    cases (show found = some a from h)
    exact readApproval_some.mp hfnd

theorem mem_readableApprovals : a ∈ readableApprovals env s ↔ lookup a.actionID s.approvals = some a := by
  unfold readableApprovals
  rw [List.mem_filterMap]
  constructor
  · rintro ⟨id, -, hrd⟩
    obtain ⟨hget, rfl⟩ := read_of_scan hrd
    exact hget
  intro hget
  refine ⟨a.actionID, mem_namesBy.mpr ⟨a, hget⟩, ?_⟩
  rw [readApproval_some.mpr ⟨hget, rfl⟩]
  rfl

theorem nodup_readableApprovals (env : Env) (s : Store) :
    ((readableApprovals env s).map fun a => a.actionID).Nodup := by
  refine (Dir.nodup_namesBy env.before s.approvals).sublist ?_
  exact Dir.map_filterMap_sublist (fun id a hrd => (read_of_scan hrd).2) _

/-- **An execution claim, by cases.** It fails without a write, finds a binding, or makes one. -/
theorem claimExecution_cases {κ : Type} [DecidableEq κ] (directory : Store → Dir κ ExecutionClaim)
    (record : κ → ExecutionClaim → Write) (key : κ) (id : ActionID) (now : Time) (s : Store) :
    (∃ e, claimExecution directory record key id now s = ([], .error e)) ∨
      (∃ claim, lookup key (directory s) = some claim ∧
        claimExecution directory record key id now s = ([], .ok (claim.actionID, false))) ∨
      lookup key (directory s) = none ∧
        claimExecution directory record key id now s = ([record key ⟨id, now.toNat⟩], .ok (id, true)) := by
  unfold claimExecution
  split_ifs with hnow
  · exact .inl ⟨_, rfl⟩
  rw [run_read_bind]
  cases hget : lookup key (directory s) with
  | some claim => exact .inr (.inl ⟨claim, rfl, rfl⟩)
  | none => exact .inr (.inr ⟨rfl, rfl⟩)

variable (mid : MandateID)

theorem run_lookupMandate (s : Store) : lookupMandate mid s = ([], readMandate s mid) := rfl

theorem readMandate_some {mandateID : MandateID} {stored : StoredMandate} :
    readMandate s mandateID = .ok (some stored) ↔
      lookup mandateID s.mandates = some stored ∧ stored.mandateID = mandateID := readOwn_some

/-- **What an operation does to the mandates.** It writes nothing, or one of them. -/
def Places (m : Region StoredMandate) (s : Store) : Prop :=
  (∃ r, m s = ([], r)) ∨ ∃ stored, m s = ([.mandate stored], .ok stored)

theorem placeMandate_cases (now : Time) (s : Store) : Places (placeMandate mid now) s := by
  unfold Places placeMandate
  split_ifs with hnow
  · exact .inl ⟨_, rfl⟩
  cases hval : validateStoredMandate mid with
  | error e => exact .inl ⟨_, rfl⟩
  | ok _ =>
    rw [run_lift_ok_bind, run_read_bind]
    cases hrd : readMandate s mid with
    | error e => exact .inl ⟨_, rfl⟩
    | ok found =>
      cases found with
      | some existing => exact .inl ⟨_, rfl⟩
      | none =>
        split_ifs with hfu
        · exact .inl ⟨_, rfl⟩
        · exact .inr ⟨_, rfl⟩

theorem revokeMandate_cases (now : Time) (s : Store) : Places (revokeMandate mid now) s := by
  unfold Places revokeMandate
  split_ifs with hnow
  · exact .inl ⟨_, rfl⟩
  rw [run_read_bind]
  cases hrd : readMandate s mid with
  | error e => exact .inl ⟨_, rfl⟩
  | ok found =>
    rw [run_lift_ok_bind]
    cases found with
    | none => exact .inl ⟨_, rfl⟩
    | some mandate =>
      simp only
      split_ifs with hrvk
      · exact .inl ⟨_, rfl⟩
      · exact .inr ⟨_, rfl⟩

theorem run_loadLedger (bid : BudgetID) (s : Store) : loadLedger bid s = ([], readLedger s bid) := rfl

theorem recordLedger_cases (bid : BudgetID) (ledger : Ledger) (s : Store) :
    (∃ e, recordLedger bid ledger s = ([], .error e)) ∨
      recordLedger bid ledger s = ([.mandateBudget bid ledger], .ok ()) := by
  unfold recordLedger
  split_ifs with hast
  · exact .inl ⟨_, rfl⟩
  · exact .inr rfl

end

end Messenger.Commerce
