import Mathlib.Data.List.Sort
import Messenger.Negotiation.Terms

/-!
# `Firewall.Firewall` — which proposed actions may happen without a person deciding

The upper half of the context firewall (`pkg/firewall`): a proposed action is judged by its effect
and by whether received content contributed to it, against two ceilings; a spend is judged against
the owner's mandate besides.

`ActionID` is the content-addressed identifier of an action. As with the other digests of the source
the model takes the committed content for the identifier. The mandate a spend names is **not** part
of it.

The check that a physical operation's arguments are canonical JSON with the stated digest is a
parameter, `check`.
-/

namespace Messenger.Firewall

open Negotiation (Terms Mandate)

/-! ## Effects -/

/-- What an action does that outlives the runtime's own memory. -/
inductive Effect where
  | none
  | localRead
  | localWrite
  | message
  | toolCall
  | physicalIo
  | spend
  | keyUse
  | configuration
  /-- A text this build does not recognise. -/
  | other (name : String)
  deriving DecidableEq, Repr

namespace Effect

def name : Effect → String
  | none => "none"
  | localRead => "local-read"
  | localWrite => "local-write"
  | message => "message"
  | toolCall => "tool-call"
  | physicalIo => "physical-io"
  | spend => "spend"
  | keyUse => "key-use"
  | configuration => "configuration"
  | other name => name

/-- The order of the effects; an unknown one ranks with none, and is refused before it is compared. -/
def rank : Effect → Nat
  | none => 0
  | localRead => 1
  | localWrite => 2
  | message => 3
  | toolCall => 4
  | spend => 5
  | keyUse => 6
  | physicalIo => 7
  | configuration => 8
  | other _ => 0

def known : Effect → Bool
  | other _ => false
  | _ => true

def atLeast (effect floor : Effect) : Bool := floor.rank ≤ effect.rank

/-- The effects whose invocations are told apart by an idempotency key. -/
def invokes (effect : Effect) : Bool := effect = toolCall || effect = physicalIo

end Effect

/-! ## Actions -/

def maxProvenance : Nat := 32
def maxSummaryBytes : Nat := 512
def maxPhysicalArgumentsBytes : Nat := 8 * 2 ^ 10

/-- Where one piece of content came from. -/
structure Origin where
  agentID : AgentID
  endpointID : EndpointID
  deviceID : DeviceID
  eventID : EventID
  conversationID : ConversationID
  kind : String
  receivedAtUnix : Nat
  deriving DecidableEq, Repr

def Origin.validate (o : Origin) : Except Failure Unit := do
  failIf (o.kind = "" ∨ 128 < o.kind.utf8ByteSize) "origin names no event kind"
  failIf (o.receivedAtUnix = 0) "origin has no arrival time"

/-- One raw hardware invocation of a local Capability. -/
structure PhysicalOperation where
  capabilityID : CapabilityID
  tool : String
  operation : String
  argumentsDigest : BitVec 256
  argumentsJSON : String
  deriving DecidableEq, Repr

/-- `^[a-z][a-z0-9_-]{0,63}$` -/
def boundedName (text : String) : Bool :=
  text.toList.head?.any Char.isLower && text.toList.length ≤ 64 &&
    text.toList.all fun c => c.isLower || c.isDigit || c = '_' || c = '-'

variable (check : PhysicalOperation → Except Failure Unit)

def PhysicalOperation.validate (p : PhysicalOperation) : Except Failure Unit := do
  failIf (¬boundedName p.tool ∨ ¬boundedName p.operation) "physical I/O names no bounded tool operation"
  failIf (p.argumentsDigest = 0) "physical I/O has no canonical argument digest"
  failIf (p.argumentsJSON.utf8ByteSize = 0 ∨ maxPhysicalArgumentsBytes < p.argumentsJSON.utf8ByteSize)
    "physical I/O arguments exceed their review bound"
  check p

/-- Something the runtime proposes to do. -/
structure Action where
  effect : Effect
  summary : String
  idempotencyKey : Option IdempotencyKey
  derivedFrom : List Origin
  terms : Option Terms
  physical : Option PhysicalOperation
  deriving DecidableEq, Repr

variable (a : Action)

/-- What only a physical action carries, and what it must carry. -/
def Action.validatePhysical (a : Action) : Except Failure Unit :=
  if a.effect = .physicalIo then
    match a.physical with
    | none => .error (.other "physical I/O must name its local Capability and operation")
    | some physical => do
      failIf (a.idempotencyKey = none) "physical I/O must carry a one-shot invocation key"
      physical.validate check
  else failIf (a.physical ≠ none) "only physical I/O carries a physical operation"

/-- The loop over the cited origins; `seen` are the events cited so far. -/
def validateOrigins (seen : List EventID) : List Origin → Except Failure Unit
  | [] => .ok ()
  | origin :: origins => do
    origin.validate
    failIf (origin.eventID ∈ seen) "action cites one event twice"
    validateOrigins (origin.eventID :: seen) origins

/-- An action can be judged. -/
def Action.validate (a : Action) : Except Failure Unit := do
  failIf (¬a.effect.known) "action names an effect this build does not recognise"
  failIf (a.summary = "" ∨ maxSummaryBytes < a.summary.utf8ByteSize) "an action must describe itself"
  failIf (maxProvenance < a.derivedFrom.length) "action cites more origins than an owner could review"
  failIf (a.effect = .spend ∧ a.terms = none) "a spend must say what it is buying"
  failIf (a.effect ≠ .spend ∧ a.terms ≠ none) "only a spend carries terms"
  a.validatePhysical check
  validateOrigins [] a.derivedFrom

/-- Whether any received content contributed to this action. -/
def Action.untrusted : Bool := a.derivedFrom ≠ []

/-- The cited origins in a stable order. -/
def Action.provenance : List Origin := a.derivedFrom.insertionSort fun a b => a.eventID ≤ b.eventID

/-- The content an `act_` identifier commits. -/
structure ActionID where
  effect : Effect
  summary : String
  idempotencyKey : Option IdempotencyKey
  origins : List Origin
  terms : Option Terms
  physical : Option PhysicalOperation
  deriving DecidableEq, Repr

/-- The content of one proposed action. -/
def Action.content : ActionID :=
  ⟨a.effect, a.summary, a.idempotencyKey, a.provenance, a.terms, a.physical⟩

/-- The identifier of one proposed action; only a well-formed one has it. -/
def actionID (action : Action) : Except Failure ActionID := do
  action.validate check
  -- the terms are committed through their digest, which only complete terms have
  Negotiation.validateTerms action.terms
  pure action.content

theorem actionID_ok {check : PhysicalOperation → Except Failure Unit} {action : Action}
    {id : ActionID} (h : actionID check action = .ok id) : id = action.content := by
  iterate 2 obtain ⟨_, -, h⟩ := seq_ok.mp h
  cases h
  rfl

/-! ## Policies and decisions -/

/-- What an owner permits an Agent to reach unattended. -/
structure Policy where
  unattendedCeiling : Effect
  ownInitiativeCeiling : Effect
  deriving DecidableEq, Repr

variable (policy : Policy) (action : Action)

/-- Policies that cannot be safe are refused. -/
def Policy.validate (p : Policy) : Except Failure Unit := do
  failIf (¬p.unattendedCeiling.known ∨ ¬p.ownInitiativeCeiling.known)
    "a firewall policy names an effect this build does not recognise"
  failIf (p.unattendedCeiling.atLeast .keyUse)
    "received content may never reach a key or this installation's configuration unattended"
  failIf (p.ownInitiativeCeiling.atLeast .configuration) "only the owner changes this installation's configuration"
  failIf (p.ownInitiativeCeiling.rank < p.unattendedCeiling.rank)
    "received content cannot be trusted further than the Agent's own initiative"

/-- The policy an installation starts from. -/
def Policy.default : Policy where
  unattendedCeiling := .message
  ownInitiativeCeiling := .toolCall

/-- The default policy is one the firewall accepts. -/
example : Policy.default.validate = .ok () := by decide

inductive Outcome where
  | allow
  | requireOwnerApproval
  | refuse
  deriving DecidableEq, Repr

structure Decision where
  outcome : Outcome
  reason : String
  effect : Effect
  ceiling : Option Effect := none
  provenance : List Origin := []
  deriving DecidableEq, Repr

/-- The ceiling that applies to an action. -/
def Policy.ceiling (p : Policy) (a : Action) : Effect :=
  if a.untrusted then p.unattendedCeiling else p.ownInitiativeCeiling

/-- What the policy decides about a well-formed action, and why. -/
def verdict : Outcome × String :=
  if action.effect = .physicalIo then
    (.requireOwnerApproval, "physical I/O always requires a local one-shot owner decision")
  else if action.effect = .configuration then
    (.requireOwnerApproval, "changing this installation's configuration is the owner's decision")
  else if action.untrusted ∧ action.effect.atLeast .keyUse then
    (.requireOwnerApproval, "an action derived from received content would use a key")
  else if action.effect.atLeast (policy.ceiling action) ∧ action.effect ≠ policy.ceiling action then
    (.requireOwnerApproval, "this action is stronger than what may happen unattended")
  else (.allow, "within what the owner permitted unattended")

/-- Apply the policy to one proposed action. -/
def evaluate : Except Failure Decision := do
  policy.validate
  match action.validate check with
  | .error e => pure { outcome := .refuse, reason := e.text, effect := action.effect }
  | .ok _ =>
    pure {
      outcome := (verdict policy action).1
      reason := (verdict policy action).2
      effect := action.effect
      ceiling := some (policy.ceiling action)
      provenance := action.provenance }

/-- What the mandate makes of a decision about complete terms. -/
def judgeSpend (mandate : Mandate) (terms : Terms) (now : Time) (decision : Decision) : Decision :=
  match mandate.permitsCommit terms now with
  | .error e =>
    { decision with
      outcome := .requireOwnerApproval
      reason := "outside what the owner authorised in advance: " ++ e.text }
  | .ok true =>
    { decision with
      outcome := .requireOwnerApproval
      reason := "above the amount the owner chose to decide personally" }
  | .ok false => decision

/-- Judge an action that would commit value: the ceiling and the mandate must both allow it. -/
def evaluateSpend (mandate : Mandate) (action : Action) (now : Time) : Except Failure Decision := do
  failIf (action.effect ≠ .spend) "EvaluateSpend judges a spend"
  let decision ← evaluate check policy action
  if decision.outcome = .refuse then pure decision
  else
    match action.terms with
    | none => pure { decision with outcome := .refuse, reason := "a spend must say what it is buying" }
    | some terms =>
      match terms.validate with
      | .error e =>
        pure { decision with outcome := .refuse, reason := "the terms are not a complete purchase: " ++ e.text }
      | .ok _ => pure (judgeSpend mandate terms now decision)

/-! ## What a decision rests on -/

section
variable {check : PhysicalOperation → Except Failure Unit} {policy : Policy} {action : Action} {decision : Decision}

/-- A decision that is no refusal is the policy's verdict on a well-formed action. -/
theorem evaluate_ok (h : evaluate check policy action = .ok decision) (hrfu : decision.outcome ≠ .refuse) :
    action.validate check = .ok () ∧ decision.outcome = (verdict policy action).1 ∧
      decision.reason = (verdict policy action).2 ∧ decision.provenance = action.provenance := by
  obtain ⟨_, -, h⟩ := seq_ok.mp h
  cases hval : action.validate check with
  | error e =>
    rw [hval] at h
    cases h
    exact absurd rfl hrfu
  | ok _ =>
    rw [hval] at h
    cases h
    exact ⟨rfl, rfl, rfl, rfl⟩

theorem judgeSpend_provenance (mandate : Mandate) (terms : Terms) (now : Time) (decision : Decision) :
    (judgeSpend mandate terms now decision).provenance = decision.provenance := by
  unfold judgeSpend
  split <;> rfl

/-- **A spend that is not refused** is well formed, buys something complete, and is judged by the
    policy and then by the mandate. -/
theorem evaluateSpend_ok {mandate : Mandate} {now : Time}
    (h : evaluateSpend check policy mandate action now = .ok decision) (hrfu : decision.outcome ≠ .refuse) :
    action.effect = .spend ∧ action.validate check = .ok () ∧ decision.provenance = action.provenance ∧
      ∃ terms base, action.terms = some terms ∧ terms.validate = .ok () ∧ evaluate check policy action = .ok base ∧
        base.outcome ≠ .refuse ∧ decision = judgeSpend mandate terms now base := by
  obtain ⟨heff, h⟩ := failIf_then.mp h
  obtain ⟨base, hba, h⟩ := seq_ok.mp h
  by_cases href : base.outcome = .refuse
  · rw [if_pos href] at h
    cases h
    exact absurd href hrfu
  rw [if_neg href] at h
  obtain ⟨hval, -, -, hprv⟩ := evaluate_ok hba href
  cases htms : action.terms with
  | none =>
    simp only [htms] at h
    cases h
    exact absurd rfl hrfu
  | some terms =>
    simp only [htms] at h
    cases hterms : terms.validate with
    | error e =>
      simp only [hterms] at h
      cases h
      exact absurd rfl hrfu
    | ok _ =>
      simp only [hterms] at h
      cases h
      exact ⟨not_not.mp heff, hval, (judgeSpend_provenance ..).trans hprv, terms, base, rfl, hterms, hba, href, rfl⟩

end

/-! ## What a well-formed action cites -/

theorem validateOrigins_ok {seen : List EventID} {origins : List Origin}
    (h : validateOrigins seen origins = .ok ()) : ∀ origin ∈ origins, origin.validate = .ok () := by
  induction origins generalizing seen with
  | nil => exact List.forall_mem_nil _
  | cons origin origins ih =>
    obtain ⟨_, horigin, h⟩ := seq_ok.mp h
    obtain ⟨_, -, h⟩ := seq_ok.mp h
    exact List.forall_mem_cons.mpr ⟨horigin, ih h⟩

end Messenger.Firewall
