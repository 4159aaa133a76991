import Messenger.Base

/-!
# `Admission.Policy` — what an inbox says about a sender, and what a sender is told

The closed set of inbox policies (`pkg/admission/policy.go`): an open inbox, or an allow list with a
rule for senders it does not name. A document that does not validate cannot be built here: only an
allow list has a rule for unknown senders.

A refusal carries a fault code. What the sender learns of it is its peer response
(`pkg/fault/response.go`).
-/

namespace Messenger

namespace Fault

/-- Is the code told to the other side? -/
def peerVisible : Code → Bool
  | .locatorStale | .unreachable | .timeout | .notAuthentic | .replayed | .approvalRequired | .internal => false
  | _ => true

/-- Does the code carry a hint when to come back? -/
def retryHint : Code → Bool
  | .rateLimited | .admissionRequired | .relayFull | .quotaExceeded => true
  | _ => false

def maxRetryAfterSeconds : Nat := 24 * 60 * 60

/-- What may be returned to the sender. -/
structure Response where
  code : Code
  retryAfterSeconds : Nat := 0
  deriving DecidableEq, Repr

/-- A hidden code becomes a plain rejection. -/
def peerCode (code : Code) (retryAfterSeconds : Nat) : Response :=
  if !peerVisible code then { code := .rejected }
  else if !retryHint code || retryAfterSeconds = 0 then { code }
  else { code, retryAfterSeconds := min retryAfterSeconds maxRetryAfterSeconds }

end Fault

namespace Admission

/-- What an inbox policy says about a sender (the source's `Admission`). -/
inductive InboxAdmission where
  | allow
  | requireAdmission
  | holdForApproval
  | inviteOrHold
  | deny
  deriving DecidableEq, Repr

/-- What happens to a sender the roster does not name. -/
inductive UnknownSenderRule where
  | tellThem
  | askTheOwner
  | inviteOrAskOwner
  deriving DecidableEq, Repr

/-- The published description of an inbox policy. -/
inductive InboxPolicyDocument where
  | openInbox
  | allowList (unknown : UnknownSenderRule)
  deriving DecidableEq, Repr

/-- The recipient's private contact list. -/
structure Roster where
  known : List AgentID
  blocked : List AgentID
  deriving DecidableEq, Repr

structure ContactPolicy where
  document : InboxPolicyDocument
  roster : Roster
  deriving DecidableEq, Repr

/-- How an event from one Agent should be treated. -/
def ContactPolicy.admits (p : ContactPolicy) (senderAgentID : AgentID) : InboxAdmission :=
  match p.document with
  | .openInbox => .allow
  | .allowList unknown =>
    if senderAgentID ∈ p.roster.blocked then .deny
    else if senderAgentID ∈ p.roster.known then .allow
    else
      match unknown with
      | .askTheOwner => .holdForApproval
      | .inviteOrAskOwner => .inviteOrHold
      | .tellThem => .requireAdmission

/-- The failure code of a policy's answer. -/
def codeFor : InboxAdmission → Except Failure Fault.Code
  | .requireAdmission => .ok .admissionRequired
  | .holdForApproval => .ok .approvalRequired
  | .deny => .ok .rejected
  | .allow | .inviteOrHold => .error (.other "policy returned an unknown admission")

end Admission

end Messenger
