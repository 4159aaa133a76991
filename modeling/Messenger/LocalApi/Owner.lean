import Messenger.LocalApi.Request
import Messenger.Lib.Run

/-!
# `LocalApi.Owner` — what an owner signs, and the challenges a signature answers

A deciding operation carries the owner's signature over its preimage (`decisionBytes`) and names a
challenge issued by the server. The challenges stand in memory under one lock: `issue` and `spend`
are the two things that happen to them, each at one point in time, whichever connection they come
from. A restart starts with none.

`handle` is one request from the frame to the handler. What a handler of a deciding operation acts
on is `Request.decision`: the fields it hands on to the journal or the dispatcher, as the request
has them.

The signature scheme is a parameter, `verify`; instants are in nanoseconds.
-/

namespace Messenger.LocalApi.Wire

open Canon (Field hexDecode)

/-! ## The preimage of a decision -/

def requestSchema : String := "tos.messaging.local-request.v15"
def domainOwnerDecision : String := "tos.messaging.owner-decision.v1\x00"

/-- The fields of a mandate. Its network hashes enter as bytes. -/
def MandateTerms.fields (mandate : MandateTerms) (genesisRoot genesisFile : Bytes) : List Field :=
  [.text mandate.objective, .text mandate.authority, .text mandate.capabilityClass, .text mandate.asset.networkID,
    .bytes genesisRoot, .bytes genesisFile, .uint32 (Canon.uint32 mandate.asset.workchain.toInt),
    .text mandate.asset.accountID, .text mandate.asset.masterCodeHash, .text mandate.asset.walletCodeHash,
    .uint32 mandate.asset.decimals.toNat, .text mandate.maxTotalAtomic, .text mandate.approvalAboveAtomic,
    .uint32 mandate.maxCounteroffers.toNat, .uint64 mandate.expiresAtUnix.toNat]

/-- A mandate is placed by value, so its fields are what is signed. -/
def mandateFields : Option MandateTerms → Except Failure (List Field)
  | none => .ok []
  | some mandate =>
    match hexDecode mandate.asset.genesisRootHash, hexDecode mandate.asset.genesisFileHash with
    | some genesisRoot, some genesisFile =>
      if genesisRoot.length ≠ 32 ∨ genesisFile.length ≠ 32 then .error (.other "invalid mandate network hashes")
      else .ok (mandate.fields genesisRoot genesisFile)
    | _, _ => .error (.other "invalid mandate network hashes")

variable (request : Request)

/-- The fields every decision commits. -/
def Request.headFields (challenge : String) : List Field :=
  [.text requestSchema, .text request.op.text, .text challenge, .text request.eventID, .text request.actionID,
    .text request.mandateID, .text request.code, .text request.reason, .text request.invitedAgentID,
    .uint64 request.inviteExpiresAtUnix.toNat]

/-- The fields of the two operations with terms of their own. -/
def Request.termsFields : List Field :=
  match request.op with
  | .recordEscrowLocation =>
    [.text request.quoteCommitment, .text request.escrowAddress, .text request.capabilityClass]
  | .exportDeviceHistory =>
    [.text request.targetDeviceID, .text request.conversationID, .uint64 request.historySequence.toNat,
      .text request.previousSegmentDigest, .uint64 request.afterCreatedAtUnix.toNat, .text request.afterEventID,
      .uint32 (Canon.uint32 request.limit), .text request.idempotencyKey, .uint64 request.expiresAtUnix.toNat]
  | _ => []

/-- **What an owner signs to authorise one decision.** -/
def decisionBytes (challenge : String) : Except Failure Bytes := do
  failIf (¬Deciding request.op) "this operation is not an owner decision"
  failIf (¬challengePattern challenge) "invalid decision challenge"
  let mandate ← mandateFields request.mandate
  pure (Canon.preimage domainOwnerDecision (request.headFields challenge ++ (request.termsFields ++ mandate)))

/-! ## Challenges -/

/-- Nanoseconds. -/
abbrev Instant := Int

def defaultChallengeLifetime : Int := 2 * 60 * 10 ^ 9
def maxOutstandingChallenges : Nat := 64

/-- The outstanding challenges with their deadlines. -/
structure Challenges where
  issued : List (String × Instant) := []
  lifetime : Int
  deriving DecidableEq, Repr

namespace Challenges

def new (lifetime : Int) : Challenges where
  lifetime := if lifetime ≤ 0 then defaultChallengeLifetime else lifetime

variable (c : Challenges) (value : String) (now : Instant)

/-- Forget what no longer stands. -/
def expire : Challenges :=
  { c with issued := c.issued.filter fun entry => now < entry.2 }

/-- Put one challenge on the books; `value` is what the random source gave. -/
def issue : Challenges × Except Failure String :=
  let c := c.expire now
  if maxOutstandingChallenges ≤ c.issued.length then
    (c, .error (.other "too many decision challenges are outstanding"))
  else
    ({ c with issued := (value, now + c.lifetime) :: c.issued.filter fun entry => entry.1 ≠ value }, .ok value)

/-- Consume a challenge, once. -/
def spend : Challenges × Except Failure Unit :=
  let c := c.expire now
  let spent : Challenges := { c with issued := c.issued.filter fun entry => entry.1 ≠ value }
  match c.issued.lookup value with
  | none => (c, .error (.other "this decision challenge was never issued, or has already been used"))
  | some deadline =>
    if ¬now < deadline then (spent, .error (.other "this decision challenge has expired"))
    else (spent, .ok ())

end Challenges

/-! ## Handling a request -/

/-- Which side of the boundary a connection speaks for. -/
inductive Principal where
  | runtime
  | owner
  deriving DecidableEq, Repr

def Principal.text : Principal → String
  | .runtime => "runtime"
  | .owner => "owner"

/-- The operations of each side. -/
def permitted : Principal → List Operation
  | .runtime => [.pending, .claim, .pendingAgentGifts, .claimAgentGift, .pendingAgreements,
      .claimAgreement, .pendingPrivateHandoffs, .claimPrivateHandoff, .pendingCommerceProfileEvents,
      .claimCommerceProfileEvent, .complete, .reject, .queue, .compose, .composeProtocolResult,
      .resolveContact, .ensureDirectConversation, .sendDirect, .sendDirectApplication, .economicSendDirect,
      .economicActionStatus, .replyDirect, .pendingAttachments, .claimAttachment, .beginOutboundAttachment,
      .appendOutboundAttachment, .commitOutboundAttachment, .requestAction, .actionStatus,
      .claimAction, .listMandates, .verifyAcceptedQuote]
  | .owner => [.awaitingAdmission, .admitEvent, .refuseEvent, .approve, .deny, .pendingActions,
      .grantAction, .denyAction, .placeMandate, .revokeMandate, .listMandates, .challenge,
      .createAdmissionInvite, .recordEscrowLocation, .exportDeviceHistory, .listDeviceHistory]

/-- What a handler of a deciding operation acts on: the request's fields it hands on. -/
inductive Decision where
  | admitEvent (eventID : String)
  /-- An empty code stands for the code of a plain rejection. -/
  | denyEvent (eventID code : String)
  | resume (eventID : String)
  | abandon (eventID : String)
  | grantAction (actionID : String)
  | denyAction (actionID reason : String)
  | placeMandate (mandate : MandateTerms)
  | revokeMandate (mandateID : String)
  | createAdmissionInvite (invitedAgentID : String) (inviteExpiresAtUnix : UInt64)
  | recordEscrowLocation (quoteCommitment escrowAddress capabilityClass : String)
  | composeHistory (targetDeviceID conversationID : String) (sequence : UInt64) (previousSegmentDigest : String)
      (afterCreatedAtUnix : UInt64) (afterEventID : String) (limit : Int) (idempotencyKey : String)
      (expiresAtUnix : UInt64)
  deriving DecidableEq, Repr

def Request.decision : Option Decision :=
  match request.op with
  | .admitEvent => some (.admitEvent request.eventID)
  | .refuseEvent => some (.denyEvent request.eventID request.code)
  | .approve => some (.resume request.eventID)
  | .deny => some (.abandon request.eventID)
  | .grantAction => some (.grantAction request.actionID)
  | .denyAction => some (.denyAction request.actionID request.reason)
  | .placeMandate => request.mandate.map .placeMandate
  | .revokeMandate => some (.revokeMandate request.mandateID)
  | .createAdmissionInvite => some (.createAdmissionInvite request.invitedAgentID request.inviteExpiresAtUnix)
  | .recordEscrowLocation =>
    some (.recordEscrowLocation request.quoteCommitment request.escrowAddress request.capabilityClass)
  | .exportDeviceHistory =>
    some (.composeHistory request.targetDeviceID request.conversationID request.historySequence
      request.previousSegmentDigest request.afterCreatedAtUnix request.afterEventID request.limit request.idempotencyKey
      request.expiresAtUnix)
  | _ => none

/-- The signature scheme under the owner's key. -/
abbrev Verifier := Bytes → Bytes → Bool

def signatureSize : Nat := 64

/-- Check that a decision came from the owner. The challenge is spent only after the signature
    verifies. -/
def authoriseDecision (verify : Verifier) (c : Challenges) (request : Request) (now : Instant) :
    Challenges × Except Failure Unit :=
  if ¬Deciding request.op then (c, .ok ())
  else
    match hexDecode request.ownerSignature with
    | none => (c, .error (.other "invalid owner signature"))
    | some signature =>
      if signature.length ≠ signatureSize then (c, .error (.other "invalid owner signature"))
      else
        match decisionBytes request request.challenge with
        | .error e => (c, .error e)
        | .ok preimage =>
          if ¬verify preimage signature then (c, .error (.other "this decision was not signed by the owner"))
          else c.spend request.challenge now

/-- What came of a request. -/
inductive Answer where
  | refused (code : Fault.Code) (e : Failure)
  /-- The handler of a deciding operation acts. -/
  | decides (decision : Option Decision)
  | issued (challenge : String)
  /-- Another operation is served. -/
  | serves
  deriving DecidableEq, Repr

/-- **One request.** `value` is what the random source would give for a challenge. -/
def handle (rules : EconomicRules) (verify : Verifier) (c : Challenges) (principal : Principal)
    (request : Request) (value : String) (now : Instant) : Challenges × Answer :=
  match validateRequest rules request with
  | .error e => (c, .refused .internal e)
  | .ok _ =>
    if request.op ∉ permitted principal then
      (c, .refused .classNotDelegated (.other (principal.text ++ " may not perform " ++ request.op.text)))
    else
      match authoriseDecision verify c request now with
      | (c, .error e) => (c, .refused .notAuthentic e)
      | (c, .ok _) =>
        if Deciding request.op then (c, .decides request.decision)
        else if request.op = .challenge then
          match c.issue value now with
          | (c, .error e) => (c, .refused .internal e)
          | (c, .ok value) => (c, .issued value)
        else (c, .serves)

end Messenger.LocalApi.Wire
