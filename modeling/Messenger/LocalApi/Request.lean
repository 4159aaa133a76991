import Messenger.Canon
import Messenger.Negotiation.Terms

/-!
# `LocalApi.Request` — requests over the local socket and the shape each operation needs

A `Request` has one field for everything any operation can carry; `validateRequest` is what keeps an
operation from carrying a field it does not use. It first checks, field by field, that only the
operations meant to carry the field do, and then the operation's own fields.

Texts are texts here, not identifiers: an operation checks the pattern of the fields it uses, and a
field it does not use may hold anything the first checks let through.

The rules of economic actions are those of the service protocol's own package and enter as the
parameters of `EconomicRules`. A pointer of the source is an `Option`; of the records behind the
pointers, the fields that are read.
-/

namespace Messenger.LocalApi.Wire

open Canon (tagged hashPattern validDigest)

/-- What a caller is asking for. -/
inductive Operation where
  | pending | claim | pendingAgentGifts | claimAgentGift | pendingAgreements | claimAgreement
  | pendingPrivateHandoffs | claimPrivateHandoff | pendingCommerceProfileEvents | claimCommerceProfileEvent
  | complete | reject | queue | compose | composeProtocolResult | resolveContact | ensureDirectConversation
  | sendDirect | sendDirectApplication | economicSendDirect | economicActionStatus | replyDirect
  | pendingAttachments | claimAttachment | beginOutboundAttachment | appendOutboundAttachment
  | commitOutboundAttachment
  | awaitingAdmission | admitEvent | refuseEvent | approve | deny
  | requestAction | actionStatus | claimAction | pendingActions | grantAction | denyAction
  | placeMandate | revokeMandate | challenge | listMandates | createAdmissionInvite | recordEscrowLocation
  | verifyAcceptedQuote | exportDeviceHistory | listDeviceHistory
  deriving DecidableEq, Repr

/-- An operation's name on the wire. -/
def Operation.text : Operation → String
  | .pending => "inbox.pending"
  | .claim => "inbox.claim"
  | .pendingAgentGifts => "agent-gifts.pending"
  | .claimAgentGift => "agent-gifts.claim"
  | .pendingAgreements => "agreements.pending"
  | .claimAgreement => "agreements.claim"
  | .pendingPrivateHandoffs => "private-handoffs.pending"
  | .claimPrivateHandoff => "private-handoffs.claim"
  | .pendingCommerceProfileEvents => "commerce-profile-events.pending"
  | .claimCommerceProfileEvent => "commerce-profile-events.claim"
  | .complete => "inbox.complete"
  | .reject => "inbox.reject"
  | .queue => "outbox.queue"
  | .compose => "outbox.compose"
  | .composeProtocolResult => "outbox.compose-protocol-result"
  | .resolveContact => "contacts.resolve"
  | .ensureDirectConversation => "conversations.ensure-direct"
  | .sendDirect => "messages.send-direct"
  | .sendDirectApplication => "messages.send-direct-application"
  | .economicSendDirect => "economic.messages.send-direct"
  | .economicActionStatus => "economic.actions.status"
  | .replyDirect => "messages.reply-direct"
  | .pendingAttachments => "attachments.pending"
  | .claimAttachment => "attachments.claim"
  | .beginOutboundAttachment => "attachments.outbound.begin"
  | .appendOutboundAttachment => "attachments.outbound.chunk"
  | .commitOutboundAttachment => "attachments.outbound.commit"
  | .awaitingAdmission => "approvals.pending"
  | .admitEvent => "approvals.admit"
  | .refuseEvent => "approvals.refuse"
  | .approve => "owner.approve"
  | .deny => "owner.deny"
  | .requestAction => "actions.request"
  | .actionStatus => "actions.status"
  | .claimAction => "actions.claim"
  | .pendingActions => "actions.pending"
  | .grantAction => "actions.grant"
  | .denyAction => "actions.deny"
  | .placeMandate => "mandates.place"
  | .revokeMandate => "mandates.revoke"
  | .challenge => "owner.challenge"
  | .listMandates => "mandates.list"
  | .createAdmissionInvite => "invites.create"
  | .recordEscrowLocation => "escrow-locations.record"
  | .verifyAcceptedQuote => "quotes.verify"
  | .exportDeviceHistory => "device-history.export"
  | .listDeviceHistory => "device-history.list"

/-- An asset as the chain names it. -/
structure AssetIdentity where
  networkID : String
  genesisRootHash : String
  genesisFileHash : String
  workchain : Int32
  accountID : String
  masterCodeHash : String
  walletCodeHash : String
  decimals : UInt32
  deriving DecidableEq, Repr

/-- What an owner authorises in advance. -/
structure MandateTerms where
  objective : String
  authority : String
  capabilityClass : String
  asset : AssetIdentity
  maxTotalAtomic : String
  approvalAboveAtomic : String
  maxCounteroffers : UInt32
  expiresAtUnix : UInt64
  deriving DecidableEq, Repr

/-- A local operation on the physical world. -/
structure PhysicalOperation where
  capabilityID : String
  tool : String
  operation : String
  argumentsDigest : String
  argumentsJSON : String
  deriving DecidableEq, Repr

/-- The part of a proposed action that decides which fields it needs. -/
structure ProposedAction where
  effect : String
  idempotencyKey : String := ""
  terms : Option Negotiation.Terms := none
  physical : Option PhysicalOperation := none
  deriving DecidableEq, Repr

/-- One call over the local socket. -/
structure Request where
  op : Operation
  eventID : String := ""
  leaseID : String := ""
  leaseSeconds : UInt64 := 0
  code : String := ""
  limit : Int := 0
  recipient : String := ""
  event : Bytes := []
  sessionID : String := ""
  recipientEndpointID : String := ""
  recipientAgentID : String := ""
  expiresAtUnix : UInt64 := 0
  conversationID : String := ""
  roomID : String := ""
  replyToEventID : String := ""
  membershipEpoch : UInt64 := 0
  mediaType : String := ""
  body : String := ""
  idempotencyKey : String := ""
  protocolKind : String := ""
  protocol : String := ""
  protocolVersion : String := ""
  protocolBody : Bytes := []
  applicationKind : String := ""
  applicationBody : Bytes := []
  /-- The kind of the economic action, where there is one. -/
  economicAction : Option String := none
  economicWriterFence : Bool := false
  economicFields : List Bytes := []
  exactEconomicRequest : Bytes := []
  economicStableID : String := ""
  economicRequestDigest : String := ""
  action : Option ProposedAction := none
  actionID : String := ""
  reason : String := ""
  mandate : Option MandateTerms := none
  challenge : String := ""
  ownerSignature : String := ""
  mandateID : String := ""
  invitedAgentID : String := ""
  inviteExpiresAtUnix : UInt64 := 0
  quoteCommitment : String := ""
  escrowAddress : String := ""
  capabilityClass : String := ""
  expectedQuoteTerms : Option Negotiation.Terms := none
  targetDeviceID : String := ""
  historySequence : UInt64 := 0
  previousSegmentDigest : String := ""
  afterCreatedAtUnix : UInt64 := 0
  afterEventID : String := ""
  filename : String := ""
  plaintextDigest : String := ""
  plaintextBytes : UInt64 := 0
  uploadID : String := ""
  chunkIndex : UInt32 := 0
  chunk : Bytes := []
  deriving DecidableEq, Repr

/-! ## Patterns and bounds -/

def eventPattern := tagged "evt_"
def leasePattern := tagged "lease_"
def sessionPattern := tagged "ses_"
def endpointPattern := tagged "mep_"
def actionPattern := tagged "act_"
def idempotencyPattern := tagged "idem_"
def conversationPattern := tagged "conv_"
def roomPattern := tagged "room_"
def mandatePattern := tagged "mdt_"
def agentPattern := tagged "agent_"
def devicePattern := tagged "dev_"
def challengePattern := hashPattern
def quotePattern := tagged "tvm-cell-sha256:"
def uploadPattern := tagged "attup_"
def capabilityPattern := tagged "cap_"
def canonicalDigestPattern := tagged "sha256:"

/-- `^[a-z][a-z0-9_-]{0,63}$` -/
def physicalNamePattern (text : String) : Bool :=
  text.toList.head?.any Char.isLower && text.toList.length ≤ 64 &&
    text.toList.all fun c => c.isLower || c.isDigit || c == '_' || c == '-'

def maxEventsPerResponse : Int := 64
def maxHistoryEventsPerResponse : Int := 3
def maxHistoryEventsPerSegment : Int := 16
def maxAgreementPromotionBytes : Nat := 96 * 2 ^ 10
def maxGiftCanonicalBytes : Nat := 64 * 2 ^ 10
def maxPhysicalArgumentsBytes : Nat := 8 * 2 ^ 10

/-- What the service protocol's package says about economic actions. -/
structure EconomicRules where
  maxActionRequestBytes : Nat
  importSemanticFields : String → List Bytes → Except Failure Unit
  decodeMessengerEffectRequest : Bytes → Except Failure Unit

/-! ## Owner decisions -/

/-- The operations that change something on the owner's authority. -/
def deciding : List Operation := [.admitEvent, .refuseEvent, .approve, .deny, .grantAction, .denyAction, .placeMandate,
  .revokeMandate, .createAdmissionInvite, .recordEscrowLocation, .exportDeviceHistory]

/-- Does the operation need the owner's signature? -/
def Deciding (op : Operation) : Prop := op ∈ deciding

instance (op : Operation) : Decidable (Deciding op) := inferInstanceAs (Decidable (op ∈ deciding))

/-! ## Validation -/

variable (request : Request)

/-- The fields an operation has no use for are empty, and it carries no event. -/
def requireEmpty (operation : String) (fields : List String) : Except Failure Unit := do
  failIf (∃ field ∈ fields, field ≠ "") (operation ++ " carries a field it does not use")
  failIf (request.event ≠ []) (operation ++ " carries an event it does not use")

/-- An owner decision carries an authorisation, and nothing else does. -/
def validateAuthorisation : Except Failure Unit :=
  if Deciding request.op then do
    failIf (¬challengePattern request.challenge) "an owner decision needs a challenge"
    failIf (request.ownerSignature = "") "an owner decision needs the owner's signature"
  else failIf (request.challenge ≠ "" ∨ request.ownerSignature ≠ "")
    "only an owner decision carries a challenge and a signature"

/-- The operations that submit a message with its body. -/
def composing : List Operation := [.compose, .sendDirect, .replyDirect, .composeProtocolResult,
    .beginOutboundAttachment]

/-- The checks made for every operation: a field stands only in the operations that are meant to
    carry it. -/
def validateCarried : Except Failure Unit := do
  let op := request.op
  failIf (op ∉ [.economicSendDirect, .economicActionStatus] ∧
    (request.economicAction.isSome ∨ request.economicWriterFence ∨ request.economicFields ≠ [] ∨
    request.exactEconomicRequest ≠ [] ∨ request.economicStableID ≠ "" ∨
    request.economicRequestDigest ≠ "")) "only economic operations carry economic authorization"
  failIf (op ≠ .createAdmissionInvite ∧ (request.invitedAgentID ≠ "" ∨ request.inviteExpiresAtUnix ≠ 0))
    "only admission invite creation carries invite terms"
  failIf (op ∉ [.resolveContact, .ensureDirectConversation, .sendDirect, .sendDirectApplication] ∧
    request.recipient ≠ "")
    "only contact or direct-conversation resolution carries a recipient input"
  failIf (op ≠ .compose ∧ request.recipientAgentID ≠ "")
    "only message composition carries a recipient Agent assertion"
  failIf (op ∉ [.recordEscrowLocation, .verifyAcceptedQuote] ∧ request.quoteCommitment ≠ "")
    "only escrow recording or Quote verification carries a Quote commitment"
  failIf (op ∉ [.recordEscrowLocation, .verifyAcceptedQuote] ∧
    (request.escrowAddress ≠ "" ∨ request.capabilityClass ≠ ""))
    "only escrow recording or Quote verification carries funded escrow locators"
  failIf (op ≠ .verifyAcceptedQuote ∧ request.expectedQuoteTerms.isSome)
    "only Quote verification carries expected Quote terms"
  failIf (op ∉ composing ++ [.sendDirectApplication, .exportDeviceHistory, .listDeviceHistory] ∧
    (request.conversationID ≠ "" ∨ request.idempotencyKey ≠ "")) "only outbound composition carries message semantics"
  failIf (op = .listDeviceHistory ∧ request.idempotencyKey ≠ "") "a history listing has no idempotency key"
  failIf (op ∉ composing ∧ (request.roomID ≠ "" ∨ request.replyToEventID ≠ "" ∨ request.membershipEpoch ≠ 0 ∨
    request.mediaType ≠ "" ∨ request.body ≠ "")) "only message composition carries message body semantics"
  failIf (op = .beginOutboundAttachment ∧ request.body ≠ "") "outbound attachment begin does not carry an inline body"
  failIf (op ≠ .composeProtocolResult ∧ (request.protocolKind ≠ "" ∨ request.protocol ≠ "" ∨
    request.protocolVersion ≠ "" ∨ request.protocolBody ≠ []))
    "only protocol result composition carries protocol body semantics"
  failIf (op ≠ .sendDirectApplication ∧ (request.applicationKind ≠ "" ∨ request.applicationBody ≠ []))
    "only direct application sending carries an application object"
  failIf (op ≠ .beginOutboundAttachment ∧ (request.filename ≠ "" ∨ request.plaintextDigest ≠ "" ∨
    request.plaintextBytes ≠ 0)) "only outbound attachment begin carries plaintext metadata"
  failIf (op ∉ [.appendOutboundAttachment, .commitOutboundAttachment] ∧ request.uploadID ≠ "")
    "only an outbound attachment transaction carries an upload identifier"
  failIf (op ≠ .appendOutboundAttachment ∧ (request.chunkIndex ≠ 0 ∨ request.chunk ≠ []))
    "only an outbound attachment chunk carries chunk bytes"
  failIf (op ≠ .exportDeviceHistory ∧ (request.targetDeviceID ≠ "" ∨ request.historySequence ≠ 0 ∨
    request.previousSegmentDigest ≠ "" ∨ request.afterCreatedAtUnix ≠ 0 ∨ request.afterEventID ≠ ""))
    "only device-history export carries history terms"

/-- A listing names nothing and asks for a bounded number of entries. -/
def validateListing : Except Failure Unit := do
  failIf (request.limit < 0 ∨ maxEventsPerResponse < request.limit) "invalid pending limit"
  requireEmpty request "a listing" [request.eventID, request.leaseID, request.sessionID]

/-- A claim names an event and a lease, for a time. -/
def validateClaim : Except Failure Unit := do
  failIf (¬(eventPattern request.eventID ∧ leasePattern request.leaseID)) "a claim needs an event and a lease"
  failIf (request.leaseSeconds = 0) "a claim needs a lease duration"

/-- A room and its membership epoch come together. -/
def validateRoom (message : String) : Except Failure Unit :=
  if request.roomID = "" then failIf (request.membershipEpoch ≠ 0)
    ("a direct " ++ message ++ " has no membership epoch")
  else failIf (¬roomPattern request.roomID ∨ request.membershipEpoch = 0)
    ("a room " ++ message ++ " needs a canonical room and membership epoch")

/-- A proposed action carries what its effect needs, and names a mandate exactly when it is a spend. -/
def validateProposal (action : ProposedAction) : Except Failure Unit := do
  failIf (request.actionID ≠ "") "the action identifier is derived, not declared"
  let oneShotTool := action.effect = "tool-call" ∨ action.effect = "physical-io"
  failIf (oneShotTool ∧ ¬idempotencyPattern action.idempotencyKey) "a tool call needs a canonical idempotency key"
  failIf (¬oneShotTool ∧ action.idempotencyKey ≠ "") "only a tool call carries an idempotency key"
  if action.effect = "physical-io" then
    failIf (¬action.physical.any fun physical => capabilityPattern physical.capabilityID &&
      physicalNamePattern physical.tool && physicalNamePattern physical.operation &&
      validDigest physical.argumentsDigest && physical.argumentsJSON ≠ "" &&
      physical.argumentsJSON.utf8ByteSize ≤ maxPhysicalArgumentsBytes)
      "physical I/O needs a canonical local Capability, operation, and argument digest"
  else failIf action.physical.isSome "only physical I/O carries a physical operation"
  if action.effect = "spend" then do
    failIf action.terms.isNone "a spend must say what it is buying"
    failIf (¬mandatePattern request.mandateID) "a spend must name the mandate it is made under"
  else failIf (action.terms.isSome ∨ request.mandateID ≠ "") "only a spend carries terms and a mandate"

/-- A cursor into a device's history: at its start, or behind a segment already exported. -/
def Request.validCursor : Prop :=
  (request.historySequence = 1 ∧ request.previousSegmentDigest = "" ∧ request.afterCreatedAtUnix = 0 ∧
    request.afterEventID = "") ∨
  (1 < request.historySequence ∧ validDigest request.previousSegmentDigest ∧ 0 < request.afterCreatedAtUnix ∧
    eventPattern request.afterEventID)

instance (request : Request) : Decidable request.validCursor := inferInstanceAs (Decidable (_ ∨ _))

/-- The checks of an operation on the owner's authority. -/
def validateDecision : Except Failure Unit :=
  match request.op with
  | .approve | .deny | .admitEvent => do
    failIf (¬eventPattern request.eventID) "an owner decision needs an event"
    requireEmpty request "an owner decision" [request.leaseID, request.sessionID]
  | .refuseEvent => do
    failIf (¬eventPattern request.eventID) "an owner decision needs an event"
    failIf (request.code ≠ "" ∧ ¬Fault.known request.code) "unknown refusal code"
    requireEmpty request "an owner decision" [request.leaseID, request.sessionID]
  | .grantAction => do
    failIf (¬actionPattern request.actionID) "an owner decision needs an action"
    failIf (request.reason ≠ "") "a grant carries no reason"
    requireEmpty request "an owner decision" [request.eventID, request.leaseID, request.sessionID]
  | .denyAction => do
    failIf (¬actionPattern request.actionID) "an owner decision needs an action"
    failIf (request.reason = "") "a refusal must say why"
    requireEmpty request "an owner decision" [request.eventID, request.leaseID, request.sessionID]
  | .placeMandate => do
    failIf request.mandate.isNone "placing a mandate needs the mandate"
    failIf (request.mandateID ≠ "") "the mandate identifier is derived, not declared"
  | .revokeMandate => do
    failIf (¬mandatePattern request.mandateID) "withdrawing a mandate needs the mandate"
    requireEmpty request "an owner decision" [request.eventID, request.leaseID, request.sessionID]
  | .createAdmissionInvite => do
    failIf (request.invitedAgentID ≠ "" ∧ ¬agentPattern request.invitedAgentID)
      "an admission invite has an invalid Agent scope"
    failIf (request.inviteExpiresAtUnix = 0) "an admission invite needs an expiry"
    requireEmpty request "admission invite creation" [request.eventID, request.leaseID, request.sessionID]
  | .recordEscrowLocation => do
    failIf (¬quotePattern request.quoteCommitment ∨ request.escrowAddress = "" ∨
      80 < request.escrowAddress.utf8ByteSize ∨ request.capabilityClass = "" ∨
      64 < request.capabilityClass.utf8ByteSize)
      "recording an escrow location needs canonical funded escrow terms"
    requireEmpty request "escrow-location recording" [request.eventID, request.leaseID, request.sessionID]
  | .exportDeviceHistory => do
    failIf (¬conversationPattern request.conversationID ∨ ¬devicePattern request.targetDeviceID ∨
      ¬idempotencyPattern request.idempotencyKey ∨ request.expiresAtUnix = 0 ∨ request.limit < 0 ∨
      maxHistoryEventsPerSegment < request.limit ∨ ¬request.validCursor)
      "history export needs canonical target, cursor, expiry and idempotency terms"
    requireEmpty request "device-history export" [request.eventID, request.leaseID, request.sessionID]
  | _ => .error (.other "unknown local operation")

/-- The checks of an operation that is no decision. -/
def validateService (rules : EconomicRules) (request : Request) : Except Failure Unit :=
  match request.op with
  | .economicSendDirect => do
    failIf (request.economicAction.isNone ∨ ¬request.economicWriterFence ∨ request.economicFields = [] ∨
      request.exactEconomicRequest = [] ∨ rules.maxActionRequestBytes < request.exactEconomicRequest.length ∨
      request.economicStableID ≠ "" ∨ request.economicRequestDigest ≠ "")
      "an economic send needs one complete authorization envelope"
    rules.importSemanticFields (request.economicAction.getD "") request.economicFields
    rules.decodeMessengerEffectRequest request.exactEconomicRequest
    requireEmpty request "an economic send" [request.eventID, request.leaseID, request.sessionID, request.recipient,
      request.mediaType, request.body, request.applicationKind, request.idempotencyKey]
  | .economicActionStatus => do
    failIf (request.economicAction.isSome ∨ request.economicWriterFence ∨ request.economicFields ≠ [] ∨
      request.exactEconomicRequest ≠ [] ∨ ¬canonicalDigestPattern request.economicStableID ∨
      ¬canonicalDigestPattern request.economicRequestDigest)
      "economic action status needs one stable ID and exact request digest"
    requireEmpty request "an economic action status" [request.eventID, request.leaseID, request.sessionID]
  | .replyDirect => do
    failIf (¬eventPattern request.replyToEventID ∨ request.mediaType = "" ∨ request.body = "" ∨
      ¬idempotencyPattern request.idempotencyKey ∨ request.expiresAtUnix = 0)
      "a direct reply needs source Event, message, expiry and idempotency"
    failIf (request.recipient ≠ "" ∨ request.limit ≠ 0 ∨ request.code ≠ "" ∨ request.sessionID ≠ "" ∨
      request.recipientEndpointID ≠ "" ∨ request.recipientAgentID ≠ "" ∨ request.conversationID ≠ "" ∨
      request.roomID ≠ "" ∨ request.membershipEpoch ≠ 0) "a direct reply cannot carry low-level routing authority"
    requireEmpty request "a direct reply" [request.eventID, request.leaseID]
  | .sendDirect => do
    failIf (request.recipient = "" ∨ 255 < request.recipient.utf8ByteSize ∨ request.mediaType = "" ∨ request.body = "" ∨
      ¬idempotencyPattern request.idempotencyKey ∨ request.expiresAtUnix = 0)
      "a direct send needs recipient, message, expiry and idempotency"
    failIf (request.limit ≠ 0 ∨ request.code ≠ "" ∨ request.sessionID ≠ "" ∨ request.recipientEndpointID ≠ "" ∨
      request.recipientAgentID ≠ "" ∨ request.conversationID ≠ "" ∨ request.roomID ≠ "" ∨ request.replyToEventID ≠ "" ∨
      request.membershipEpoch ≠ 0) "a direct send cannot carry low-level routing authority"
    requireEmpty request "a direct send" [request.eventID, request.leaseID]
  | .sendDirectApplication => do
    failIf (request.recipient = "" ∨ 255 < request.recipient.utf8ByteSize ∨
      ¬idempotencyPattern request.idempotencyKey ∨ request.expiresAtUnix = 0 ∨
      request.applicationBody = [] ∨ maxAgreementPromotionBytes < request.applicationBody.length)
      "a direct application send needs recipient, bounded object, expiry and idempotency"
    failIf (request.applicationKind ∉ ["agent.gift.address-request", "agent.gift.address-response",
      "agent.gift.signed-boc-offer"]) "unsupported direct application kind"
    failIf (maxGiftCanonicalBytes < request.applicationBody.length) "Agent Gift application is oversized"
    failIf (request.mediaType ≠ "" ∨ request.body ≠ "" ∨ request.roomID ≠ "" ∨ request.replyToEventID ≠ "" ∨
      request.conversationID ≠ "" ∨ request.sessionID ≠ "" ∨ request.recipientEndpointID ≠ "" ∨
      request.recipientAgentID ≠ "") "a direct application cannot carry text, room, or route authority"
    requireEmpty request "a direct application send" [request.eventID, request.leaseID]
  | .resolveContact | .ensureDirectConversation => do
    failIf (request.recipient = "" ∨ 255 < request.recipient.utf8ByteSize)
      "recipient resolution needs one bounded input"
    failIf (request.limit ≠ 0 ∨ request.code ≠ "" ∨ request.recipientEndpointID ≠ "" ∨ request.expiresAtUnix ≠ 0 ∨
      request.leaseSeconds ≠ 0 ∨ request.action.isSome ∨ request.actionID ≠ "" ∨ request.reason ≠ "" ∨
      request.mandate.isSome ∨ request.mandateID ≠ "") "recipient resolution cannot carry route or control fields"
    requireEmpty request "recipient resolution" [request.eventID, request.leaseID, request.sessionID]
  | .pending | .pendingAgentGifts | .pendingAgreements | .pendingPrivateHandoffs | .pendingCommerceProfileEvents
  | .awaitingAdmission | .pendingAttachments | .pendingActions => validateListing request
  | .claim | .claimAgentGift | .claimAgreement | .claimPrivateHandoff | .claimCommerceProfileEvent
  | .claimAttachment => validateClaim request
  | .complete => failIf (¬(eventPattern request.eventID ∧ leasePattern request.leaseID))
      "an application outcome needs an event and a lease"
  | .reject => do
    failIf (¬(eventPattern request.eventID ∧ leasePattern request.leaseID))
      "an application outcome needs an event and a lease"
    failIf (request.code ≠ "" ∧ ¬Fault.known request.code) "unknown rejection code"
  | .queue => do
    failIf (request.event = []) "a submission needs an event"
    failIf (¬sessionPattern request.sessionID) "a submission needs a session"
    failIf (¬endpointPattern request.recipientEndpointID) "a submission needs a recipient endpoint"
    failIf (request.expiresAtUnix = 0) "a submission needs an expiry"
  | .compose => do
    failIf (¬conversationPattern request.conversationID ∨ ¬sessionPattern request.sessionID ∨
      ¬endpointPattern request.recipientEndpointID ∨ ¬idempotencyPattern request.idempotencyKey ∨
      request.expiresAtUnix = 0)
      "a composition needs canonical conversation, route, expiry and idempotency identifiers"
    validateRoom request "message"
    failIf (request.replyToEventID ≠ "" ∧ ¬eventPattern request.replyToEventID) "invalid reply event identifier"
    failIf (request.mediaType = "" ∨ request.body = "") "a composition needs media type and body"
    failIf (request.recipientAgentID ≠ "" ∧ ¬agentPattern request.recipientAgentID)
      "a composition has an invalid recipient Agent assertion"
  | .composeProtocolResult => do
    failIf (¬conversationPattern request.conversationID ∨ ¬eventPattern request.replyToEventID ∨
      ¬sessionPattern request.sessionID ∨ ¬endpointPattern request.recipientEndpointID ∨
      ¬idempotencyPattern request.idempotencyKey ∨ request.expiresAtUnix = 0 ∨ request.protocolBody = [])
      "a protocol result needs canonical source, route, expiry, idempotency and body"
    failIf (¬((request.protocolKind = "a2a.message" ∧ request.protocol = "a2a") ∨
      (request.protocolKind = "mcp.result" ∧ request.protocol = "mcp")) ∨ request.protocolVersion ≠ "1")
      "invalid protocol result profile"
    failIf (request.roomID ≠ "" ∨ request.membershipEpoch ≠ 0 ∨ request.mediaType ≠ "" ∨ request.body ≠ "")
      "a protocol result cannot carry text or room semantics"
  | .beginOutboundAttachment => do
    failIf (¬conversationPattern request.conversationID ∨ ¬sessionPattern request.sessionID ∨
      ¬endpointPattern request.recipientEndpointID ∨ ¬idempotencyPattern request.idempotencyKey)
      "an attachment begin needs canonical conversation, route and idempotency identifiers"
    validateRoom request "attachment"
    failIf (request.replyToEventID ≠ "" ∧ ¬eventPattern request.replyToEventID)
      "invalid attachment reply event identifier"
    failIf (request.filename = "" ∨ request.mediaType = "" ∨ ¬validDigest request.plaintextDigest ∨
      request.plaintextBytes = 0) "an attachment begin needs filename, media type, digest and size"
    failIf (request.expiresAtUnix ≠ 0) "attachment retention is daemon-owned"
  | .appendOutboundAttachment => failIf (¬uploadPattern request.uploadID ∨ request.chunk = [] ∨
      2 ^ 20 < request.chunk.length) "an attachment chunk needs a canonical upload and bounded bytes"
  | .commitOutboundAttachment => failIf (¬uploadPattern request.uploadID)
    "an attachment commit needs a canonical upload"
  | .requestAction =>
    match request.action with
    | none => .error (.other "a firewall decision needs the action itself")
    | some action => validateProposal request action
  | .listMandates | .challenge =>
    requireEmpty request "a listing" [request.eventID, request.leaseID, request.sessionID]
  | .verifyAcceptedQuote => do
    failIf (¬quotePattern request.quoteCommitment ∨ request.escrowAddress = "" ∨
      80 < request.escrowAddress.utf8ByteSize ∨ request.capabilityClass = "" ∨
      64 < request.capabilityClass.utf8ByteSize ∨ request.expectedQuoteTerms.isNone)
      "Quote verification needs an escrow locator, commitment, and complete expected terms"
    failIf (¬request.expectedQuoteTerms.any fun terms => terms.validate.toBool)
      "Quote verification carries invalid expected terms"
    requireEmpty request "Quote verification" [request.eventID, request.leaseID, request.sessionID]
  | .listDeviceHistory => do
    failIf (¬conversationPattern request.conversationID ∨ request.limit < 0 ∨
      maxHistoryEventsPerResponse < request.limit)
      "history listing needs a canonical conversation and bounded limit"
    requireEmpty request "device-history listing" [request.eventID, request.leaseID, request.sessionID]
  | .actionStatus | .claimAction => do
    failIf (¬actionPattern request.actionID) "an action status needs an action"
    requireEmpty request "an action status" [request.eventID, request.leaseID, request.sessionID]
  | _ => .error (.other "unknown local operation")

/-- **The shape each operation needs.** -/
def validateRequest (rules : EconomicRules) (request : Request) : Except Failure Unit := do
  validateAuthorisation request
  validateCarried request
  if Deciding request.op then validateDecision request else validateService rules request

end Messenger.LocalApi.Wire
