import Messenger.Payload.Attachment
import Messenger.Payload.Commerce
import Messenger.Payload.KindsMore
import Messenger.Payload.Terms

/-!
# `Payload.Registry` — every kind and the body it carries

The table that binds an event kind to its body (`registry.go`), and what is done with it
(`payload.go`): a body is written behind a domain that names its schema, and it is read under the
schema its kind has now or had before.

A body is a kind and a value of that kind's type. `codec` is the table: what a type of body checks,
writes and reads.
-/

namespace Messenger.Payload

open Canon Lib

/-- What bodies are checked against outside this package. -/
structure Rules where
  commerce : CommerceRules
  attachments : AttachmentRules

/-! ## Kinds -/

/-- The kinds with a codec. -/
inductive Kind where
  | text
  | conversationInvite
  | conversationAccept
  | presenceHint
  | giftAddressRequest
  | giftAddressResponse
  | giftSignedBOCOffer
  | taskRequest
  | taskProgress
  | taskResult
  | taskStatusRequest
  | negotiationProposal
  | negotiationCounterproposal
  | negotiationWithdraw
  | negotiationIntentAccept
  | negotiationIntentReject
  | intentApplication
  | agreementPropose
  | agreementAccept
  | agreementEvidence
  | agreementWithdraw
  | agreementDelivery
  | paidDemandProviderOffer
  | commerceProfileEvent
  | operationOutcome
  | privateHandoffChallenge
  | privateHandoffAuthorization
  | privateHandoffAcknowledgement
  | privateHandoffStatus
  | privateHandoffDelete
  | counterpartyApprovalRequest
  | counterpartyApprovalGranted
  | counterpartyApprovalDenied
  | ownerApprovalGrant
  | ownerApprovalDeny
  | a2aMessage
  | mcpCall
  | mcpResult
  | agentPacketMessage
  | artifactOffer
  | artifactReference
  | encryptedAttachment
  | quoteReference
  | escrowReference
  | receiptReference
  | deliveryAck
  | applicationAck
  | readAck
  | deviceHistorySegment
  | roomInvite
  | roomMembershipCommit
  | roomMessage
  | roomModeration
  deriving DecidableEq, Repr

namespace Kind

def name : Kind → String
  | .text => "text"
  | .conversationInvite => "conversation.invite"
  | .conversationAccept => "conversation.accept"
  | .presenceHint => "presence.hint"
  | .giftAddressRequest => "agent.gift.address-request"
  | .giftAddressResponse => "agent.gift.address-response"
  | .giftSignedBOCOffer => "agent.gift.signed-boc-offer"
  | .taskRequest => "agent.task.request"
  | .taskProgress => "agent.task.progress"
  | .taskResult => "agent.task.result"
  | .taskStatusRequest => "agent.task.status.request"
  | .negotiationProposal => "negotiation.proposal"
  | .negotiationCounterproposal => "negotiation.counterproposal"
  | .negotiationWithdraw => "negotiation.withdraw"
  | .negotiationIntentAccept => "negotiation.intent.accept"
  | .negotiationIntentReject => "negotiation.intent.reject"
  | .intentApplication => "intent.application"
  | .agreementPropose => "agreement.propose"
  | .agreementAccept => "agreement.accept"
  | .agreementEvidence => "agreement.evidence"
  | .agreementWithdraw => "agreement.withdraw"
  | .agreementDelivery => "agreement.delivery"
  | .paidDemandProviderOffer => "agreement.provider-offer"
  | .commerceProfileEvent => "commerce.profile-event"
  | .operationOutcome => "operation.outcome"
  | .privateHandoffChallenge => "private.handoff.challenge"
  | .privateHandoffAuthorization => "private.handoff.authorization"
  | .privateHandoffAcknowledgement => "private.handoff.acknowledgement"
  | .privateHandoffStatus => "private.handoff.status"
  | .privateHandoffDelete => "private.handoff.delete"
  | .counterpartyApprovalRequest => "counterparty.approval.request"
  | .counterpartyApprovalGranted => "counterparty.approval.granted"
  | .counterpartyApprovalDenied => "counterparty.approval.denied"
  | .ownerApprovalGrant => "owner.approval.grant"
  | .ownerApprovalDeny => "owner.approval.deny"
  | .a2aMessage => "a2a.message"
  | .mcpCall => "mcp.call"
  | .mcpResult => "mcp.result"
  | .agentPacketMessage => "agent.packet"
  | .artifactOffer => "artifact.offer"
  | .artifactReference => "artifact.reference"
  | .encryptedAttachment => "artifact.encrypted"
  | .quoteReference => "service.quote.reference"
  | .escrowReference => "service.escrow.reference"
  | .receiptReference => "service.receipt.reference"
  | .deliveryAck => "delivery.ack"
  | .applicationAck => "application.ack"
  | .readAck => "read.ack"
  | .deviceHistorySegment => "device.history.segment"
  | .roomInvite => "room.invite"
  | .roomMembershipCommit => "room.membership.commit"
  | .roomMessage => "room.message"
  | .roomModeration => "room.moderation"

/-- Every kind, in the order of the table. -/
def all : List Kind := [
  .text, .conversationInvite, .conversationAccept, .presenceHint, .giftAddressRequest, .giftAddressResponse,
  .giftSignedBOCOffer, .taskRequest, .taskProgress, .taskResult, .taskStatusRequest, .negotiationProposal,
  .negotiationCounterproposal, .negotiationWithdraw, .negotiationIntentAccept, .negotiationIntentReject,
  .intentApplication, .agreementPropose, .agreementAccept, .agreementEvidence, .agreementWithdraw,
  .agreementDelivery, .paidDemandProviderOffer, .commerceProfileEvent, .operationOutcome, .privateHandoffChallenge,
  .privateHandoffAuthorization, .privateHandoffAcknowledgement, .privateHandoffStatus, .privateHandoffDelete,
  .counterpartyApprovalRequest, .counterpartyApprovalGranted, .counterpartyApprovalDenied, .ownerApprovalGrant,
  .ownerApprovalDeny, .a2aMessage, .mcpCall, .mcpResult, .agentPacketMessage, .artifactOffer, .artifactReference,
  .encryptedAttachment, .quoteReference, .escrowReference, .receiptReference, .deliveryAck, .applicationAck,
  .readAck, .deviceHistorySegment, .roomInvite, .roomMembershipCommit, .roomMessage, .roomModeration]

/-- The kind of a name. -/
def ofName (name : String) : Option Kind := all.find? fun kind => kind.name == name

theorem ofName_name (kind : Kind) : ofName kind.name = some kind := by
  cases kind <;> decide +kernel

/-- The schema new bodies of a kind are written under. -/
def schema : Kind → String
  | .text => Text.schema
  | .conversationInvite => ConversationInvite.schema
  | .conversationAccept => ConversationAccept.schema
  | .presenceHint => PresenceHint.schema
  | .giftAddressRequest => "tos.messaging.payload.agent-gift-address-request.v1"
  | .giftAddressResponse => "tos.messaging.payload.agent-gift-address-response.v1"
  | .giftSignedBOCOffer => "tos.messaging.payload.agent-gift-signed-boc-offer.v1"
  | .taskRequest => TaskRequest.schema
  | .taskProgress => TaskProgress.schema
  | .taskResult => TaskResult.schema
  | .taskStatusRequest => TaskStatusRequest.schema
  | .negotiationProposal => "tos.messaging.payload.negotiation-proposal.v3"
  | .negotiationCounterproposal => "tos.messaging.payload.negotiation-counterproposal.v3"
  | .negotiationWithdraw => "tos.messaging.payload.negotiation-withdraw.v1"
  | .negotiationIntentAccept => "tos.messaging.payload.negotiation-intent-accept.v3"
  | .negotiationIntentReject => "tos.messaging.payload.negotiation-intent-reject.v1"
  | .intentApplication => "tos.messaging.payload.intent-application.v1"
  | .agreementPropose => "tos.messaging.payload.agreement-propose.v1"
  | .agreementAccept => "tos.messaging.payload.agreement-accept.v1"
  | .agreementEvidence => "tos.messaging.payload.agreement-evidence.v1"
  | .agreementWithdraw => AgreementWithdraw.schema
  | .agreementDelivery => AgreementDelivery.schema
  | .paidDemandProviderOffer => "tos.messaging.payload.paid-demand-provider-offer.v1"
  | .commerceProfileEvent => "tos.messaging.payload.commerce-profile-event.v1"
  | .operationOutcome => "tos.messaging.payload.operation-outcome.v1"
  | .privateHandoffChallenge => "tos.messaging.payload.private-handoff-challenge.v1"
  | .privateHandoffAuthorization => "tos.messaging.payload.private-handoff-authorization.v1"
  | .privateHandoffAcknowledgement => "tos.messaging.payload.private-handoff-acknowledgement.v1"
  | .privateHandoffStatus => PrivateHandoffStatus.schema
  | .privateHandoffDelete => PrivateHandoffDelete.schema
  | .counterpartyApprovalRequest => CounterpartyApprovalRequest.schema
  | .counterpartyApprovalGranted => CounterpartyApprovalGranted.schema
  | .counterpartyApprovalDenied => CounterpartyApprovalDenied.schema
  | .ownerApprovalGrant => OwnerApprovalGrant.schema
  | .ownerApprovalDeny => OwnerApprovalDeny.schema
  | .a2aMessage => "tos.messaging.payload.a2a-message.v1"
  | .mcpCall => "tos.messaging.payload.mcp-call.v1"
  | .mcpResult => "tos.messaging.payload.mcp-result.v1"
  | .agentPacketMessage => "tos.messaging.payload.agent-packet.v1"
  | .artifactOffer => ArtifactOffer.schema
  | .artifactReference => ArtifactReference.schema
  | .encryptedAttachment => AttachmentSchema.v3.name
  | .quoteReference => "tos.messaging.payload.quote-reference.v1"
  | .escrowReference => "tos.messaging.payload.escrow-reference.v1"
  | .receiptReference => "tos.messaging.payload.receipt-reference.v1"
  | .deliveryAck => DeliveryAck.schema
  | .applicationAck => ApplicationAck.schema
  | .readAck => ReadAck.schema
  | .deviceHistorySegment => DeviceHistorySegment.schema
  | .roomInvite => RoomInvite.schema
  | .roomMembershipCommit => RoomMembershipCommit.schema
  | .roomMessage => RoomMessage.schema
  | .roomModeration => RoomModeration.schema

/-- The type of a kind's body. -/
def Value : Kind → Type
  | .text => Text
  | .conversationInvite => ConversationInvite
  | .conversationAccept => ConversationAccept
  | .presenceHint => PresenceHint
  | .giftAddressRequest | .giftAddressResponse | .giftSignedBOCOffer | .intentApplication => Canonical
  | .taskRequest => TaskRequest
  | .taskProgress => TaskProgress
  | .taskResult => TaskResult
  | .taskStatusRequest => TaskStatusRequest
  | .negotiationProposal | .negotiationCounterproposal | .negotiationIntentAccept => NegotiationTerms
  | .negotiationWithdraw | .negotiationIntentReject => NegotiationReason
  | .agreementPropose | .agreementAccept | .commerceProfileEvent | .privateHandoffChallenge => Committed
  | .agreementEvidence | .paidDemandProviderOffer | .operationOutcome | .privateHandoffAuthorization
    | .privateHandoffAcknowledgement => TwiceCommitted
  | .agreementWithdraw => AgreementWithdraw
  | .agreementDelivery => AgreementDelivery
  | .privateHandoffStatus => PrivateHandoffStatus
  | .privateHandoffDelete => PrivateHandoffDelete
  | .counterpartyApprovalRequest => CounterpartyApprovalRequest
  | .counterpartyApprovalGranted => CounterpartyApprovalGranted
  | .counterpartyApprovalDenied => CounterpartyApprovalDenied
  | .ownerApprovalGrant => OwnerApprovalGrant
  | .ownerApprovalDeny => OwnerApprovalDeny
  | .a2aMessage | .mcpCall | .mcpResult | .agentPacketMessage => Foreign
  | .artifactOffer => ArtifactOffer
  | .artifactReference => ArtifactReference
  | .encryptedAttachment => EncryptedAttachment
  | .quoteReference | .escrowReference | .receiptReference => ChainReference
  | .deliveryAck => DeliveryAck
  | .applicationAck => ApplicationAck
  | .readAck => ReadAck
  | .deviceHistorySegment => DeviceHistorySegment
  | .roomInvite => RoomInvite
  | .roomMembershipCommit => RoomMembershipCommit
  | .roomMessage => RoomMessage
  | .roomModeration => RoomModeration

end Kind

/-- One typed event body. -/
structure Body where
  kind : Kind
  value : kind.Value

/-! ## The table -/

/-- How one type of body is checked, written and read. -/
structure Codec (α : Type) where
  validate : α → Except Failure Unit
  encode : α → Bytes
  decode : Read α
  /-- The earlier schema a body was read under. -/
  earlier : α → Option String := fun _ => none
  /-- Read-only decoders of earlier schemas. -/
  legacy : List (String × Read α) := []

def codec (rules : Rules) : (kind : Kind) → Codec kind.Value
  | .text => { validate := Text.validate, encode := Text.encode, decode := Text.decode }
  | .conversationInvite => {
    validate := ConversationInvite.validate
    encode := ConversationInvite.encode
    decode := ConversationInvite.decode }
  | .conversationAccept => {
    validate := ConversationAccept.validate
    encode := ConversationAccept.encode
    decode := ConversationAccept.decode }
  | .presenceHint => {
    validate := PresenceHint.validate
    encode := PresenceHint.encode
    decode := PresenceHint.decode }
  | .giftAddressRequest => {
    validate := Canonical.validateGift
    encode := Canonical.encode
    decode := Canonical.decode maxGiftCanonicalBytes }
  | .giftAddressResponse => {
    validate := Canonical.validateGift
    encode := Canonical.encode
    decode := Canonical.decode maxGiftCanonicalBytes }
  | .giftSignedBOCOffer => {
    validate := Canonical.validateGift
    encode := Canonical.encode
    decode := Canonical.decode maxGiftCanonicalBytes }
  | .taskRequest => { validate := TaskRequest.validate, encode := TaskRequest.encode, decode := TaskRequest.decode }
  | .taskProgress => {
    validate := TaskProgress.validate
    encode := TaskProgress.encode
    decode := TaskProgress.decode }
  | .taskResult => { validate := TaskResult.validate, encode := TaskResult.encode, decode := TaskResult.decode }
  | .taskStatusRequest => {
    validate := TaskStatusRequest.validate
    encode := TaskStatusRequest.encode
    decode := TaskStatusRequest.decode }
  | .negotiationProposal => {
    validate := NegotiationTerms.validate
    encode := NegotiationTerms.encode
    decode := NegotiationTerms.decode }
  | .negotiationCounterproposal => {
    validate := NegotiationTerms.validate
    encode := NegotiationTerms.encode
    decode := NegotiationTerms.decode }
  | .negotiationWithdraw => {
    validate := NegotiationReason.validate
    encode := NegotiationReason.encode
    decode := NegotiationReason.decode }
  | .negotiationIntentAccept => {
    validate := NegotiationTerms.validate
    encode := NegotiationTerms.encode
    decode := NegotiationTerms.decode }
  | .negotiationIntentReject => {
    validate := NegotiationReason.validate
    encode := NegotiationReason.encode
    decode := NegotiationReason.decode }
  | .intentApplication => {
    validate := Canonical.validateIntentApplication rules.commerce
    encode := Canonical.encode
    decode := Canonical.decode maxIntentApplicationBytes }
  | .agreementPropose => {
    validate := Committed.validateAgreementPropose rules.commerce
    encode := Committed.encode
    decode := Committed.decode maxAgreementPromotionBytes }
  | .agreementAccept => {
    validate := Committed.validateAgreementAccept rules.commerce
    encode := Committed.encode
    decode := Committed.decode maxAgreementPromotionBytes }
  | .agreementEvidence => {
    validate := TwiceCommitted.validateAgreementEvidence rules.commerce
    encode := TwiceCommitted.encode
    decode := TwiceCommitted.decode maxAgreementPromotionBytes }
  | .agreementWithdraw => {
    validate := AgreementWithdraw.validate
    encode := AgreementWithdraw.encode
    decode := AgreementWithdraw.decode }
  | .agreementDelivery => {
    validate := AgreementDelivery.validate
    encode := AgreementDelivery.encode
    decode := AgreementDelivery.decode }
  | .paidDemandProviderOffer => {
    validate := TwiceCommitted.validatePaidDemandProviderOffer rules.commerce
    encode := TwiceCommitted.encode
    decode := TwiceCommitted.decode maxAgreementPromotionBytes }
  | .commerceProfileEvent => {
    validate := Committed.validateCommerceProfileEvent rules.commerce
    encode := Committed.encode
    decode := Committed.decode rules.commerce.maxProfileEventBytes }
  | .operationOutcome => {
    validate := TwiceCommitted.validateOperationOutcome rules.commerce
    encode := TwiceCommitted.encode
    decode := TwiceCommitted.decode maxInlineOperationOutcomeBytes }
  | .privateHandoffChallenge => {
    validate := Committed.validatePrivateHandoffChallenge rules.commerce
    encode := Committed.encode
    decode := Committed.decode maxPrivateHandoffControlBytes }
  | .privateHandoffAuthorization => {
    validate := TwiceCommitted.validatePrivateHandoffAuthorization rules.commerce
    encode := TwiceCommitted.encode
    decode := TwiceCommitted.decode maxPrivateHandoffControlBytes }
  | .privateHandoffAcknowledgement => {
    validate := TwiceCommitted.validatePrivateHandoffAcknowledgement rules.commerce
    encode := TwiceCommitted.encode
    decode := TwiceCommitted.decode maxPrivateHandoffControlBytes }
  | .privateHandoffStatus => {
    validate := PrivateHandoffStatus.validate
    encode := PrivateHandoffStatus.encode
    decode := PrivateHandoffStatus.decode }
  | .privateHandoffDelete => {
    validate := PrivateHandoffDelete.validate
    encode := PrivateHandoffDelete.encode
    decode := PrivateHandoffDelete.decode }
  | .counterpartyApprovalRequest => {
    validate := CounterpartyApprovalRequest.validate
    encode := CounterpartyApprovalRequest.encode
    decode := CounterpartyApprovalRequest.decode }
  | .counterpartyApprovalGranted => {
    validate := CounterpartyApprovalGranted.validate
    encode := CounterpartyApprovalGranted.encode
    decode := CounterpartyApprovalGranted.decode }
  | .counterpartyApprovalDenied => {
    validate := CounterpartyApprovalDenied.validate
    encode := CounterpartyApprovalDenied.encode
    decode := CounterpartyApprovalDenied.decode }
  | .ownerApprovalGrant => {
    validate := OwnerApprovalGrant.validate
    encode := OwnerApprovalGrant.encode
    decode := OwnerApprovalGrant.decode }
  | .ownerApprovalDeny => {
    validate := OwnerApprovalDeny.validate
    encode := OwnerApprovalDeny.encode
    decode := OwnerApprovalDeny.decode }
  | .a2aMessage => { validate := Foreign.validateA2AMessage, encode := Foreign.encode, decode := Foreign.decode }
  | .mcpCall => { validate := Foreign.validateMCPCall, encode := Foreign.encode, decode := Foreign.decode }
  | .mcpResult => { validate := Foreign.validateMCPResult, encode := Foreign.encode, decode := Foreign.decode }
  | .agentPacketMessage => {
    validate := Foreign.validateAgentPacketMessage
    encode := Foreign.encode
    decode := Foreign.decode }
  | .artifactOffer => {
    validate := ArtifactOffer.validate
    encode := ArtifactOffer.encode
    decode := ArtifactOffer.decode }
  | .artifactReference => {
    validate := ArtifactReference.validate
    encode := ArtifactReference.encode
    decode := ArtifactReference.decode }
  | .encryptedAttachment => {
    validate := EncryptedAttachment.validate rules.attachments
    encode := EncryptedAttachment.encode
    decode := EncryptedAttachment.decode
    earlier := EncryptedAttachment.earlier
    legacy := [(AttachmentSchema.v1.name, EncryptedAttachment.decodeV1),
      (AttachmentSchema.v2.name, EncryptedAttachment.decodeV2)] }
  | .quoteReference => {
    validate := ChainReference.validate
    encode := ChainReference.encode
    decode := ChainReference.decode }
  | .escrowReference => {
    validate := ChainReference.validate
    encode := ChainReference.encode
    decode := ChainReference.decode }
  | .receiptReference => {
    validate := ChainReference.validate
    encode := ChainReference.encode
    decode := ChainReference.decode }
  | .deliveryAck => { validate := DeliveryAck.validate, encode := DeliveryAck.encode, decode := DeliveryAck.decode }
  | .applicationAck => {
    validate := ApplicationAck.validate
    encode := ApplicationAck.encode
    decode := ApplicationAck.decode }
  | .readAck => { validate := ReadAck.validate, encode := ReadAck.encode, decode := ReadAck.decode }
  | .deviceHistorySegment => {
    validate := DeviceHistorySegment.validate
    encode := DeviceHistorySegment.encode
    decode := DeviceHistorySegment.decode }
  | .roomInvite => { validate := RoomInvite.validate, encode := RoomInvite.encode, decode := RoomInvite.decode }
  | .roomMembershipCommit => {
    validate := RoomMembershipCommit.validate
    encode := RoomMembershipCommit.encode
    decode := RoomMembershipCommit.decode }
  | .roomMessage => { validate := RoomMessage.validate, encode := RoomMessage.encode, decode := RoomMessage.decode }
  | .roomModeration => {
    validate := RoomModeration.validate
    encode := RoomModeration.encode
    decode := RoomModeration.decode }

/-! ## Writing and reading -/

def domainPayload : String := "tos.messaging.payload.v1\x00"

/-- The domain of a schema: bytes of one schema are not bytes of another. -/
def domainFor (schema : String) : Bytes := lit (domainPayload ++ schema ++ "\x00")

variable (rules : Rules)

/-- The schema a body answers to. -/
def Body.schema (body : Body) : String := ((codec rules body.kind).earlier body.value).getD body.kind.schema

def Body.validate (body : Body) : Except Failure Unit := (codec rules body.kind).validate body.value

/-- `Encode` -/
def encode (body : Body) : Except Failure Bytes := do
  body.validate rules
  pure (domainFor (body.schema rules) ++ (codec rules body.kind).encode body.value)

/-- The decoder a kind has for a schema. -/
def decoderFor (kind : Kind) (schema : String) : Option (Read kind.Value) :=
  if schema = kind.schema then some (codec rules kind).decode else (codec rules kind).legacy.lookup schema

/-- `decodeSchema` -/
def decodeAs (kind : Kind) (schema : String) (content : Bytes) : Except Failure Body :=
  match decoderFor rules kind schema with
  | none => .error (.other "unsupported payload schema")
  | some decode => do
    let value ← readPreimage (domainFor schema) decode content
    (codec rules kind).validate value
    pure ⟨kind, value⟩

/-- A name without a codec is refused. -/
def withKind {α : Type} (name : String) (use : Kind → Except Failure α) : Except Failure α :=
  match Kind.ofName name with
  | none => .error (.other ("no payload codec for event kind " ++ name))
  | some kind => use kind

/-- `Decode` -/
def decode (name : String) (content : Bytes) : Except Failure Body :=
  withKind name fun kind => decodeAs rules kind kind.schema content

/-- `DecodeSchema` -/
def decodeSchema (name schema : String) (content : Bytes) : Except Failure Body :=
  withKind name fun kind => decodeAs rules kind schema content

/-- `Validate` -/
def validate (name : String) (content : Bytes) : Except Failure Unit := (decode rules name content).map fun _ => ()

end Messenger.Payload
