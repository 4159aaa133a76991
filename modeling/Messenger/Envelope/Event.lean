import Messenger.Identity.Delegation
import Messenger.Payload.Correctness

/-!
# `Envelope.Event` — the typed event inside a message

An event is what a message holds once it is decrypted (`pkg/envelope/event.go`). Its kind names a
class, which is what a delegation grants, and a payload schema; its identifier is the digest of
everything else it says.

- **The table.** `kindClass` and `localOnlyKind`: every kind with a codec has a class, and two of
  them never arrive from the network.
- **Checks.** `validateEventFields`, and `validateEvent`, which derives the identifier again.
  Identifiers, digests and the service binding match their patterns by type.
- **What the identifier fixes.** `canonical_inj`: the preimage determines the event. Its two lists
  stand behind their counts, an absent value is an empty text, and a hash that is decoded was
  checked to be in lowercase.
-/

namespace Messenger.Envelope

open Identity
open Payload (Kind)
open Canon (Field)

def eventSchema : String := "tos.messaging.event.v2"
def domainEventID : String := "tos.messaging.event-id.v2\x00"
def maxContentBytes : Nat := 128 * 2 ^ 10
def maxCausalParents : Nat := 16
def maxAttachmentReferences : Nat := 16
def maxRenderingBytes : Nat := 4 * 2 ^ 10
def maxEventClassBytes : Nat := 64

/-- How long a relay may be asked to hold an envelope, in seconds. -/
def maxEnvelopeLifetimeSeconds : Nat := 30 * 24 * 60 * 60

/-! ## Kinds and classes -/

/-- The class a delegation has to grant for a kind. -/
def kindClass : Kind → String
  | .text => "text"
  | .conversationInvite | .conversationAccept => "conversation"
  | .presenceHint => "presence"
  | .giftAddressRequest | .giftAddressResponse | .giftSignedBOCOffer => "agent.gift"
  | .taskRequest | .taskProgress | .taskResult | .taskStatusRequest => "agent.task"
  | .negotiationProposal | .negotiationCounterproposal | .negotiationWithdraw | .negotiationIntentAccept
    | .negotiationIntentReject | .intentApplication => "negotiation"
  | .agreementPropose | .agreementAccept | .agreementEvidence | .agreementWithdraw | .paidDemandProviderOffer =>
    "agreement"
  | .agreementDelivery => "agreement.delivery"
  | .commerceProfileEvent => "commerce.profile"
  | .operationOutcome => "operation.outcome"
  | .privateHandoffChallenge | .privateHandoffAuthorization | .privateHandoffAcknowledgement | .privateHandoffStatus
    | .privateHandoffDelete => "private.handoff"
  | .counterpartyApprovalRequest | .counterpartyApprovalGranted | .counterpartyApprovalDenied =>
    "counterparty.approval"
  | .ownerApprovalGrant | .ownerApprovalDeny => "owner.approval"
  | .a2aMessage => "a2a"
  | .mcpCall | .mcpResult => "mcp"
  | .agentPacketMessage => "agent.packet"
  | .artifactOffer | .artifactReference | .encryptedAttachment => "artifact"
  | .quoteReference | .escrowReference | .receiptReference => "service"
  | .deliveryAck => "delivery"
  | .applicationAck => "application"
  | .readAck => "read"
  | .deviceHistorySegment => "device.sync"
  | .roomInvite | .roomMembershipCommit | .roomMessage | .roomModeration => "room"

/-- The kinds that only the owner's own interface may bring. -/
def localOnlyKind : Kind → Bool
  | .ownerApprovalGrant | .ownerApprovalDeny => true
  | _ => false

variable (c : Char) (kind : String)

/-- The delegated class of an event kind; an unknown kind has none. -/
def classOf : Option String := (Kind.ofName kind).map kindClass

def localOnly : Bool := (Kind.ofName kind).any localOnlyKind

/-- The kinds that are only carried in an established direct conversation. -/
def establishedDirectKinds : List String := [
  "agent.gift.address-request", "agent.gift.address-response", "agent.gift.signed-boc-offer", "agreement.propose",
  "agreement.accept", "agreement.evidence", "agreement.withdraw", "agreement.delivery", "agreement.provider-offer",
  "private.handoff.challenge", "private.handoff.authorization", "private.handoff.acknowledgement",
  "private.handoff.status", "private.handoff.delete"]

def requiresEstablishedDirect : Bool := establishedDirectKinds.contains kind

/-! ## Patterns -/

def lowerLetter : Bool := 'a' ≤ c && c ≤ 'z'
def decimalDigit : Bool := '0' ≤ c && c ≤ '9'
def alphanumeric : Bool := lowerLetter c || decimalDigit c

/-- `[a-z][a-z0-9]*` -/
def plainSegment : List Char → Bool
  | [] => false
  | c :: rest => lowerLetter c && rest.all alphanumeric

/-- `[a-z][a-z0-9]*(?:-[a-z0-9]+)*` -/
def hyphenatedSegment (segment : List Char) : Bool :=
  match segment.splitOn '-' with
  | first :: rest => plainSegment first && rest.all fun part => !part.isEmpty && part.all alphanumeric
  | [] => false

/-- `^[a-z][a-z0-9]*(\.[a-z][a-z0-9]*(?:-[a-z0-9]+)*)*$` -/
def eventKindPattern : Bool :=
  match kind.toList.splitOn '.' with
  | first :: rest => plainSegment first && rest.all hyphenatedSegment
  | [] => false

/-- `^tos\.messaging\.payload\.[a-z0-9-]{1,48}\.v[0-9]{1,3}$` -/
def payloadSchemaPattern (schema : String) : Bool :=
  match schema.toList.splitOn '.' with
  | [tos, messaging, payload, name, 'v' :: digits] =>
    tos == "tos".toList && messaging == "messaging".toList && payload == "payload".toList &&
      !name.isEmpty && name.length ≤ 48 && name.all (fun c => alphanumeric c || c == '-') &&
      !digits.isEmpty && digits.length ≤ 3 && digits.all decimalDigit
  | _ => false

/-- `^[a-z][a-z0-9]*(\.[a-z][a-z0-9]*)*$` -/
def eventClassPattern (name : String) : Bool := (name.toList.splitOn '.').all plainSegment

/-! ## Events -/

/-- A commitment of a service, under one of two digests. -/
inductive ServiceBinding where
  | sha256 (digest : BitVec 256)
  | tvmCell (digest : BitVec 256)
  deriving DecidableEq, Repr

def ServiceBinding.text : ServiceBinding → String
  | .sha256 digest => Canon.taggedText "sha256:" digest
  | .tvmCell digest => Canon.taggedText "tvm-cell-sha256:" digest

/-- The inner typed object obtained after decryption. A thread (`thr_`) and an idempotency key are
    their digests. -/
structure Event where
  network : Option Network
  conversationID : ConversationID
  eventID : EventID
  senderAgentID : AgentID
  senderEndpointID : EndpointID
  senderDeviceID : DeviceID
  roomID : Option RoomID := none
  threadID : Option (BitVec 256) := none
  replyToEventID : Option EventID := none
  causalParents : List EventID := []
  createdAt : UInt64
  expiresAt : UInt64
  kind : String
  payloadSchema : String
  idempotencyKey : Option (BitVec 256) := none
  content : Bytes
  rendering : Bytes := []
  attachmentReferences : List (BitVec 256) := []
  serviceBinding : Option ServiceBinding := none
  deriving DecidableEq, Repr

/-- Whose a fetch grant is, and since when. -/
structure GrantOrigin where
  network : Network
  agentID : AgentID
  endpointID : EndpointID
  issuedAt : UInt64
  deriving DecidableEq, Repr

/-- What an event is checked against outside this package. -/
structure Rules where
  payload : Payload.Rules
  /-- The origin of a fetch grant, decoded from the grant's bytes. -/
  grantOrigin : Bytes → Option GrantOrigin

/-- The loop over the causal parents: sorted, unique, and never the event itself. -/
def checkParents (eventID : EventID) : Option EventID → List EventID → Except Failure Unit
  | _, [] => .ok ()
  | previous, parent :: rest => do
    failIf (previous.any (parent ≤ ·)) "causal parents must be sorted and unique"
    failIf (parent = eventID) "event cannot be its own causal parent"
    checkParents eventID (some parent) rest

def validateCausalParents (event : Event) : Except Failure Unit := do
  failIf (maxCausalParents < event.causalParents.length) "too many causal parents"
  checkParents event.eventID none event.causalParents

/-- The loop over the attachment references. A digest of zeros is not a usable digest. -/
def checkReferences : Option (BitVec 256) → List (BitVec 256) → Except Failure Unit
  | _, [] => .ok ()
  | previous, reference :: rest => do
    failIf (reference = 0) "invalid attachment reference"
    failIf (previous.any (reference ≤ ·)) "attachment references must be sorted and unique"
    checkReferences (some reference) rest

def validateAttachments (references : List (BitVec 256)) : Except Failure Unit := do
  failIf (maxAttachmentReferences < references.length) "too many attachment references"
  checkReferences none references

variable {α : Type} (c : Crypto) (rules : Rules) (event : Event)

/-- A known kind carries a schema of its codec; an unknown one may declare its own. -/
def checkPayloadSchema : Except Failure Unit :=
  match Kind.ofName event.kind with
  | some kind =>
    failIf ((Payload.decoderFor rules.payload kind event.payloadSchema).isNone)
      "event payload schema does not match its kind"
  | none => failIf (¬payloadSchemaPattern event.payloadSchema) "invalid event payload schema"

/-- A fetch grant of the current schema is the sender's own. -/
def checkFetchAuthority (attachment : Payload.EncryptedAttachment) : Except Failure Unit := do
  let _ ← attachment.fetchAccess rules.payload.attachments
  failIf (¬(rules.grantOrigin attachment.fetchGrantJSON).any fun origin =>
      some origin.network = event.network ∧ origin.agentID = event.senderAgentID ∧
        origin.endpointID = event.senderEndpointID ∧ origin.issuedAt ≤ event.createdAt)
    "encrypted attachment fetch authority does not match its sender Event"

/-- An encrypted attachment names its exact manifest. -/
def checkEncryptedAttachment : Except Failure Unit := do
  match ← Payload.decodeSchema rules.payload event.kind event.payloadSchema event.content with
  | ⟨.encryptedAttachment, attachment⟩ =>
    failIf (event.attachmentReferences.map (fun d => Field.utf8 (Canon.digestText d)) ≠
      [Payload.EncryptedAttachment.manifestDigest attachment])
      "encrypted attachment event does not name its exact manifest"
    if event.payloadSchema = Payload.AttachmentSchema.v3.name then
      checkFetchAuthority rules event attachment else .ok ()
  | _ => .error (.other "encrypted attachment event does not name its exact manifest")

def validateEventFields : Except Failure Unit := do
  failIf (¬event.network.any Network.valid) "invalid event network domain"
  failIf (requiresEstablishedDirect event.kind ∧ (event.roomID.isSome ∨ event.rendering ≠ [] ∨
    event.attachmentReferences ≠ [] ∨ event.serviceBinding.isSome))
    "Agent Gift events are opaque direct-only application data"
  validateCausalParents event
  failIf (event.createdAt = 0) "event has no creation time"
  failIf (event.expiresAt ≠ 0 ∧ event.expiresAt ≤ event.createdAt) "event expires before it was created"
  failIf (event.kind.utf8ByteSize = 0 ∨ maxEventClassBytes < event.kind.utf8ByteSize ∨ ¬eventKindPattern event.kind)
    "invalid event kind"
  checkPayloadSchema rules event
  failIf (maxRenderingBytes < event.rendering.length) "event rendering exceeds its bound"
  failIf (maxContentBytes < event.content.length) "event content exceeds its bound"
  validateAttachments event.attachmentReferences
  if event.kind = "artifact.encrypted" then checkEncryptedAttachment rules event else .ok ()

/-! ## Identifiers -/

/-- The text of a value that may be absent. -/
def optionalText (text : α → String) (value : Option α) : Field := .text ((value.map text).getD "")

variable (x : ServiceBinding) (delegation : Delegation) (network : List Field)

/-- What is committed before the causal parents, their number included. -/
def Event.leading : List Field :=
  [.text eventSchema] ++ network ++
    [.text event.conversationID.text, .text event.senderAgentID.text, .text event.senderEndpointID.text,
     .text event.senderDeviceID.text, optionalText Identifier.text event.roomID,
     optionalText (Canon.taggedText "thr_") event.threadID, optionalText Identifier.text event.replyToEventID,
     .uint32 event.causalParents.length]

/-- The two times. -/
def Event.times : List Field := [.uint64 event.createdAt.toNat, .uint64 event.expiresAt.toNat]

/-- What is committed after them. -/
def Event.trailing : List Field :=
  [.text event.kind, .text event.payloadSchema, optionalText (Canon.taggedText "") event.idempotencyKey,
   .bytes event.content, .bytes event.rendering, .uint32 event.attachmentReferences.length] ++
    event.attachmentReferences.map (fun d => .text (Canon.digestText d)) ++
    [optionalText ServiceBinding.text event.serviceBinding]

/-- The fields an event's identifier commits to. -/
def Event.fields : List Field :=
  event.leading network ++ event.causalParents.map (fun parent => .text parent.text) ++ event.times ++ event.trailing

/-- The preimage of an event's identifier. -/
def eventCanonicalBytes : Except Failure Bytes := do
  validateEventFields rules event
  match event.network.bind Network.fields with
  | none => .error (.other "invalid canonical 32-byte hash")
  | some network => pure (Canon.preimage domainEventID (event.fields network))

/-- Content-address an event. -/
def deriveEventID : Except Failure EventID := do
  let preimage ← eventCanonicalBytes rules event
  pure ⟨c.sum256 preimage⟩

/-- Every structural rule, and the identifier again. -/
def validateEvent : Except Failure Unit := do
  let derived ← deriveEventID c rules event
  failIf (event.eventID ≠ derived) "event identifier does not match its content"

/-- Does the delegation admit an event class? -/
def allowsEventClass (name : String) : Bool :=
  eventClassPattern name && delegation.allowedOutboundEventClasses.contains name

/-- The event is from the delegated endpoint, in the delegated network and of a delegated class. -/
def admittedBy (event : Event) : Except Failure Unit := do
  validateEvent c rules event
  failIf (event.senderAgentID ≠ delegation.agentID ∨ event.senderEndpointID ≠ delegation.endpointID)
    "event sender does not match its delegation"
  failIf (event.network ≠ delegation.network) "event network tuple does not match its delegation"
  match classOf event.kind with
  | none => .error (.other "unrecognised event kind")
  | some name => failIf (¬allowsEventClass delegation name) "event class is outside the delegated scope"

/-! ## What the identifier fixes -/

theorem uint64_fits (n : UInt64) : (Field.uint64 n.toNat).Fits := n.toNat_lt

theorem optionalText_fits {text : α → String} (htext : ∀ a, (Field.text (text a)).Fits)
    (value : Option α) : (optionalText text value).Fits := by
  cases value with
  | none => show "".utf8ByteSize < 2 ^ 32; decide
  | some a => exact htext a

theorem optionalText_inj {text : α → String} (hinj : Function.Injective text) (hne : ∀ a, text a ≠ "")
    {x y : Option α} (h : optionalText text x = optionalText text y) : x = y := by
  have htext := Field.text.inj h
  cases x with
  | none =>
    cases y with
    | none => rfl
    | some b => exact absurd htext.symm (hne b)
  | some a =>
    cases y with
    | none => exact absurd htext (hne a)
    | some b => exact congrArg some (hinj htext)

/-- The two tags differ in length. -/
theorem ServiceBinding.text_inj {a b : ServiceBinding} (h : a.text = b.text) : a = b := by
  have hne : ∀ x y, Canon.taggedText "sha256:" x ≠ Canon.taggedText "tvm-cell-sha256:" y := by
    intro x y heq
    have hlen := Canon.taggedText_length "sha256:" x
    rw [heq, Canon.taggedText_length] at hlen
    cases hlen
  cases a with
  | sha256 x =>
    cases b with
    | sha256 y => exact congrArg _ (Canon.taggedText_inj h)
    | tvmCell y => exact absurd h (hne x y)
  | tvmCell x =>
    cases b with
    | sha256 y => exact absurd h.symm (hne y x)
    | tvmCell y => exact congrArg _ (Canon.taggedText_inj h)

theorem ServiceBinding.text_fits : (Field.text x.text).Fits := by
  cases x with
  | sha256 | tvmCell => exact Canon.taggedText_fits (by decide) _

theorem ServiceBinding.text_ne_empty : x.text ≠ "" := by
  cases x with
  | sha256 | tvmCell => exact Canon.taggedText_ne_empty _ _

/-- The parts of a schema the pattern admits are short. -/
theorem payloadSchemaPattern_fits {schema : String} (h : payloadSchemaPattern schema) : (Field.text schema).Fits := by
  have hjoin := @List.intercalate_splitOn _ schema.toList _ _ '.'
  unfold payloadSchemaPattern at h
  split at h
  · next tos messaging payload name digits hsplit =>
    simp only [Bool.and_eq_true, beq_iff_eq, decide_eq_true_eq] at h
    obtain ⟨⟨⟨⟨⟨⟨⟨⟨rfl, rfl⟩, rfl⟩, -⟩, hnm⟩, -⟩, -⟩, hdgt⟩, -⟩ := h
    have hsi := Canon.utf8ByteSize_ofList_le schema.toList
    rw [String.ofList_toList] at hsi
    rw [hsplit] at hjoin
    have hlen := congrArg List.length hjoin
    simp [List.intercalate] at hlen
    show schema.utf8ByteSize < 2 ^ 32
    omega
  · cases h

variable {rules : Rules} {event : Event}

theorem checkPayloadSchema_fits (h : checkPayloadSchema rules event = .ok ()) :
    (Field.text event.payloadSchema).Fits := by
  unfold checkPayloadSchema at h
  split at h
  · have hrd := failIf_ok.mp h
    rw [Bool.not_eq_true, Option.isNone_eq_false_iff, Option.isSome_iff_exists] at hrd
    obtain ⟨read, hrd⟩ := hrd
    refine Payload.forall_decoderFor (P := fun schema => schema.utf8ByteSize < 2 ^ 32) (fun kind => ?_) ?_ ?_ hrd
    · cases kind <;> decide +kernel
    all_goals decide +kernel
  · exact payloadSchemaPattern_fits (not_not.mp (failIf_ok.mp h))

theorem Event.network_valid {n : Network} (hval : validateEventFields rules event = .ok ())
    (hn : event.network = some n) : n.valid := by
  have hany := not_not.mp (failIf_then.mp hval).1
  rwa [hn] at hany

/-- A valid event's fields before the parents fit, and are of known kinds. -/
theorem Event.leading_fits {network : List Field} (hval : validateEventFields rules event = .ok ())
    (hnet : event.network.bind Network.fields = some network) :
    (∀ field ∈ event.leading network, field.Fits) ∧
      (event.leading network).map Field.kind =
        [.text, .bytes, .bytes, .bytes, .text, .text, .text, .text, .text, .text, .text, .uint32] := by
  obtain ⟨n, hn, hfd⟩ := Option.bind_eq_some_iff.mp hnet
  obtain ⟨root, file, rfl, hnm, hrt, hfe⟩ := Network.fields_some (Event.network_valid hval hn) hfd
  simp only [validateEventFields, seq_ok, failIf_ok] at hval
  obtain ⟨_, -, _, -, _, hparents, -⟩ := hval
  obtain ⟨hcnt, -⟩ := failIf_then.mp hparents
  have hparents : (Field.uint32 event.causalParents.length).Fits := by
    have hbd := not_lt.mp hcnt
    show event.causalParents.length < 2 ^ 32
    unfold maxCausalParents at hbd
    omega
  refine ⟨?_, rfl⟩
  have hschema : (Field.text eventSchema).Fits := by
    show eventSchema.utf8ByteSize < 2 ^ 32
    decide
  simp only [Event.leading, List.cons_append, List.nil_append, List.forall_mem_cons]
  exact ⟨hschema, hnm, hrt, hfe, event.conversationID.text_fits, event.senderAgentID.text_fits,
    event.senderEndpointID.text_fits, event.senderDeviceID.text_fits, optionalText_fits Identifier.text_fits _,
    optionalText_fits (Canon.taggedText_fits (by decide)) _,
    optionalText_fits Identifier.text_fits _, hparents, List.forall_mem_nil _⟩

theorem eventCanonicalBytes_ok {img : Bytes} (h : eventCanonicalBytes rules event = .ok img) :
    validateEventFields rules event = .ok () ∧ ∃ network, event.network.bind Network.fields = some network ∧
      img = Canon.preimage domainEventID (event.fields network) := by
  obtain ⟨_, hval, h⟩ := seq_ok.mp h
  refine ⟨hval, ?_⟩
  cases hnet : event.network.bind Network.fields with
  | none =>
    rw [hnet] at h
    cases h
  | some network =>
    rw [hnet] at h
    cases h
    exact ⟨network, rfl, rfl⟩

/-- What is committed between the parents and the attachments. -/
def Event.middle (event : Event) : List Field :=
  event.times ++ [.text event.kind, .text event.payloadSchema, optionalText (Canon.taggedText "") event.idempotencyKey,
    .bytes event.content, .bytes event.rendering, .uint32 event.attachmentReferences.length]

theorem Event.middle_fits (hval : validateEventFields rules event = .ok ()) : ∀ field ∈ event.middle, field.Fits := by
  simp only [validateEventFields, seq_ok, failIf_ok, not_or, not_lt] at hval
  obtain ⟨_, -, _, -, _, -, _, -, _, -, _, ⟨-, hki, -⟩, _, hsch, _, hrendering, _, hcon, _, hatt, -⟩ := hval
  obtain ⟨hcnt, -⟩ := failIf_then.mp hatt
  unfold maxEventClassBytes at hki
  unfold maxRenderingBytes at hrendering
  unfold maxContentBytes at hcon
  unfold maxAttachmentReferences at hcnt
  simp only [Event.middle, Event.times, List.cons_append, List.nil_append, List.forall_mem_cons]
  refine ⟨uint64_fits _, uint64_fits _, ?_, checkPayloadSchema_fits hsch,
    optionalText_fits (Canon.taggedText_fits (by decide)) _, ?_, ?_, ?_, List.forall_mem_nil _⟩
  all_goals
    show _ < 2 ^ 32
    omega

/-- A list of texts as it is committed. -/
def textsBytes {α : Type} (text : α → String) (values : List α) : Bytes :=
  (values.map fun value => Field.text (text value)).flatMap Field.encode

/-- The parts of a preimage. -/
theorem Event.fields_encode : (event.fields network).flatMap Field.encode =
    (event.leading network).flatMap Field.encode ++
    (textsBytes Identifier.text event.causalParents ++ (event.middle.flatMap Field.encode ++
    (textsBytes Canon.digestText event.attachmentReferences ++
      [optionalText ServiceBinding.text event.serviceBinding].flatMap Field.encode))) := by
  simp only [Event.fields, Event.middle, Event.trailing, textsBytes, List.flatMap_append, List.append_assoc]

/-- **The preimage determines the event**, up to the identifier that is derived from it. -/
theorem canonical_inj {a b : Event} {img : Bytes} (ha : eventCanonicalBytes rules a = .ok img)
    (hb : eventCanonicalBytes rules b = .ok img) : a = { b with eventID := a.eventID } := by
  obtain ⟨hvalidA, networkA, hnetA, rfl⟩ := eventCanonicalBytes_ok ha
  obtain ⟨hvalidB, networkB, hnetB, hsm⟩ := eventCanonicalBytes_ok hb
  obtain ⟨hfitsA, hkindsA⟩ := Event.leading_fits hvalidA hnetA
  obtain ⟨hfitsB, hkindsB⟩ := Event.leading_fits hvalidB hnetB
  have hfl := List.append_cancel_left hsm
  rw [Event.fields_encode, Event.fields_encode] at hfl
  -- the leading fields are of the same kinds, and their last one counts the parents
  obtain ⟨hleading, hfl⟩ := Canon.field_delimited.split (hkindsA.trans hkindsB.symm) hfitsA hfitsB hfl
  obtain ⟨hnet, hids⟩ := List.append_inj' hleading (by simp only [List.length_cons, List.length_nil])
  simp only [List.cons.injEq, Field.text.injEq, Field.uint32.injEq, and_true] at hids
  obtain ⟨hconv, hagent, hendpoint, hdev, hroom, hthread, hreply, hcnt⟩ := hids
  obtain ⟨hparents, hfl⟩ := Canon.texts_split (fun _ _ => Identifier.text_inj) Identifier.text_fits hcnt hfl
  -- so are those between the lists, and their last one counts the attachments
  have hmidK : a.middle.map Field.kind = b.middle.map Field.kind := rfl
  obtain ⟨hmid, hfl⟩ := Canon.field_delimited.split hmidK (Event.middle_fits hvalidA) (Event.middle_fits hvalidB) hfl
  simp only [Event.middle, Event.times, List.cons_append, List.nil_append, List.cons.injEq, Field.text.injEq,
    Field.uint32.injEq, Field.uint64.injEq, Field.bytes.injEq, UInt64.toNat_inj, and_true] at hmid
  obtain ⟨hcrt, hxs, hki, hsch, hidem, hcon, hrendering, hcnt⟩ := hmid
  obtain ⟨hatt, hfl⟩ := Canon.texts_split (fun _ _ => Canon.digestText_inj) Canon.digestText_fits hcnt hfl
  have hbi := (Canon.field_delimited (a := optionalText _ a.serviceBinding) (b := optionalText _ b.serviceBinding) rfl
    (optionalText_fits ServiceBinding.text_fits _) (optionalText_fits ServiceBinding.text_fits _) hfl).1
  have hnetwork : a.network = b.network := by
    obtain ⟨m, hm, hfdA⟩ := Option.bind_eq_some_iff.mp hnetA
    obtain ⟨n, hn, hfdB⟩ := Option.bind_eq_some_iff.mp hnetB
    rw [← List.append_cancel_left hnet] at hfdB
    rw [hm, hn, Network.fields_inj (Event.network_valid hvalidA hm) (Event.network_valid hvalidB hn) hfdA hfdB]
  cases a
  cases b
  rw [Event.mk.injEq]
  exact ⟨hnetwork, Identifier.text_inj hconv, rfl, Identifier.text_inj hagent, Identifier.text_inj hendpoint,
    Identifier.text_inj hdev, optionalText_inj (fun _ _ => Identifier.text_inj) Identifier.text_ne_empty hroom,
    optionalText_inj (fun _ _ => Canon.taggedText_inj) (Canon.taggedText_ne_empty _) hthread,
    optionalText_inj (fun _ _ => Identifier.text_inj) Identifier.text_ne_empty hreply, hparents, hcrt, hxs, hki, hsch,
    optionalText_inj (fun _ _ => Canon.taggedText_inj) (Canon.taggedText_ne_empty _) hidem, hcon, hrendering, hatt,
    optionalText_inj (fun _ _ => ServiceBinding.text_inj) ServiceBinding.text_ne_empty hbi⟩

/-- A valid event is named by the digest of its preimage. -/
theorem validateEvent_ok {c : Crypto} (h : validateEvent c rules event = .ok ()) :
    ∃ img, eventCanonicalBytes rules event = .ok img ∧ event.eventID = ⟨c.sum256 img⟩ := by
  obtain ⟨derived, hderived, hsm⟩ := seq_ok.mp h
  obtain ⟨img, himg, hderived⟩ := seq_ok.mp hderived
  cases hderived
  exact ⟨img, himg, not_not.mp (failIf_ok.mp hsm)⟩

/-- **One identifier stands for one event.** Valid events with the same preimage are the same, and
    so are valid events with the same identifier unless the hash of the two preimages collides. -/
theorem event_determined {c : Crypto} {a b : Event} (ha : validateEvent c rules a = .ok ())
    (hb : validateEvent c rules b = .ok ()) :
    (eventCanonicalBytes rules a = eventCanonicalBytes rules b → a = b) ∧
      ((∀ x y, eventCanonicalBytes rules a = .ok x → eventCanonicalBytes rules b = .ok y →
        c.sum256 x = c.sum256 y → x = y) → a.eventID = b.eventID → a = b) := by
  obtain ⟨x, hx, hidA⟩ := validateEvent_ok ha
  obtain ⟨y, hy, hidB⟩ := validateEvent_ok hb
  have hsm : x = y → a = b := by
    rintro rfl
    rw [canonical_inj hx hy, hidA, ← hidB]
  refine ⟨fun heq => hsm ?_, fun hfree hid => hsm (hfree x y hx hy ?_)⟩
  · rw [hx, hy] at heq
    exact Except.ok.inj heq
  · rw [hidA, hidB] at hid
    exact Identifier.mk.inj hid

/-- An event of a kind without a codec. -/
def note (rendering : Bytes) : Event where
  network := some ⟨Field.utf8 "tos", Canon.hexEncode (List.replicate 32 1), Canon.hexEncode (List.replicate 32 2)⟩
  conversationID := ⟨1⟩
  eventID := ⟨0⟩
  senderAgentID := ⟨2⟩
  senderEndpointID := ⟨3⟩
  senderDeviceID := ⟨4⟩
  createdAt := 5
  expiresAt := 0
  kind := "note"
  payloadSchema := "tos.messaging.payload.note.v1"
  content := []
  rendering

def noteRules : Rules := ⟨Payload.refusing, fun _ => none⟩

/-- Two notes that read differently have different preimages, whatever the hash makes of them. -/
theorem notes_differ : eventCanonicalBytes noteRules (note (Field.utf8 "yes")) ≠
    eventCanonicalBytes noteRules (note (Field.utf8 "no")) := by
  have hval : ∀ text ∈ ["yes", "no"],
      validateEvent ⟨fun _ => 0, fun _ _ _ => true⟩ noteRules (note (Field.utf8 text)) = .ok () := by
    decide +kernel
  intro heq
  have hsm := (event_determined (hval "yes" (by simp)) (hval "no" (by simp))).1 heq
  exact absurd (congrArg Event.rendering hsm) (by decide)

end Messenger.Envelope
