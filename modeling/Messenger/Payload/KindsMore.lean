import Messenger.Payload.Kinds

/-!
# `Payload.KindsMore` — approvals, carried messages, artifacts, acknowledgements, rooms and history

The other bodies of `kinds_more.go` and the history segment of `device_history.go`, in the manner of
`Payload.Kinds`. The subject of an approval request is the other text that is only matched against a
pattern (`CounterpartyApprovalRequest.fits_iff`).
-/

namespace Messenger.Payload

open Canon Lib

/-! ## Approvals -/

/-- A request that the other party approve something on their own side. -/
structure CounterpartyApprovalRequest where
  approvalID : Bytes
  subject : Bytes
  detail : Bytes
  deriving DecidableEq, Repr

namespace CounterpartyApprovalRequest

def schema : String := "tos.messaging.payload.counterparty-approval-request.v1"

variable (c : CounterpartyApprovalRequest)

def validate : Except Failure Unit := do
  requireText "approval identifier" c.approvalID maxShortTextBytes
  requireMatch "subject" c.subject tokenPattern
  optionalText "detail" c.detail maxShortTextBytes

def encode : Bytes :=
  Write.text c.approvalID ++ Write.text c.subject ++ Write.text c.detail

def decode : Read CounterpartyApprovalRequest := do
  let approvalID ← Read.text maxShortTextBytes
  let subject ← Read.text maxShortTextBytes
  let detail ← Read.text maxShortTextBytes
  pure { approvalID, subject, detail }

/-- The texts a reader accepts. -/
def Fits : Prop :=
  FitsText maxShortTextBytes c.approvalID ∧ FitsText maxShortTextBytes c.subject ∧ FitsText maxShortTextBytes c.detail

theorem decode_exact : Exact decode encode Fits := by
  refine ExactWhere.record (.field approvalID short_exact <| .field subject short_exact <|
    .field detail short_exact .done) (fun c _ => ?_) fun c => ?_
  · simp [encode]
  · simp [Fits]

/-- A valid request fits when its subject is short. -/
theorem fits_iff {c : CounterpartyApprovalRequest} (h : c.validate = .ok ()) :
    c.Fits ↔ c.subject.length ≤ maxShortTextBytes := by
  obtain ⟨_, happID, h⟩ := seq_ok.mp h
  obtain ⟨_, hsubject, hdetail⟩ := seq_ok.mp h
  rw [← token_fits_iff hsubject]
  constructor
  · intro hft
    exact hft.2.1
  · intro hft
    exact ⟨requireText_fits happID, hft, optionalText_fits hdetail⟩

end CounterpartyApprovalRequest

/-- What the other party decided. -/
structure CounterpartyApprovalGranted where
  approvalID : Bytes
  decidedAtUnix : UInt64
  deriving DecidableEq, Repr

namespace CounterpartyApprovalGranted

def schema : String := "tos.messaging.payload.counterparty-approval-granted.v1"

def validate (c : CounterpartyApprovalGranted) : Except Failure Unit := do
  requireText "approval identifier" c.approvalID maxShortTextBytes
  requireTime "decision time" c.decidedAtUnix

def encode (c : CounterpartyApprovalGranted) : Bytes :=
  Write.text c.approvalID ++ Write.uint64 c.decidedAtUnix

def decode : Read CounterpartyApprovalGranted := do
  let approvalID ← Read.text maxShortTextBytes
  let decidedAtUnix ← Read.uint64
  pure { approvalID, decidedAtUnix }

theorem roundTrip : RoundTrip decode encode (validate · = .ok ()) := by
  refine ExactWhere.roundTrip (.field approvalID short_exact <| .field decidedAtUnix uint64_exact
    .done) (fun c _ => ?_) fun c h => ?_
  · simp [encode]
  · obtain ⟨_, happID, -⟩ := seq_ok.mp h
    exact ⟨requireText_fits happID, trivial, trivial⟩

end CounterpartyApprovalGranted

/-- A refusal on the other side. -/
structure CounterpartyApprovalDenied where
  approvalID : Bytes
  decidedAtUnix : UInt64
  reason : Bytes
  deriving DecidableEq, Repr

namespace CounterpartyApprovalDenied

def schema : String := "tos.messaging.payload.counterparty-approval-denied.v1"

def validate (c : CounterpartyApprovalDenied) : Except Failure Unit := do
  requireText "approval identifier" c.approvalID maxShortTextBytes
  requireTime "decision time" c.decidedAtUnix
  optionalText "reason" c.reason maxShortTextBytes

def encode (c : CounterpartyApprovalDenied) : Bytes :=
  Write.text c.approvalID ++ Write.uint64 c.decidedAtUnix ++ Write.text c.reason

def decode : Read CounterpartyApprovalDenied := do
  let approvalID ← Read.text maxShortTextBytes
  let decidedAtUnix ← Read.uint64
  let reason ← Read.text maxShortTextBytes
  pure { approvalID, decidedAtUnix, reason }

theorem roundTrip : RoundTrip decode encode (validate · = .ok ()) := by
  refine ExactWhere.roundTrip (.field approvalID short_exact <| .field decidedAtUnix uint64_exact <|
    .field reason short_exact .done) (fun c _ => ?_) fun c h => ?_
  · simp [encode]
  obtain ⟨_, happID, h⟩ := seq_ok.mp h
  obtain ⟨_, -, hrsn⟩ := seq_ok.mp h
  exact ⟨requireText_fits happID, trivial, optionalText_fits hrsn, trivial⟩

end CounterpartyApprovalDenied

/-- This owner authorising an action here. -/
structure OwnerApprovalGrant where
  approvalID : Bytes
  eventID : Bytes
  decidedAtUnix : UInt64
  deriving DecidableEq, Repr

namespace OwnerApprovalGrant

def schema : String := "tos.messaging.payload.owner-approval-grant.v1"

def validate (o : OwnerApprovalGrant) : Except Failure Unit := do
  requireText "approval identifier" o.approvalID maxShortTextBytes
  requireEvent "approved event" o.eventID
  requireTime "decision time" o.decidedAtUnix

def encode (o : OwnerApprovalGrant) : Bytes :=
  Write.text o.approvalID ++ Write.text o.eventID ++ Write.uint64 o.decidedAtUnix

def decode : Read OwnerApprovalGrant := do
  let approvalID ← Read.text maxShortTextBytes
  let eventID ← Read.text maxShortTextBytes
  let decidedAtUnix ← Read.uint64
  pure { approvalID, eventID, decidedAtUnix }

theorem roundTrip : RoundTrip decode encode (validate · = .ok ()) := by
  refine ExactWhere.roundTrip (.field approvalID short_exact <| .field eventID short_exact <|
    .field decidedAtUnix uint64_exact .done) (fun o _ => ?_) fun o h => ?_
  · simp [encode]
  obtain ⟨_, happID, h⟩ := seq_ok.mp h
  obtain ⟨_, heid, -⟩ := seq_ok.mp h
  exact ⟨requireText_fits happID, requireEvent_fits heid, trivial, trivial⟩

end OwnerApprovalGrant

/-- This owner refusing an action here. -/
structure OwnerApprovalDeny where
  approvalID : Bytes
  eventID : Bytes
  decidedAtUnix : UInt64
  reason : Bytes
  deriving DecidableEq, Repr

namespace OwnerApprovalDeny

def schema : String := "tos.messaging.payload.owner-approval-deny.v1"

def validate (o : OwnerApprovalDeny) : Except Failure Unit := do
  requireText "approval identifier" o.approvalID maxShortTextBytes
  requireEvent "refused event" o.eventID
  requireTime "decision time" o.decidedAtUnix
  optionalText "reason" o.reason maxShortTextBytes

def encode (o : OwnerApprovalDeny) : Bytes :=
  Write.text o.approvalID ++ Write.text o.eventID ++ Write.uint64 o.decidedAtUnix ++ Write.text o.reason

def decode : Read OwnerApprovalDeny := do
  let approvalID ← Read.text maxShortTextBytes
  let eventID ← Read.text maxShortTextBytes
  let decidedAtUnix ← Read.uint64
  let reason ← Read.text maxShortTextBytes
  pure { approvalID, eventID, decidedAtUnix, reason }

theorem roundTrip : RoundTrip decode encode (validate · = .ok ()) := by
  refine ExactWhere.roundTrip (.field approvalID short_exact <| .field eventID short_exact <|
    .field decidedAtUnix uint64_exact <| .field reason short_exact
    .done) (fun o _ => ?_) fun o h => ?_
  · simp [encode]
  simp only [validate, seq_ok] at h
  obtain ⟨_, happID, _, heid, _, -, hrsn⟩ := h
  exact ⟨requireText_fits happID, requireEvent_fits heid, trivial, optionalText_fits hrsn, trivial⟩

end OwnerApprovalDeny

/-! ## Messages of other protocols -/

/-- A message of a protocol this one carries and does not define. -/
structure Foreign where
  protocol : Bytes
  version : Bytes
  body : Bytes
  deriving DecidableEq, Repr

namespace Foreign

variable (f : Foreign)

def check : Except Failure Unit := do
  requireMatch "protocol" f.protocol protocolPattern
  requireText "protocol version" f.version maxShortTextBytes
  failIf (f.body = []) "a carried message has no body"
  failIf (maxOpaqueBytes < f.body.length) "a carried message exceeds its bound"

/-- A message of one profile. -/
def validate (profile : Prop) [Decidable profile] (refusal : String) : Except Failure Unit := do
  failIf (¬profile) refusal
  f.check

/-- The four carried messages. -/
def validateA2AMessage : Except Failure Unit :=
  f.validate (f.protocol = lit "a2a") "invalid A2A carriage profile"

def validateMCPCall : Except Failure Unit :=
  f.validate (f.protocol = lit "mcp") "invalid MCP call carriage profile"

def validateMCPResult : Except Failure Unit :=
  f.validate (f.protocol = lit "mcp") "invalid MCP result carriage profile"

def validateAgentPacketMessage : Except Failure Unit :=
  f.validate (f.protocol = lit "agentpacket" ∧ f.version = lit "1") "invalid Agent Packet carriage profile"

def encode : Bytes :=
  Write.text f.protocol ++ Write.text f.version ++ Write.bytes f.body

def decode : Read Foreign := do
  let protocol ← Read.text maxShortTextBytes
  let version ← Read.text maxShortTextBytes
  let body ← Read.bytes maxOpaqueBytes
  pure { protocol, version, body }

/-- A message whose profile names a short protocol is read back. -/
theorem roundTrip {profile : Foreign → Prop} [DecidablePred profile] {refusal name : String}
    (hsho : FitsText maxShortTextBytes (lit name)) (hnm : ∀ {f}, profile f → f.protocol = lit name) :
    RoundTrip decode encode fun f => f.validate (profile f) refusal = .ok () := by
  refine ExactWhere.roundTrip (.field protocol short_exact <| .field version short_exact <|
    .field body (bytes_exact (by decide)) .done) (fun f _ => ?_) fun f h => ?_
  · simp [encode]
  simp only [validate, check, seq_ok, failIf_ok] at h
  obtain ⟨_, hprofile, _, -, _, hvn, _, -, hbo⟩ := h
  exact ⟨hnm (not_not.mp hprofile) ▸ hsho, requireText_fits hvn, not_lt.mp hbo, trivial⟩

end Foreign

/-! ## Artifacts and chain references -/

/-- An artifact that exists, without moving it. -/
structure ArtifactOffer where
  artifactDigest : Bytes
  mediaType : Bytes
  sizeBytes : UInt64
  description : Bytes
  deriving DecidableEq, Repr

namespace ArtifactOffer

def schema : String := "tos.messaging.payload.artifact-offer.v1"

def validate (a : ArtifactOffer) : Except Failure Unit := do
  requireDigest "artifact digest" a.artifactDigest
  requireText "media type" a.mediaType maxShortTextBytes
  failIf (a.sizeBytes = 0) "an offered artifact has no size"
  optionalText "description" a.description maxShortTextBytes

def encode (a : ArtifactOffer) : Bytes :=
  Write.text a.artifactDigest ++ Write.text a.mediaType ++ Write.uint64 a.sizeBytes ++ Write.text a.description

def decode : Read ArtifactOffer := do
  let artifactDigest ← Read.text maxDigestBytes
  let mediaType ← Read.text maxShortTextBytes
  let sizeBytes ← Read.uint64
  let description ← Read.text maxShortTextBytes
  pure { artifactDigest, mediaType, sizeBytes, description }

theorem roundTrip : RoundTrip decode encode (validate · = .ok ()) := by
  refine ExactWhere.roundTrip (.field artifactDigest digest_exact <|
    .field mediaType short_exact <| .field sizeBytes uint64_exact <|
    .field description short_exact .done) (fun a _ => ?_) fun a h => ?_
  · simp [encode]
  simp only [validate, seq_ok] at h
  obtain ⟨_, hdig, _, hmedia, _, -, hdsc⟩ := h
  exact ⟨requireDigest_fits hdig, requireText_fits hmedia, trivial, optionalText_fits hdsc, trivial⟩

end ArtifactOffer

/-- An artifact and where a copy may be fetched. -/
structure ArtifactReference where
  artifactDigest : Bytes
  locator : Bytes
  deriving DecidableEq, Repr

namespace ArtifactReference

def schema : String := "tos.messaging.payload.artifact-reference.v1"

def validate (a : ArtifactReference) : Except Failure Unit := do
  requireDigest "artifact digest" a.artifactDigest
  requireText "locator" a.locator maxShortTextBytes

def encode (a : ArtifactReference) : Bytes :=
  Write.text a.artifactDigest ++ Write.text a.locator

def decode : Read ArtifactReference := do
  let artifactDigest ← Read.text maxDigestBytes
  let locator ← Read.text maxShortTextBytes
  pure { artifactDigest, locator }

theorem roundTrip : RoundTrip decode encode (validate · = .ok ()) := by
  refine ExactWhere.roundTrip (.field artifactDigest digest_exact <|
    .field locator short_exact .done) (fun a _ => ?_) fun a h => ?_
  · simp [encode]
  · obtain ⟨_, hdig, hloc⟩ := seq_ok.mp h
    exact ⟨requireDigest_fits hdig, requireText_fits hloc, trivial⟩

end ArtifactReference

/-- Finalized state that is pointed at: a quote, an escrow or a receipt. -/
structure ChainReference where
  account : Bytes
  stateDigest : Bytes
  deriving DecidableEq, Repr

namespace ChainReference

def validate (c : ChainReference) : Except Failure Unit := do
  requireText "account" c.account maxShortTextBytes
  requireDigest "state digest" c.stateDigest

def encode (c : ChainReference) : Bytes :=
  Write.text c.account ++ Write.text c.stateDigest

def decode : Read ChainReference := do
  let account ← Read.text maxShortTextBytes
  let stateDigest ← Read.text maxDigestBytes
  pure { account, stateDigest }

theorem roundTrip : RoundTrip decode encode (validate · = .ok ()) := by
  refine ExactWhere.roundTrip (.field account short_exact <| .field stateDigest digest_exact
    .done) (fun c _ => ?_) fun c h => ?_
  · simp [encode]
  · obtain ⟨_, hact, hdig⟩ := seq_ok.mp h
    exact ⟨requireText_fits hact, requireDigest_fits hdig, trivial⟩

end ChainReference

/-! ## Acknowledgements -/

/-- An event arrived. -/
structure DeliveryAck where
  eventID : Bytes
  receivedAtUnix : UInt64
  deriving DecidableEq, Repr

namespace DeliveryAck

def schema : String := "tos.messaging.payload.delivery-ack.v1"

def validate (d : DeliveryAck) : Except Failure Unit := do
  requireEvent "acknowledged event" d.eventID
  requireTime "arrival time" d.receivedAtUnix

def encode (d : DeliveryAck) : Bytes :=
  Write.text d.eventID ++ Write.uint64 d.receivedAtUnix

def decode : Read DeliveryAck := do
  let eventID ← Read.text maxShortTextBytes
  let receivedAtUnix ← Read.uint64
  pure { eventID, receivedAtUnix }

theorem roundTrip : RoundTrip decode encode (validate · = .ok ()) := by
  refine ExactWhere.roundTrip (.field eventID short_exact <| .field receivedAtUnix uint64_exact
    .done) (fun d _ => ?_) fun d h => ?_
  · simp [encode]
  · obtain ⟨_, heid, -⟩ := seq_ok.mp h
    exact ⟨requireEvent_fits heid, trivial, trivial⟩

end DeliveryAck

def applicationOutcomes : List Bytes := [lit "applied", lit "rejected", lit "held-for-approval"]

/-- What the recipient's runtime did with an event. -/
structure ApplicationAck where
  eventID : Bytes
  outcome : Bytes
  decidedAtUnix : UInt64
  reason : Bytes
  deriving DecidableEq, Repr

namespace ApplicationAck

def schema : String := "tos.messaging.payload.application-ack.v1"

def validate (a : ApplicationAck) : Except Failure Unit := do
  requireEvent "acknowledged event" a.eventID
  requireMember "application outcome" a.outcome applicationOutcomes
  requireTime "decision time" a.decidedAtUnix
  if a.outcome = lit "rejected" then requireText "reason" a.reason maxShortTextBytes
  else optionalText "reason" a.reason maxShortTextBytes

def encode (a : ApplicationAck) : Bytes :=
  Write.text a.eventID ++ Write.text a.outcome ++ Write.uint64 a.decidedAtUnix ++ Write.text a.reason

def decode : Read ApplicationAck := do
  let eventID ← Read.text maxShortTextBytes
  let outcome ← Read.text maxShortTextBytes
  let decidedAtUnix ← Read.uint64
  let reason ← Read.text maxShortTextBytes
  pure { eventID, outcome, decidedAtUnix, reason }

theorem roundTrip : RoundTrip decode encode (validate · = .ok ()) := by
  refine ExactWhere.roundTrip (.field eventID short_exact <| .field outcome short_exact <|
    .field decidedAtUnix uint64_exact <| .field reason short_exact .done)
    (fun a _ => ?_) fun a h => ?_
  · simp [encode]
  simp only [validate, seq_ok] at h
  obtain ⟨_, heid, _, hou, _, -, hrsn⟩ := h
  refine ⟨requireEvent_fits heid, requireMember_fits (by decide +kernel) hou, trivial, ?_, trivial⟩
  split_ifs at hrsn with hreject
  · exact requireText_fits hrsn
  · exact optionalText_fits hrsn

end ApplicationAck

/-- An event was read. -/
structure ReadAck where
  eventID : Bytes
  readAtUnix : UInt64
  deriving DecidableEq, Repr

namespace ReadAck

def schema : String := "tos.messaging.payload.read-ack.v1"

def validate (r : ReadAck) : Except Failure Unit := do
  requireEvent "read event" r.eventID
  requireTime "read time" r.readAtUnix

def encode (r : ReadAck) : Bytes :=
  Write.text r.eventID ++ Write.uint64 r.readAtUnix

def decode : Read ReadAck := do
  let eventID ← Read.text maxShortTextBytes
  let readAtUnix ← Read.uint64
  pure { eventID, readAtUnix }

theorem roundTrip : RoundTrip decode encode (validate · = .ok ()) := by
  refine ExactWhere.roundTrip (.field eventID short_exact <| .field readAtUnix uint64_exact
    .done) (fun r _ => ?_) fun r h => ?_
  · simp [encode]
  · obtain ⟨_, heid, -⟩ := seq_ok.mp h
    exact ⟨requireEvent_fits heid, trivial, trivial⟩

end ReadAck

/-! ## Rooms -/

/-- An Agent invited into a room. -/
structure RoomInvite where
  roomID : Bytes
  inviteeAgentID : Bytes
  purpose : Bytes
  expiresAtUnix : UInt64
  deriving DecidableEq, Repr

namespace RoomInvite

def schema : String := "tos.messaging.payload.room-invite.v1"

def validate (r : RoomInvite) : Except Failure Unit := do
  requireMatch "room" r.roomID roomPattern
  requireMatch "invitee" r.inviteeAgentID agentPattern
  requireText "purpose" r.purpose maxShortTextBytes
  requireTime "invitation expiry" r.expiresAtUnix

def encode (r : RoomInvite) : Bytes :=
  Write.text r.roomID ++ Write.text r.inviteeAgentID ++ Write.text r.purpose ++ Write.uint64 r.expiresAtUnix

def decode : Read RoomInvite := do
  let roomID ← Read.text maxShortTextBytes
  let inviteeAgentID ← Read.text maxShortTextBytes
  let purpose ← Read.text maxShortTextBytes
  let expiresAtUnix ← Read.uint64
  pure { roomID, inviteeAgentID, purpose, expiresAtUnix }

theorem roundTrip : RoundTrip decode encode (validate · = .ok ()) := by
  refine ExactWhere.roundTrip (.field roomID short_exact <| .field inviteeAgentID short_exact <|
    .field purpose short_exact <| .field expiresAtUnix uint64_exact
    .done) (fun r _ => ?_) fun r h => ?_
  · simp [encode]
  simp only [validate, seq_ok] at h
  obtain ⟨_, hrid, _, hinvite, _, hpurpose, -⟩ := h
  exact ⟨requireMatch_id_fits (by decide +kernel) hrid, requireMatch_id_fits (by decide +kernel) hinvite,
    requireText_fits hpurpose, trivial, trivial⟩

end RoomInvite

/-- A room's membership at a point in the room's own ordering. -/
structure RoomMembershipCommit where
  roomID : Bytes
  epoch : UInt64
  membershipDigest : Bytes
  memberCount : UInt32
  deriving DecidableEq, Repr

namespace RoomMembershipCommit

def schema : String := "tos.messaging.payload.room-membership-commit.v1"

def validate (r : RoomMembershipCommit) : Except Failure Unit := do
  requireMatch "room" r.roomID roomPattern
  failIf (r.epoch = 0) "a membership commit has no epoch"
  requireDigest "membership digest" r.membershipDigest
  failIf (r.memberCount = 0) "a room with no members is not a room"

def encode (r : RoomMembershipCommit) : Bytes :=
  Write.text r.roomID ++ Write.uint64 r.epoch ++ Write.text r.membershipDigest ++ Write.uint32 r.memberCount

def decode : Read RoomMembershipCommit := do
  let roomID ← Read.text maxShortTextBytes
  let epoch ← Read.uint64
  let membershipDigest ← Read.text maxDigestBytes
  let memberCount ← Read.uint32
  pure { roomID, epoch, membershipDigest, memberCount }

theorem roundTrip : RoundTrip decode encode (validate · = .ok ()) := by
  refine ExactWhere.roundTrip (.field roomID short_exact <| .field epoch uint64_exact <|
    .field membershipDigest digest_exact <| .field memberCount uint32_exact
    .done) (fun r _ => ?_) fun r h => ?_
  · simp [encode]
  simp only [validate, seq_ok] at h
  obtain ⟨_, hrid, _, -, _, hdig, -⟩ := h
  exact ⟨requireMatch_id_fits (by decide +kernel) hrid, trivial, requireDigest_fits hdig, trivial, trivial⟩

end RoomMembershipCommit

/-- A text addressed to a room, and the membership epoch it was written under. -/
structure RoomMessage where
  roomID : Bytes
  epoch : UInt64
  mediaType : Bytes
  body : Bytes
  deriving DecidableEq, Repr

namespace RoomMessage

def schema : String := "tos.messaging.payload.room-message.v1"

def validate (r : RoomMessage) : Except Failure Unit := do
  requireMatch "room" r.roomID roomPattern
  failIf (r.epoch = 0) "a room message names no membership epoch"
  requireMember "media type" r.mediaType mediaTypes
  requireText "body" r.body maxTextBytes

def encode (r : RoomMessage) : Bytes :=
  Write.text r.roomID ++ Write.uint64 r.epoch ++ Write.text r.mediaType ++ Write.text r.body

def decode : Read RoomMessage := do
  let roomID ← Read.text maxShortTextBytes
  let epoch ← Read.uint64
  let mediaType ← Read.text maxShortTextBytes
  let body ← Read.text maxTextBytes
  pure { roomID, epoch, mediaType, body }

theorem roundTrip : RoundTrip decode encode (validate · = .ok ()) := by
  refine ExactWhere.roundTrip (.field roomID short_exact <| .field epoch uint64_exact <|
    .field mediaType short_exact <| .field body long_exact .done) (fun r _ => ?_) fun r h => ?_
  · simp [encode]
  simp only [validate, seq_ok] at h
  obtain ⟨_, hrid, _, -, _, hmedia, hbo⟩ := h
  exact ⟨requireMatch_id_fits (by decide +kernel) hrid, trivial,
    requireMember_fits (by decide +kernel) hmedia, requireText_fits hbo, trivial⟩

end RoomMessage

/-- A presentation decision about one room message. -/
structure RoomModeration where
  roomID : Bytes
  membershipEpoch : UInt64
  rolePolicyRevision : UInt64
  targetEventID : Bytes
  decisionRevision : UInt64
  action : Bytes
  reason : Bytes
  deriving DecidableEq, Repr

namespace RoomModeration

def schema : String := "tos.messaging.payload.room-moderation.v1"

def validate (r : RoomModeration) : Except Failure Unit := do
  requireMatch "room" r.roomID roomPattern
  failIf (r.membershipEpoch = 0 ∨ r.rolePolicyRevision = 0 ∨ r.decisionRevision = 0)
    "room moderation has no authority revision"
  requireEvent "moderation target" r.targetEventID
  failIf (r.action ∉ [lit "hide", lit "restore"]) "unknown room moderation action"
  requireText "moderation reason" r.reason maxShortTextBytes

def encode (r : RoomModeration) : Bytes :=
  Write.text r.roomID ++ Write.uint64 r.membershipEpoch ++ Write.uint64 r.rolePolicyRevision ++
    Write.text r.targetEventID ++ Write.uint64 r.decisionRevision ++ Write.text r.action ++ Write.text r.reason

def decode : Read RoomModeration := do
  let roomID ← Read.text maxShortTextBytes
  let membershipEpoch ← Read.uint64
  let rolePolicyRevision ← Read.uint64
  let targetEventID ← Read.text maxShortTextBytes
  let decisionRevision ← Read.uint64
  let action ← Read.text maxShortTextBytes
  let reason ← Read.text maxShortTextBytes
  pure { roomID, membershipEpoch, rolePolicyRevision, targetEventID, decisionRevision, action, reason }

theorem roundTrip : RoundTrip decode encode (validate · = .ok ()) := by
  refine ExactWhere.roundTrip (.field roomID short_exact <| .field membershipEpoch uint64_exact <|
    .field rolePolicyRevision uint64_exact <| .field targetEventID short_exact <|
    .field decisionRevision uint64_exact <| .field action short_exact <|
    .field reason short_exact .done) (fun r _ => ?_) fun r h => ?_
  · simp [encode]
  simp only [validate, seq_ok, failIf_ok] at h
  obtain ⟨_, hrid, _, -, _, htgt, _, haction, hrsn⟩ := h
  have hsho : ∀ action ∈ [lit "hide", lit "restore"], FitsText maxShortTextBytes action := by decide +kernel
  exact ⟨requireMatch_id_fits (by decide +kernel) hrid, trivial, trivial, requireEvent_fits htgt,
    trivial, hsho _ (not_not.mp haction), requireText_fits hrsn, trivial⟩

end RoomModeration

/-! ## History -/

def maxHistoryEventsPerSegment : Nat := 16
def maxHistorySegmentEventBytes : Nat := 96 * 2 ^ 10

/-- A bounded backfill of one conversation from one device to another. -/
structure DeviceHistorySegment where
  sourceDeviceID : Bytes
  targetDeviceID : Bytes
  conversationID : Bytes
  sequence : UInt64
  previousSegmentDigest : Bytes
  afterCreatedAtUnix : UInt64
  afterEventID : Bytes
  events : List Bytes
  deriving DecidableEq, Repr

namespace DeviceHistorySegment

def schema : String := "tos.messaging.payload.device-history-segment.v1"

/-- The events of a segment, each within its bound and together within theirs. `total` is what was
    counted so far. -/
def checkEvents : Nat → List Bytes → Except Failure Unit
  | _, [] => .ok ()
  | total, event :: events => do
    failIf (event = [] ∨ maxOpaqueBytes < event.length) "history segment contains an invalid event"
    failIf (maxHistorySegmentEventBytes < total + event.length) "history segment exceeds its content bound"
    checkEvents (total + event.length) events

variable (d : DeviceHistorySegment)

/-- The first segment names no predecessor, every other one its exact predecessor and cursor. -/
def checkCursor : Except Failure Unit :=
  if d.sequence = 1 then
    failIf (d.previousSegmentDigest ≠ [] ∨ d.afterCreatedAtUnix ≠ 0 ∨ d.afterEventID ≠ [])
      "first history segment cannot name a predecessor or cursor"
  else
    failIf (¬validDigestText d.previousSegmentDigest ∨ d.afterCreatedAtUnix = 0 ∨ ¬eventPattern d.afterEventID)
      "history segment needs its exact predecessor and cursor"

def validate : Except Failure Unit := do
  failIf (¬devicePattern d.sourceDeviceID ∨ ¬devicePattern d.targetDeviceID ∨ d.sourceDeviceID = d.targetDeviceID)
    "history segment needs two distinct device identifiers"
  failIf (¬conversationPattern d.conversationID) "history segment has an invalid conversation"
  failIf (d.sequence = 0) "history segment sequence must start at one"
  d.checkCursor
  failIf (d.events = [] ∨ maxHistoryEventsPerSegment < d.events.length)
    "history segment event count is outside its bound"
  checkEvents 0 d.events

def encode : Bytes :=
  Write.text d.sourceDeviceID ++ Write.text d.targetDeviceID ++ Write.text d.conversationID ++
    Write.uint64 d.sequence ++ Write.text d.previousSegmentDigest ++
    Write.uint64 d.afterCreatedAtUnix ++ Write.text d.afterEventID ++ Write.blocks d.events

def decode : Read DeviceHistorySegment := do
  let sourceDeviceID ← Read.text maxShortTextBytes
  let targetDeviceID ← Read.text maxShortTextBytes
  let conversationID ← Read.text maxShortTextBytes
  let sequence ← Read.uint64
  let previousSegmentDigest ← Read.text maxDigestBytes
  let afterCreatedAtUnix ← Read.uint64
  let afterEventID ← Read.text maxShortTextBytes
  let events ← Read.blocks maxHistoryEventsPerSegment maxOpaqueBytes
  pure
    { sourceDeviceID, targetDeviceID, conversationID, sequence, previousSegmentDigest,
      afterCreatedAtUnix, afterEventID, events }

theorem checkEvents_bounded {total : Nat} {events : List Bytes}
    (h : checkEvents total events = .ok ()) : ∀ event ∈ events, event.length ≤ maxOpaqueBytes := by
  induction events generalizing total with
  | nil => exact List.forall_mem_nil _
  | cons head events ih =>
    obtain ⟨hhd, h⟩ := failIf_then.mp h
    obtain ⟨_, -, hre⟩ := seq_ok.mp h
    exact List.forall_mem_cons.mpr ⟨not_lt.mp fun hlong => hhd (Or.inr hlong), ih hre⟩

theorem roundTrip : RoundTrip decode encode (validate · = .ok ()) := by
  refine ExactWhere.roundTrip (.field sourceDeviceID short_exact <|
    .field targetDeviceID short_exact <| .field conversationID short_exact <|
    .field sequence uint64_exact <| .field previousSegmentDigest digest_exact <|
    .field afterCreatedAtUnix uint64_exact <| .field afterEventID short_exact <|
    .field events (blocks_exact (by decide) (by decide)) .done) (fun d _ => ?_) fun d h => ?_
  · simp [encode]
  simp only [validate, seq_ok] at h
  obtain ⟨_, hdevices, _, hconv, _, -, _, hcsr, _, hcnt, hevents⟩ := h
  rw [failIf_ok, not_or, not_or, not_not, not_not] at hdevices
  rw [failIf_ok, not_not] at hconv
  rw [failIf_ok, not_or, not_lt] at hcnt
  have htag : ∀ tag ∈ ["dev_", "conv_", "evt_"], ShortTag tag := by decide +kernel
  have hpre : FitsText maxDigestBytes d.previousSegmentDigest ∧ FitsText maxShortTextBytes d.afterEventID := by
    unfold checkCursor at hcsr
    split_ifs at hcsr with hfst
    · rw [failIf_ok, not_or, not_or, not_not, not_not, not_not] at hcsr
      rw [hcsr.1, hcsr.2.2]
      exact ⟨fitsText_nil _, fitsText_nil _⟩
    · rw [failIf_ok, not_or, not_or, not_not, not_not] at hcsr
      exact ⟨digest_fits hcsr.1, id_fits (htag _ (by simp)) hcsr.2.2⟩
  exact ⟨id_fits (htag _ (by simp)) hdevices.1, id_fits (htag _ (by simp)) hdevices.2.1,
    id_fits (htag _ (by simp)) hconv, trivial, hpre.1, trivial, hpre.2,
    ⟨hcnt.2, checkEvents_bounded hevents⟩, trivial⟩

end DeviceHistorySegment

end Messenger.Payload
