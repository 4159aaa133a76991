import Messenger.Room.Membership

/-!
# `Room.Authority` — who serializes a room's changes

One Agent and its Messaging Endpoint may change a room's membership, by a signature over the exact
membership that follows, and may hand that power on, by a signature over the exact step from one
authority to the next (`pkg/room/authority.go`).

- **Keys.** The verifier is given a delegation and checks that its key derives the endpoint. So a
  signature it accepts is by a key of the authority's own endpoint: `Authority.Signed`.
- **Digests.** A digest a caller supplies is a text. An unusable one is refused by every validation
  here as the all-zero digest is, so it is a `BitVec 256` like the others.
-/

namespace Messenger.Room

open Identity
open Canon (Field digestText)

/-- The Agent and endpoint that may commit the room's next epoch. -/
structure Authority where
  agentID : AgentID
  endpointID : EndpointID
  deriving DecidableEq, Repr

/-! ## Delegations -/

/-- The fields a network adds to a preimage. -/
def appendAuthorityNetwork : Option Network → Except Failure (List Field)
  | none => .error (.other "invalid room authority network")
  | some network => do
    failIf (¬network.valid) "invalid room authority network"
    match network.fields with
    | none => .error (.other "invalid room authority genesis hashes")
    | some fields => pure fields

def sameAuthorityNetwork (first second : Option Network) : Bool := first.isSome && first = second

variable (c : Crypto)

/-- A delegation in its window whose key is its endpoint's. -/
def verifyAuthorityDelegation (delegation : Delegation) (now : Time) : Except Failure Unit := do
  checkWindow delegation now
  failIf (delegation.identityPublicKey.length ≠ publicKeySize) "room authority delegation has no Endpoint key"
  failIf (deriveEndpointID c delegation.network delegation.agentID delegation.identityPublicKey ≠
    .ok delegation.endpointID) "room authority delegation key does not derive its Endpoint"

/-- The delegation carries a key of the authority's endpoint. -/
structure Authority.DelegatedBy (a : Authority) (delegation : Delegation) : Prop where
  agent : delegation.agentID = a.agentID
  endpoint : delegation.endpointID = a.endpointID
  key : deriveEndpointID c delegation.network a.agentID delegation.identityPublicKey = .ok a.endpointID

/-- **Signed by an authority.** The signature verifies under a key that derives the authority's
    endpoint. -/
def Authority.Signed (a : Authority) (message signature : Bytes) : Prop :=
  ∃ network key, deriveEndpointID c network a.agentID key = .ok a.endpointID ∧ c.verify key message signature

/-! ## Authorizing a membership -/

def membershipAuthorizationSchema : String := "tos.messaging.room-membership-authorization.v1"
def domainRoomMembershipAuthorization : String := "tos.messaging.room-membership-authorization.v1\x00"

/-- In seconds. -/
def maxMembershipAuthorizationWindow : Nat := 24 * 60 * 60

/-- The authority's bounded signature over one exact membership. -/
structure MembershipAuthorization where
  network : Option Network
  roomID : RoomID
  epoch : Nat
  membershipDigest : BitVec 256
  authority : Authority
  issuedAt : Nat
  expiresAt : Nat
  endpointSignature : Bytes
  deriving DecidableEq, Repr

def validateMembershipAuthorization (value : MembershipAuthorization) (signed : Bool) : Except Failure Unit := do
  failIf (value.epoch = 0 ∨ value.membershipDigest = 0 ∨ value.issuedAt = 0 ∨ value.expiresAt ≤ value.issuedAt ∨
    maxMembershipAuthorizationWindow < value.expiresAt - value.issuedAt) "invalid room membership authorization"
  let _ ← appendAuthorityNetwork value.network
  failIf (signed ∧ value.endpointSignature.length ≠ signatureSize) "invalid room membership authorization signature"

def membershipAuthorizationSigningBytes (value : MembershipAuthorization) : Except Failure Bytes := do
  validateMembershipAuthorization value false
  let network ← appendAuthorityNetwork value.network
  pure (Canon.preimage domainRoomMembershipAuthorization ([.text membershipAuthorizationSchema] ++ network ++
    [.text value.roomID.text, .uint64 value.epoch, .text (digestText value.membershipDigest),
     .text value.authority.agentID.text, .text value.authority.endpointID.text,
     .uint64 value.issuedAt, .uint64 value.expiresAt]))

/-- Check one exact membership against a delegation the caller supplies. -/
def verifyMembershipAuthorization (membership : Membership) (value : MembershipAuthorization)
    (delegation : Delegation) (now : Time) : Except Failure Unit := do
  failIf (now < 0) "invalid room membership verification time"
  validateMembershipAuthorization value true
  membership.usable c
  failIf (membership.roomID ≠ value.roomID ∨ membership.epoch ≠ value.epoch ∨
    membership.digest ≠ value.membershipDigest)
    "room authorization names another membership"
  failIf (value.authority.agentID ≠ delegation.agentID ∨ value.authority.endpointID ≠ delegation.endpointID ∨
    value.authority.agentID ∉ membership.members) "room authorization is not from a member authority"
  verifyAuthorityDelegation c delegation now
  failIf (¬sameAuthorityNetwork value.network delegation.network) "room authorization belongs to another network"
  failIf (now.toNat < value.issuedAt ∨ value.expiresAt ≤ now.toNat ∨ delegation.expiresAt < value.expiresAt)
    "room membership authorization is outside its validity window"
  let preimage ← membershipAuthorizationSigningBytes value
  failIf (¬c.verify delegation.identityPublicKey preimage value.endpointSignature)
    "room membership authorization signature is invalid"

/-! ## Transferring the authority -/

def authorityTransferSchema : String := "tos.messaging.room-authority-transfer.v1"
def domainRoomAuthorityTransfer : String := "tos.messaging.room-authority-transfer.v1\x00"

/-- In seconds. -/
def maxAuthorityTransferWindow : Nat := 24 * 60 * 60

/-- One step from an authority to the next, signed by the one that gives it up. -/
structure AuthorityTransfer where
  network : Option Network
  roomID : RoomID
  priorEpoch : Nat
  nextEpoch : Nat
  priorMembershipDigest : BitVec 256
  nextMembershipDigest : BitVec 256
  fromAuthority : Authority
  toAuthority : Authority
  issuedAt : Nat
  expiresAt : Nat
  currentEndpointSignature : Bytes
  deriving DecidableEq, Repr

def validateAuthorityTransfer (value : AuthorityTransfer) (signed : Bool) : Except Failure Unit := do
  failIf (value.priorEpoch = 0 ∨ value.nextEpoch ≤ value.priorEpoch ∨ value.nextEpoch ≠ succ64 value.priorEpoch ∨
    value.priorMembershipDigest = 0 ∨ value.nextMembershipDigest = 0 ∨
    value.priorMembershipDigest = value.nextMembershipDigest ∨ value.fromAuthority = value.toAuthority ∨
    value.issuedAt = 0 ∨ value.expiresAt ≤ value.issuedAt ∨
    maxAuthorityTransferWindow < value.expiresAt - value.issuedAt)
    "invalid room authority transfer"
  let _ ← appendAuthorityNetwork value.network
  failIf (signed ∧ value.currentEndpointSignature.length ≠ signatureSize) "invalid room authority transfer signature"

def authorityTransferSigningBytes (value : AuthorityTransfer) : Except Failure Bytes := do
  validateAuthorityTransfer value false
  let network ← appendAuthorityNetwork value.network
  pure (Canon.preimage domainRoomAuthorityTransfer ([.text authorityTransferSchema] ++ network ++
    [.text value.roomID.text, .uint64 value.priorEpoch, .uint64 value.nextEpoch,
     .text (digestText value.priorMembershipDigest), .text (digestText value.nextMembershipDigest),
     .text value.fromAuthority.agentID.text, .text value.fromAuthority.endpointID.text,
     .text value.toAuthority.agentID.text, .text value.toAuthority.endpointID.text,
     .uint64 value.issuedAt, .uint64 value.expiresAt]))

/-- Bind a transfer to the recorded authority, the two memberships and the delegations of both
    endpoints. -/
def verifyAuthorityTransfer (current : Authority) (prior next : Membership) (value : AuthorityTransfer)
    (currentDelegation nextDelegation : Delegation) (now : Time) : Except Failure Unit := do
  failIf (now < 0) "invalid room authority verification time"
  validateAuthorityTransfer value true
  failIf (current ≠ value.fromAuthority ∨ currentDelegation.agentID ≠ value.fromAuthority.agentID ∨
    currentDelegation.endpointID ≠ value.fromAuthority.endpointID) "room transfer was not made by the current authority"
  failIf (nextDelegation.agentID ≠ value.toAuthority.agentID ∨ nextDelegation.endpointID ≠ value.toAuthority.endpointID)
    "new room authority is not a finalized Endpoint for its Agent"
  verifyAuthorityDelegation c currentDelegation now
  verifyAuthorityDelegation c nextDelegation now
  failIf (¬sameAuthorityNetwork value.network currentDelegation.network ∨
    ¬sameAuthorityNetwork value.network nextDelegation.network) "room transfer belongs to another network"
  failIf (prior.roomID ≠ value.roomID ∨ next.roomID ≠ value.roomID ∨ prior.epoch ≠ value.priorEpoch ∨
    next.epoch ≠ value.nextEpoch ∨ prior.digest ≠ value.priorMembershipDigest ∨
    next.digest ≠ value.nextMembershipDigest ∨ next.epoch ≠ succ64 prior.epoch)
    "room transfer is not bound to one successor epoch"
  prior.usable c
  next.usable c
  failIf (value.fromAuthority.agentID ∉ prior.members ∨ value.toAuthority.agentID ∉ next.members)
    "room transfer authority is not a member of its epoch"
  failIf (now.toNat < value.issuedAt ∨ value.expiresAt ≤ now.toNat ∨ currentDelegation.expiresAt < value.expiresAt ∨
    nextDelegation.expiresAt < value.expiresAt) "room authority transfer is outside its validity window"
  let preimage ← authorityTransferSigningBytes value
  failIf (¬c.verify currentDelegation.identityPublicKey preimage value.currentEndpointSignature)
    "room authority transfer signature is invalid"

/-! ## What a verification says -/

variable {c : Crypto} {delegation : Delegation} {now : Time} {a : Authority}

theorem deriveEndpointID_network {network : Option Network} {agentID : AgentID} {key : Bytes} {endpoint : EndpointID}
    (h : deriveEndpointID c network agentID key = .ok endpoint) : network ≠ none := by
  rintro rfl
  cases h

theorem verifyAuthorityDelegation_ok (h : verifyAuthorityDelegation c delegation now = .ok ()) :
    deriveEndpointID c delegation.network delegation.agentID delegation.identityPublicKey =
      .ok delegation.endpointID := by
  iterate 2 obtain ⟨_, -, h⟩ := seq_ok.mp h
  exact not_not.mp (failIf_ok.mp h)

/-- A verified delegation for an authority's identifiers carries a key of its endpoint. -/
theorem Authority.DelegatedBy.of_verified (hagt : delegation.agentID = a.agentID)
    (hept : delegation.endpointID = a.endpointID) (h : verifyAuthorityDelegation c delegation now = .ok ()) :
    a.DelegatedBy c delegation := by
  refine ⟨hagt, hept, ?_⟩
  rw [← hagt, ← hept]
  exact verifyAuthorityDelegation_ok h

theorem Authority.DelegatedBy.network_ne (h : a.DelegatedBy c delegation) : delegation.network ≠ none :=
  deriveEndpointID_network h.key

theorem Authority.DelegatedBy.signed {message signature : Bytes} (h : a.DelegatedBy c delegation)
    (hver : c.verify delegation.identityPublicKey message signature) : a.Signed c message signature :=
  ⟨delegation.network, delegation.identityPublicKey, h.key, hver⟩

theorem verifyMembershipAuthorization_ok {membership : Membership} {value : MembershipAuthorization}
    (h : verifyMembershipAuthorization c membership value delegation now = .ok ()) :
    membership.usable c = .ok () ∧ value.authority.agentID ∈ membership.members ∧
      value.authority.DelegatedBy c delegation := by
  simp only [verifyMembershipAuthorization, seq_ok, failIf_ok] at h
  obtain ⟨_, -, _, -, _, huse, _, -, _, hmbr, _, hdel, -⟩ := h
  push Not at hmbr
  obtain ⟨hagt, hept, hmem⟩ := hmbr
  exact ⟨huse, hmem, .of_verified hagt.symm hept.symm hdel⟩

/-- **What an accepted transfer says.** It goes from the recorded authority to a member of the next
    epoch, and the recorded authority signed it. -/
structure AuthorityTransfer.Accepted (c : Crypto) (current : Authority) (prior next : Membership)
    (value : AuthorityTransfer) (nextDelegation : Delegation) : Prop where
  source : value.fromAuthority = current
  usable : next.usable c = .ok ()
  member : value.toAuthority.agentID ∈ next.members
  delegated : value.toAuthority.DelegatedBy c nextDelegation
  room : value.roomID = prior.roomID ∧ value.roomID = next.roomID
  epochs : value.priorEpoch = prior.epoch ∧ value.nextEpoch = next.epoch
  digests : value.priorMembershipDigest = prior.digest ∧ value.nextMembershipDigest = next.digest
  signed : ∃ message, authorityTransferSigningBytes value = .ok message ∧
    current.Signed c message value.currentEndpointSignature

theorem verifyAuthorityTransfer_ok {cur : Authority} {prior next : Membership}
    {value : AuthorityTransfer} {nextDelegation : Delegation}
    (h : verifyAuthorityTransfer c cur prior next value delegation nextDelegation now = .ok ()) :
    value.Accepted c cur prior next nextDelegation := by
  simp only [verifyAuthorityTransfer, seq_ok, failIf_ok] at h
  obtain ⟨_, -, _, -, _, hsrc, _, htgt, _, hcur, _, hnx, _, -, _, hbd, _, -, _, huse, _, hmembers,
    _, -, message, hmsg, hver⟩ := h
  push Not at hsrc htgt hbd hmembers
  obtain ⟨rfl, hagt, hept⟩ := hsrc
  obtain ⟨hrm, hroom', hpri, hnx', hdig, hdigest', -⟩ := hbd
  have hdlg : value.fromAuthority.DelegatedBy c delegation := .of_verified hagt hept hcur
  refine ⟨rfl, huse, hmembers.2, .of_verified htgt.1 htgt.2 hnx, ⟨hrm.symm, hroom'.symm⟩,
    ⟨hpri.symm, hnx'.symm⟩, ⟨hdig.symm, hdigest'.symm⟩, message, hmsg, ?_⟩
  exact hdlg.signed (not_not.mp hver)

end Messenger.Room
