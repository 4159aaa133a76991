import Messenger.Identity.Access

/-!
# `Mailbox.Access` — who may use a mailbox

Grants, access requests and the claims that make a request single-use (`pkg/mailbox/auth.go`,
`access_replay.go`, `finalized.go`).

- **Authority.** A live Endpoint signs a grant for a capability key; the capability key signs each
  request. What the finalized state says of an Agent at a time is the parameter
  `Identity.Authority`.
- **Texts.** Digests and identifiers are matched against lowercase patterns and are values here. A
  nonce and the signatures are hexadecimal texts: `AccessRequest.canonicalBytes` decodes the nonce,
  in either letter case, while the claim is made under the text (`claimName`) and is read back by
  `decodeFixedHex`, which takes lowercase only.
- **Claims.** A claim is a file named by a digest, created exclusively. Files are read in the order
  of their names.
-/

namespace Messenger.Mailbox

open Lib Identity
open Canon (hexDecode preimage digestText)

/-- An opaque mailbox identifier: `mbx_` and 64 digits. -/
structure MailboxID where
  digest : BitVec 256
  deriving DecidableEq, Repr

def MailboxID.text (id : MailboxID) : String := Canon.taggedText "mbx_" id.digest

/-- A Relay-level message identifier: `msg_` and 64 digits. -/
structure RelayMessageID where
  digest : BitVec 256
  deriving DecidableEq, Repr

def RelayMessageID.text (id : RelayMessageID) : String := Canon.taggedText "msg_" id.digest

inductive Operation where
  | deposit
  | read
  | delete
  deriving DecidableEq, Repr

def Operation.name : Operation → String
  | .deposit => "deposit"
  | .read => "read"
  | .delete => "delete"

/-- The place of an operation in the order of the names. -/
def Operation.rank : Operation → Nat
  | .delete => 0
  | .deposit => 1
  | .read => 2

/-! ## Grants -/

/-- A capability key for a subset of the operations on one mailbox at one Relay. -/
structure CapabilityGrant where
  network : Network
  agentID : AgentID
  endpointID : EndpointID
  relayPublicKeyHex : String
  mailboxID : MailboxID
  capabilityPublicKeyHex : String
  operations : List Operation
  issuedAtUnix : Nat
  expiresAtUnix : Nat
  endpointSignatureHex : String
  deriving DecidableEq, Repr

def maxGrantLifetime : Nat := 30 * 24 * 60 * 60

/-- The hashes and keys of a grant, decoded. -/
structure GrantKeys where
  root : Bytes
  file : Bytes
  relay : Bytes
  capability : Bytes
  deriving DecidableEq, Repr

variable (c : Crypto) (g : CapabilityGrant)

def CapabilityGrant.validate : Except Failure GrantKeys := do
  failIf (g.network.networkID = [] ∨ 128 < g.network.networkID.length ∨ g.operations = [] ∨
    3 < g.operations.length ∨ g.issuedAtUnix = 0 ∨ g.expiresAtUnix ≤ g.issuedAtUnix ∨
    maxGrantLifetime < g.expiresAtUnix - g.issuedAtUnix) "invalid Mailbox capability grant"
  failIf (¬g.operations.Pairwise fun a b => a.rank ≤ b.rank) "Mailbox grant operations are not canonical"
  failIf (¬g.operations.IsChain (· ≠ ·)) "invalid Mailbox grant operation"
  let root ← required (decodeFixedHex g.network.genesisRootHash 32) "invalid genesis root hash"
  let file ← required (decodeFixedHex g.network.genesisFileHash 32) "invalid genesis file hash"
  let relay ← required (decodeKey g.relayPublicKeyHex) "invalid Relay public key"
  let capability ← required (decodeKey g.capabilityPublicKeyHex) "invalid capability public key"
  pure { root, file, relay, capability }

def capabilityGrantSchema : String := "tos.messaging.mailbox-capability-grant.v1"

/-- What an Endpoint signs. -/
def CapabilityGrant.canonicalBytes : Except Failure Bytes := do
  let keys ← g.validate
  pure (preimage (capabilityGrantSchema ++ "\x00") ([
    .text capabilityGrantSchema, .bytes g.network.networkID, .bytes keys.root, .bytes keys.file, .text g.agentID.text,
    .text g.endpointID.text, .bytes keys.relay, .text g.mailboxID.text, .bytes keys.capability,
    .uint32 g.operations.length] ++ g.operations.map (fun op => .text op.name) ++
    [.uint64 g.issuedAtUnix, .uint64 g.expiresAtUnix]))

def CapabilityGrant.digest : Except Failure (BitVec 256) :=
  g.canonicalBytes.map c.sum256

def verifyGrant (endpointKey relayKey : Bytes) (now : Time) : Except Failure Unit := do
  let message ← g.canonicalBytes
  failIf (badKey endpointKey ∨ badKey relayKey) "invalid Mailbox authority key"
  failIf (hexDecode g.relayPublicKeyHex ≠ some relayKey) "Mailbox grant names another Relay"
  failIf (now < 0 ∨ now.toNat < g.issuedAtUnix ∨ g.expiresAtUnix ≤ now.toNat)
    "Mailbox grant is outside its validity window"
  failIf (¬verifies c endpointKey message g.endpointSignatureHex) "invalid Mailbox grant signature"

/-- The key of the Endpoint a grant names, if it is live. -/
def resolveMailboxEndpoint (a : Authority) (g : CapabilityGrant) (now : Time) : Except Failure Bytes := do
  failIf (g.network ≠ a.network) "Mailbox grant belongs to another network"
  let d ← a.delegation g.agentID now
  failIf (d.agentID ≠ g.agentID ∨ d.endpointID ≠ g.endpointID) "Mailbox grant names another finalized Endpoint"
  failIf (d.expiresAt < g.expiresAtUnix) "Mailbox grant outlives its Endpoint delegation"
  pure d.identityPublicKey

/-! ## Requests -/

/-- A capability's signature on one operation. -/
structure AccessRequest where
  grantDigest : BitVec 256
  operation : Operation
  mailboxID : MailboxID
  bodyDigest : BitVec 256
  nonceHex : String
  issuedAtUnix : Nat
  expiresAtUnix : Nat
  capabilitySignatureHex : String
  deriving DecidableEq, Repr

def maxRequestLifetime : Nat := 2 * 60
def maxRequestFutureSkew : Nat := 30

def accessRequestSchema : String := "tos.messaging.mailbox-access-request.v1"

/-- The bytes of a nonce: 32 of them, not all zero, from digits of either case. -/
def nonceBytes (nonceHex : String) : Option Bytes :=
  (hexDecode nonceHex).filter fun raw => raw.length = 32 && raw.any (· ≠ 0)

/-- What a capability signs. -/
def AccessRequest.canonicalBytes (r : AccessRequest) : Except Failure Bytes := do
  failIf (r.grantDigest = 0 ∨ r.bodyDigest = 0 ∨ r.issuedAtUnix = 0 ∨ r.expiresAtUnix ≤ r.issuedAtUnix ∨
    maxRequestLifetime < r.expiresAtUnix - r.issuedAtUnix) "invalid Mailbox access request"
  let nonce ← required (nonceBytes r.nonceHex) "invalid Mailbox access nonce"
  pure (preimage (accessRequestSchema ++ "\x00") [
    .text accessRequestSchema, .text (digestText r.grantDigest), .text r.operation.name, .text r.mailboxID.text,
    .text (digestText r.bodyDigest), .bytes nonce, .uint64 r.issuedAtUnix, .uint64 r.expiresAtUnix])

def verifyAccessRequest (r : AccessRequest) (expected : Operation) (bodyDigest : BitVec 256)
    (now : Time) : Except Failure Unit := do
  let grantDigest ← g.digest c
  let message ← r.canonicalBytes
  failIf (r.grantDigest ≠ grantDigest ∨ r.operation ≠ expected ∨ r.mailboxID ≠ g.mailboxID ∨ r.bodyDigest ≠ bodyDigest)
    "Mailbox request does not match its grant or operation body"
  failIf (expected ∉ g.operations) "Mailbox grant does not allow the operation"
  failIf (now < 0 ∨ now.toNat + maxRequestFutureSkew < r.issuedAtUnix ∨ r.expiresAtUnix ≤ now.toNat ∨
    r.issuedAtUnix < g.issuedAtUnix ∨ g.expiresAtUnix < r.expiresAtUnix)
      "Mailbox request is outside its validity window"
  let capability := (hexDecode g.capabilityPublicKeyHex).getD []
  failIf (¬verifies c capability message r.capabilitySignatureHex) "invalid Mailbox capability signature"

/-! ## Claims -/

/-- The file a claim is kept in. -/
def claimName (grantDigest : BitVec 256) (nonceHex : String) : BitVec 256 :=
  claimNameIn c "tos.messaging.mailbox-access-claim.v1\x00" grantDigest nonceHex

/-- The checks of a claim that is read back. -/
def readAccessClaim (name : BitVec 256) (claim : AccessClaim) : Except Failure Unit :=
  readClaim "Mailbox" (decodeFixedHex claim.nonceHex 32) name (claimName c claim.grantDigest claim.nonceHex) claim

/-- Walk the claims: each is read, an expired one is removed, the others are counted. A claim that
    is not readable ends the walk, and so does the disk when it fails after `failsAt` removals; what
    was removed before stays removed. -/
def walkClaims (c : Crypto) (now : Nat) :
    List (BitVec 256) → Claims → Nat → Option Nat → Except Failure Nat × Claims
  | [], claims, live, _ => (.ok live, claims)
  | name :: names, claims, live, failsAt =>
    match lookup name claims with
    | none => walkClaims c now names claims live failsAt
    | some claim =>
      match readAccessClaim c name claim with
      | .error failure => (.error failure, claims)
      | .ok _ =>
        if now < claim.expiresAtUnix then walkClaims c now names claims (live + 1) failsAt
        else if failsAt = some 0 then (.error (.other "remove expired Mailbox access claim"), claims)
        else walkClaims c now names (AList.erase name claims) live (failsAt.map (· - 1))

end Messenger.Mailbox
