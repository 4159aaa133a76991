import Messenger.Identity.Access

/-!
# `Attachments.Access` — who may use an attachment store

Grants, access requests and claims of the remote attachment store (`pkg/attachments/remote_auth.go`,
`access_replay.go`, `finalized.go`). They are those of the Mailbox Relay with three differences:

- **Keys.** The Endpoint's, the store's and the capability's key have to be three keys.
- **Nonces.** A nonce is decoded by `decodeFixedHex` wherever it is read, so its text is its bytes.
- **Clock.** The highest time at which a claim was made is on disk, and a claim at an earlier time
  is refused.
-/

namespace Messenger.Attachments

open Lib Identity
open Canon (hexDecode preimage digestText hashPattern)
open Eventlog (Written Medium)

inductive Operation where
  | upload
  | fetch
  | delete
  deriving DecidableEq, Repr

def Operation.name : Operation → String
  | .upload => "upload"
  | .fetch => "fetch"
  | .delete => "delete"

/-- The place of an operation in the order of the names. -/
def Operation.rank : Operation → Nat
  | .delete => 0
  | .fetch => 1
  | .upload => 2

/-! ## Grants -/

/-- A capability key for a subset of the operations on one exact lease at one store. -/
structure CapabilityGrant where
  network : Network
  agentID : AgentID
  endpointID : EndpointID
  storagePublicKeyHex : String
  capabilityPublicKeyHex : String
  manifestDigest : BitVec 256
  chunkDigests : List (BitVec 256)
  ciphertextBytes : Nat
  retainUntilUnix : Nat
  operations : List Operation
  issuedAtUnix : Nat
  expiresAtUnix : Nat
  endpointSignatureHex : String
  deriving DecidableEq, Repr

def maxChunkBytes : Nat := 2 ^ 20
def maxPlaintextBytes : Nat := 512 * 2 ^ 20
def maxChunks : Nat := 2048
def maxGrantLifetime : Nat := 30 * 24 * 60 * 60

/-- A list of digests is well formed and without repetition, in the order of the list. -/
def distinctDigests (invalid duplicate : String) (seen : List (BitVec 256)) : List (BitVec 256) → Except Failure Unit
  | [] => .ok ()
  | digest :: digests => do
    failIf (digest = 0) invalid
    failIf (digest ∈ seen) duplicate
    distinctDigests invalid duplicate (digest :: seen) digests

variable (c : Crypto) (g : CapabilityGrant)

/-- The checks of a grant; its two keys, decoded. -/
def CapabilityGrant.validate : Except Failure (Bytes × Bytes) := do
  failIf (g.network.networkID = [] ∨ 128 < g.network.networkID.length ∨ ¬hashPattern g.network.genesisRootHash ∨
    ¬hashPattern g.network.genesisFileHash ∨ g.manifestDigest = 0 ∨ g.chunkDigests = [] ∨
    maxChunks < g.chunkDigests.length ∨ g.ciphertextBytes = 0 ∨ maxPlaintextBytes + maxChunks * 16 < g.ciphertextBytes ∨
    g.issuedAtUnix = 0 ∨ g.retainUntilUnix ≤ g.issuedAtUnix ∨ g.expiresAtUnix < g.retainUntilUnix ∨
    maxGrantLifetime < g.expiresAtUnix - g.issuedAtUnix ∨ g.operations = [] ∨ 3 < g.operations.length)
    "invalid attachment capability grant"
  distinctDigests "invalid attachment grant chunk digest" "duplicate attachment grant chunk digest" [] g.chunkDigests
  failIf (¬g.operations.Pairwise fun a b => a.rank ≤ b.rank) "attachment grant operations are not canonical"
  failIf (¬g.operations.IsChain (· ≠ ·)) "invalid attachment grant operation"
  let storage ← required (decodeKey g.storagePublicKeyHex) "invalid attachment storage public key"
  let capability ← required (decodeKey g.capabilityPublicKeyHex) "invalid attachment capability public key"
  pure (storage, capability)

def capabilityGrantSchema : String := "tos.messaging.attachment-capability-grant.v1"

/-- What an Endpoint signs. -/
def CapabilityGrant.canonicalBytes : Except Failure Bytes := do
  let (storage, capability) ← g.validate
  let root ← required (hexDecode g.network.genesisRootHash) "invalid canonical 32-byte hash"
  let file ← required (hexDecode g.network.genesisFileHash) "invalid canonical 32-byte hash"
  pure (preimage (capabilityGrantSchema ++ "\x00") ([
    .text capabilityGrantSchema, .bytes g.network.networkID, .bytes root, .bytes file, .text g.agentID.text,
    .text g.endpointID.text, .bytes storage, .bytes capability, .text (digestText g.manifestDigest),
    .uint32 g.chunkDigests.length] ++ g.chunkDigests.map (fun digest => .text (digestText digest)) ++
    [.uint64 g.ciphertextBytes, .uint64 g.retainUntilUnix, .uint32 g.operations.length] ++
    g.operations.map (fun op => .text op.name) ++ [.uint64 g.issuedAtUnix, .uint64 g.expiresAtUnix]))

def CapabilityGrant.digest : Except Failure (BitVec 256) :=
  g.canonicalBytes.map c.sum256

def verifyGrant (endpointKey storageKey : Bytes) (now : Time) : Except Failure Unit := do
  let message ← g.canonicalBytes
  failIf (badKey endpointKey ∨ badKey storageKey) "invalid attachment authority key"
  let bound ← required (decodeFixedHex g.storagePublicKeyHex publicKeySize) "non-canonical hexadecimal value"
  failIf (bound ≠ storageKey) "attachment grant names another storage operator"
  let capability ← required (decodeFixedHex g.capabilityPublicKeyHex publicKeySize) "non-canonical hexadecimal value"
  failIf (bound = capability ∨ bound = endpointKey ∨ capability = endpointKey)
    "attachment Endpoint, storage, and capability keys are not separated"
  failIf (now < 0 ∨ now.toNat < g.issuedAtUnix ∨ g.expiresAtUnix ≤ now.toNat)
    "attachment grant is outside its validity window"
  failIf (¬verifies c endpointKey message g.endpointSignatureHex) "invalid attachment grant signature"

/-- The delegation provisioned for an Agent. -/
def verifyConfiguredDelegation (a : Authority) (agentID : AgentID) (now : Time) : Except Failure Delegation := do
  let d ← a.delegation agentID now
  failIf (d.agentID ≠ agentID) "attachment delegation belongs to another Agent"
  pure d

/-- The key of the Endpoint a grant names, if it is live. -/
def resolveAttachmentEndpoint (a : Authority) (g : CapabilityGrant) (now : Time) : Except Failure Bytes := do
  failIf (g.network ≠ a.network) "attachment grant belongs to another network"
  let d ← verifyConfiguredDelegation a g.agentID now
  failIf (d.endpointID ≠ g.endpointID) "attachment grant names another finalized Endpoint"
  failIf (d.expiresAt < g.expiresAtUnix) "attachment grant outlives its Endpoint delegation"
  pure d.identityPublicKey

/-! ## Requests -/

/-- A capability's signature on one operation. -/
structure AccessRequest where
  grantDigest : BitVec 256
  operation : Operation
  bodyDigest : BitVec 256
  nonceHex : String
  issuedAtUnix : Nat
  expiresAtUnix : Nat
  capabilitySignatureHex : String
  deriving DecidableEq, Repr

def maxRequestLifetime : Nat := 2 * 60
def maxRequestFutureSkew : Nat := 30

def accessRequestSchema : String := "tos.messaging.attachment-access-request.v1"

/-- What a capability signs. -/
def AccessRequest.canonicalBytes (r : AccessRequest) : Except Failure Bytes := do
  failIf (r.grantDigest = 0 ∨ r.bodyDigest = 0 ∨ r.issuedAtUnix = 0 ∨ r.expiresAtUnix ≤ r.issuedAtUnix ∨
    maxRequestLifetime < r.expiresAtUnix - r.issuedAtUnix) "invalid attachment access request"
  let nonce ← required (decodeKey r.nonceHex) "invalid attachment access nonce"
  pure (preimage (accessRequestSchema ++ "\x00") [
    .text accessRequestSchema, .text (digestText r.grantDigest), .text r.operation.name,
    .text (digestText r.bodyDigest), .bytes nonce, .uint64 r.issuedAtUnix, .uint64 r.expiresAtUnix])

def verifyAccessRequest (r : AccessRequest) (expected : Operation) (bodyDigest : BitVec 256)
    (now : Time) : Except Failure Unit := do
  let grantDigest ← g.digest c
  let message ← r.canonicalBytes
  failIf (r.grantDigest ≠ grantDigest ∨ r.operation ≠ expected ∨ r.bodyDigest ≠ bodyDigest)
    "attachment request does not match its grant or operation body"
  failIf (expected ∉ g.operations) "attachment grant does not allow the operation"
  failIf (now < 0 ∨ now.toNat + maxRequestFutureSkew < r.issuedAtUnix ∨ r.expiresAtUnix ≤ now.toNat ∨
    r.issuedAtUnix < g.issuedAtUnix ∨ g.expiresAtUnix < r.expiresAtUnix)
    "attachment request is outside its validity window"
  let capability ← required (decodeFixedHex g.capabilityPublicKeyHex publicKeySize) "non-canonical hexadecimal value"
  failIf (¬verifies c capability message r.capabilitySignatureHex) "invalid attachment capability signature"

/-! ## Claims -/

def storeQuota : Failure := .other "attachment store quota exceeded"
def accessReplay : Failure := .other "attachment access request was replayed"
def clockRollback : Failure := .other "attachment access clock moved backwards"

/-- The file a claim is kept in. -/
def claimName (grantDigest : BitVec 256) (nonceHex : String) : BitVec 256 :=
  claimNameIn c "tos.messaging.attachment-access-claim.v1\x00" grantDigest nonceHex

/-- The checks of a claim that is read back. -/
def readAccessClaim (name : BitVec 256) (claim : AccessClaim) : Except Failure Unit :=
  readClaim "attachment" (decodeKey claim.nonceHex) name (claimName c claim.grantDigest claim.nonceHex) claim

/-- The claims and the highest time a claim was made at. -/
structure Replay where
  claims : Claims := ∅
  clock : Option Nat := none

/-- Whether the clock has to be written, or that it moved backwards. -/
def judgeClock (clock : Option Nat) (now : Nat) : Except Failure Bool :=
  match clock with
  | none => .ok true
  | some highest =>
    if highest = 0 then .error (.other "invalid attachment access clock")
    else if now < highest then .error clockRollback
    else .ok (now ≠ highest)

/-- Record the time of a claim. -/
def advanceAccessClock (s : Replay) (now : Nat) (w : Written) : Except Failure Unit × Replay :=
  match judgeClock s.clock now with
  | .error failure => (.error failure, s)
  | .ok false => (.ok (), s)
  | .ok true => (acknowledged "replace attachment record" w, { s with clock := w.put s.clock (some now) })

/-- The claims, each of which has to be readable. -/
def readClaims (claims : Claims) : Except Failure Unit :=
  claims.names.forM fun name =>
    match lookup name claims with
    | some claim => readAccessClaim c name claim
    | none => .ok ()

/-- Remove the claims that have expired, up to the removal at which the disk fails. -/
def dropExpired (now : Nat) (claims : Claims) (failsAt : Option Nat) : Except Failure Unit × Claims :=
  let expired := claims.names.filter fun name => (lookup name claims).any fun claim => claim.expiresAtUnix ≤ now
  let left := (expired.take (failsAt.getD expired.length)).foldl (fun claims name => AList.erase name claims) claims
  (if failsAt.any (· < expired.length) then .error (.other "remove expired attachment access claim")
    else if unsynced expired.length failsAt then .error (.other "sync directory") else .ok (), left)

/-- Claim a request's nonce, before the operation is performed. The clock and the claim are two
    writes. -/
def claimAccess (s : Replay) (r : AccessRequest) (now : Time) (clocked : Written)
    (failsAt : Option Nat) (m : Medium) : Except Failure Unit × Replay :=
  match r.canonicalBytes with
  | .error failure => (.error failure, s)
  | .ok _ =>
    if now < 0 then (.error (.other "invalid attachment access claim time"), s)
    else
      match advanceAccessClock s now.toNat clocked with
      | (.error failure, s) => (.error failure, s)
      | (.ok _, s) =>
        if ¬m.readable then (.error (.other "read attachment access claims"), s)
        else
          match readClaims c s.claims with
          | .error failure => (.error failure, s)
          | .ok _ =>
            if maxAccessClaims ≤ s.claims.live now.toNat then (.error storeQuota, s)
            else
              match dropExpired now.toNat s.claims failsAt with
              | (.error failure, claims) => (.error failure, { s with claims })
              | (.ok _, claims) =>
                let name := claimName c r.grantDigest r.nonceHex
                let claim := { grantDigest := r.grantDigest, nonceHex := r.nonceHex, expiresAtUnix := r.expiresAtUnix }
                if (lookup name claims).isSome then (.error accessReplay, { s with claims })
                else
                  (acknowledged "write attachment record" m.written,
                    { s with claims := m.written.put claims (AList.insert name claim claims) })

end Messenger.Attachments
