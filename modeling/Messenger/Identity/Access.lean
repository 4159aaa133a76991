import Messenger.Eventlog.Negotiations
import Messenger.Identity.Delegation

/-!
# `Identity.Access` — what the two storage services check alike

The Mailbox Relay and the attachment store authorize a request in the same way: a live Endpoint
signs a grant for a capability key, the capability key signs the request, and the request's nonce is
claimed on disk. This file has what their grants, requests and claims share (`pkg/mailbox/auth.go`,
`pkg/attachments/remote_auth.go`, and `finalized.go` of both packages).
-/

namespace Messenger.Identity

open Lib
open Canon (digestText hexDecode hexEncode preimage)
open Eventlog (Written)

/-- A value that has to be there. -/
def required {α : Type} (value : Option α) (refusal : String) : Except Failure α :=
  match value with
  | some a => .ok a
  | none => .error (.other refusal)

theorem required_ok {α : Type} {value : Option α} {refusal : String} {a : α} :
    required value refusal = .ok a ↔ value = some a := by
  cases value with
  | none => exact ⟨fun h => (by cases h), fun h => (by cases h)⟩
  | some b => exact ⟨fun h => congrArg some (Except.ok.inj h), fun h => congrArg Except.ok (Option.some.inj h)⟩

/-- The bytes of a hexadecimal text of one size, in lowercase. -/
def decodeFixedHex (value : String) (size : Nat) : Option Bytes :=
  if value.utf8ByteSize = 2 * size then
    match hexDecode value with
    | some raw => if hexEncode raw = value then some raw else none
    | none => none
  else none

/-- What it accepts is the text of the bytes. -/
theorem decodeFixedHex_some {value : String} {size : Nat} {raw : Bytes} (h : decodeFixedHex value size = some raw) :
    hexDecode value = some raw ∧ hexEncode raw = value := by
  unfold decodeFixedHex at h
  split_ifs at h with hsi
  split at h
  next raw' hraw =>
    split_ifs at h with henc
    cases h
    exact ⟨hraw, henc⟩
  next => cases h

/-- A key: 32 bytes that are not all zero. -/
def decodeKey (value : String) : Option Bytes :=
  (decodeFixedHex value publicKeySize).filter fun raw => raw.any (· ≠ 0)

/-- A hexadecimal signature that verifies. -/
def verifies (c : Crypto) (key message : Bytes) (signatureHex : String) : Bool :=
  match hexDecode signatureHex with
  | some signature => signature.length == signatureSize && c.verify key message signature
  | none => false

def badKey (key : Bytes) : Prop := key.length ≠ publicKeySize ∨ key.all (· = 0)

instance (key : Bytes) : Decidable (badKey key) := inferInstanceAs (Decidable (_ ∨ _))

/-- The key that is asked for is there and has signed the message. -/
def Signed (c : Crypto) (endpointKey canonicalBytes : Except Failure Bytes) (signatureHex : String) : Prop :=
  ∃ key message, endpointKey = .ok key ∧ canonicalBytes = .ok message ∧ verifies c key message signatureHex

/-- The finalized state a service consults on every operation. -/
structure Authority where
  network : Network
  /-- The delegation provisioned for an Agent, verified against finalized state at a time. -/
  delegation : AgentID → Time → Except Failure Delegation

/-! ## Claims -/

/-- A nonce that was used. -/
structure AccessClaim where
  grantDigest : BitVec 256
  nonceHex : String
  expiresAtUnix : Nat
  deriving DecidableEq, Repr

/-- The claims on disk, one file each. -/
abbrev Claims := Dir (BitVec 256) AccessClaim

def maxAccessClaims : Nat := 100000

/-- The file a claim is kept in, in the domain of its service. -/
def claimNameIn (c : Crypto) (domain : String) (grantDigest : BitVec 256) (nonceHex : String) : BitVec 256 :=
  c.sum256 (preimage domain [.text (digestText grantDigest), .text nonceHex])

/-- The checks of a claim that is read back: `nonce` is what its nonce decodes to, `expected` the
    name it should have. -/
def readClaim (service : String) (nonce : Option Bytes) (name expected : BitVec 256)
    (claim : AccessClaim) : Except Failure Unit := do
  failIf (claim.grantDigest = 0 ∨ claim.expiresAtUnix = 0) ("invalid " ++ service ++ " access claim")
  failIf (nonce = none) ("invalid " ++ service ++ " access claim nonce")
  failIf (name ≠ expected) (service ++ " access claim is under the wrong name")

/-- What the caller of a write is told. -/
def acknowledged (refusal : String) : Written → Except Failure Unit
  | .done => .ok ()
  | .refused => .error (.other refusal)
  | .unacknowledged => .error (.other "sync directory")

/-- After removals the directory is synced. A disk that fails after as many removals as were made
    fails there. -/
def unsynced (removed : Nat) (failsAt : Option Nat) : Prop := 0 < removed ∧ failsAt = some removed

instance (removed : Nat) (failsAt : Option Nat) : Decidable (unsynced removed failsAt) :=
  inferInstanceAs (Decidable (_ ∧ _))

/-- The claims that have not expired. -/
def Claims.live (claims : Claims) (now : Nat) : Nat :=
  (claims.names.filter fun name => (lookup name claims).any fun claim => now < claim.expiresAtUnix).length

end Messenger.Identity
