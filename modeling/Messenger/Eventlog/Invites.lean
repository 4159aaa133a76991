import Messenger.Eventlog.Negotiations
import Messenger.Envelope.Event

/-!
# `Eventlog.Invites` — one-time admission invites

A recipient hands out random bearers that let a stranger's first event in
(`pkg/eventlog/admission_invite.go`). What is stored of one is a digest, its scope, and the event
that spent it. `check` and `claim` make the same checks (`judge`); only `claim` writes.

A bearer's text is `invite_` and 32 bytes in base64, of which there is one spelling, so a token is
its 256 bits.
-/

namespace Messenger.Eventlog

open Lib Identity

def domainAdmissionInvite : String := "tos.messaging.admission-invite.v1\x00"

/-- In seconds. -/
def maxAdmissionInviteLifetime : Nat := 30 * 24 * 60 * 60

/-- What came with an event as its admission token. -/
inductive AdmissionToken where
  | absent
  /-- A text that is not a bearer. -/
  | malformed
  | bearer (entropy : BitVec 256)
  deriving DecidableEq, Repr

def decodeAdmissionInvite : AdmissionToken → Option (BitVec 256)
  | .bearer entropy => if entropy = 0 then none else some entropy
  | .absent | .malformed => none

/-- The event that spent an invite. -/
structure InviteClaim where
  eventID : EventID
  senderAgentID : AgentID
  claimedAt : Nat
  deriving DecidableEq, Repr

/-- The recipient's state of one bearer. The source's three claim fields are written together. -/
structure AdmissionInviteRecord where
  inviteDigest : BitVec 256
  recipientEndpointID : EndpointID
  /-- The only Agent that may spend it, when it names one. -/
  invitedAgentID : Option AgentID
  expiresAt : Nat
  createdAt : Nat
  claimed : Option InviteClaim
  deriving DecidableEq, Repr

/-- What a record must satisfy to be read back. -/
def AdmissionInviteRecord.wellFormed (digest : BitVec 256) (r : AdmissionInviteRecord) : Bool :=
  r.inviteDigest = digest && r.createdAt ≠ 0 && r.createdAt < r.expiresAt &&
    r.expiresAt - r.createdAt ≤ maxAdmissionInviteLifetime &&
    r.claimed.all fun claim => r.createdAt ≤ claim.claimedAt && claim.claimedAt < r.expiresAt

abbrev Invites := Dir (BitVec 256) AdmissionInviteRecord

def admissionInviteDigest (c : Crypto) (entropy : BitVec 256) : BitVec 256 :=
  c.sum256 (Canon.preimage domainAdmissionInvite [.bytes (Canon.bigEndian 32 entropy.toNat)])

/-- Who wants to spend what. -/
structure InviteUse where
  token : AdmissionToken
  recipientEndpointID : EndpointID
  senderAgentID : AgentID
  eventID : EventID
  now : Time
  deriving DecidableEq, Repr

namespace Invites

def read (disk : Medium) (invites : Invites) (digest : BitVec 256) : Except Failure (Option AdmissionInviteRecord) := do
  failIf (¬disk.readable) "read admission invite"
  match lookup digest invites with
  | none => pure none
  | some record =>
    failIf (¬record.wellFormed digest) "invalid admission invite record"
    pure (some record)

variable (c : Crypto) (disk : Medium)

/-- May the event spend the invite, or has it already? `invalid` is the caller's text for a
    malformed request. -/
def judge (invalid : String) (use : InviteUse) (invites : Invites) : Except Failure AdmissionInviteRecord :=
  match decodeAdmissionInvite use.token with
  | none => .error (.other invalid)
  | some entropy => do
    failIf (use.now < 0) invalid
    match ← invites.read disk (admissionInviteDigest c entropy) with
    | none => .error (.other "admission invite is unknown or out of scope")
    | some record =>
      failIf (record.recipientEndpointID ≠ use.recipientEndpointID ∨
        record.invitedAgentID.any (· ≠ use.senderAgentID)) "admission invite is unknown or out of scope"
      match record.claimed with
      | some claim =>
        failIf (claim.eventID ≠ use.eventID ∨ claim.senderAgentID ≠ use.senderAgentID)
          "admission invite is already bound to another event"
        pure record
      | none =>
        failIf (record.expiresAt ≤ use.now.toNat) "admission invite expired"
        pure record

/-- `CheckAdmissionInvite`: nothing is consumed. -/
def check (c : Crypto) (disk : Medium) (use : InviteUse) (invites : Invites) : Except Failure Unit :=
  (invites.judge c disk "invalid admission invite check" use).map fun _ => ()

/-- The record once the event has spent it. -/
def spent (record : AdmissionInviteRecord) (use : InviteUse) : AdmissionInviteRecord :=
  { record with claimed := some ⟨use.eventID, use.senderAgentID, use.now.toNat⟩ }

/-- `ClaimAdmissionInvite`: bind the bearer to its first event. The flag says whether this call
    bound it. -/
def claim (c : Crypto) (disk : Medium) (use : InviteUse) (invites : Invites) : Except Failure Bool × Invites :=
  match invites.judge c disk "invalid admission invite claim" use with
  | .error e => (.error e, invites)
  | .ok record =>
    if record.claimed.isSome then (.ok false, invites)
    else
      ((disk.written.result "commit event transition").map fun _ => true,
        disk.written.put invites (invites.insert record.inviteDigest (spent record use)))

end Invites

end Messenger.Eventlog
