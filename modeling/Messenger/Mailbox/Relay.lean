import Messenger.Mailbox.Access

/-!
# `Mailbox.Relay` — the store of opaque messages and the requests it serves

The durable store of a Mailbox Relay and the authenticated operations over it
(`pkg/mailbox/store.go`, `auth.go`; the checks of an envelope are those of
`pkg/envelope/envelope.go`).

- **State.** All of it is on disk: the stored records and the access claims. A restart changes
  nothing.
- **Files.** A record is filed under its mailbox and its message identifier. Nothing in it names the
  Endpoint whose grant stored it.
- **Disk.** `Medium` says what the disk does during a call; a claim and a record are two writes.
-/

namespace Messenger.Mailbox

open Lib Identity
open Canon (Field preimage digestText)
open Eventlog (Medium)

/-! ## Envelopes -/

structure RelayEnvelope where
  opaqueMailboxID : MailboxID
  messageID : RelayMessageID
  ciphertext : Bytes
  expiresAtUnix : Nat
  storageToken : String
  admissionToken : String
  deriving DecidableEq, Repr

def minCiphertextBytes : Nat := 32
def maxCiphertextBytes : Nat := 2 ^ 20
def maxEnvelopeLifetimeSeconds : Nat := 30 * 24 * 60 * 60

/-- An absent token, or at most 256 characters of `[0-9a-zA-Z._~-]`. -/
def validToken (token : String) : Bool :=
  token.utf8ByteSize ≤ 256 && token.toList.all fun c => c.isAlphanum || c ∈ ['.', '_', '~', '-']

def validateRelay (value : RelayEnvelope) : Except Failure Unit := do
  failIf (value.ciphertext.length < minCiphertextBytes ∨ maxCiphertextBytes < value.ciphertext.length)
    "relay envelope ciphertext is outside its bounds"
  failIf (value.ciphertext.all (· = 0)) "relay envelope ciphertext is empty"
  failIf (value.expiresAtUnix = 0) "relay envelope has no expiry"
  failIf (¬validToken value.storageToken) "invalid relay envelope storage token"
  failIf (¬validToken value.admissionToken) "invalid relay envelope admission token"

/-- The check before resources are committed; `maxRetention` is in seconds. -/
def acceptedForStorage (value : RelayEnvelope) (now : Time) (maxRetention : Nat) : Except Failure Unit := do
  validateRelay value
  failIf (now < 0) "invalid relay storage time"
  failIf (value.expiresAtUnix ≤ now.toNat) "relay envelope is already expired"
  failIf (maxEnvelopeLifetimeSeconds < value.expiresAtUnix - now.toNat)
    "relay envelope exceeds the protocol retention bound"
  failIf (maxRetention = 0) "invalid relay retention bound"
  failIf (maxRetention < value.expiresAtUnix - now.toNat) "relay envelope exceeds the operator retention bound"

/-! ## The store -/

/-- What one Relay installation may retain. -/
structure Quota where
  maxMessages : Nat
  maxMessagesPerBox : Nat
  maxBytes : Nat
  maxBytesPerBox : Nat
  maxRetention : Nat
  deriving DecidableEq, Repr

/-- A stored envelope. -/
structure Record where
  value : RelayEnvelope
  storedAtUnix : Nat
  deriving DecidableEq, Repr

def recordSchema : String := "tos.messaging.mailbox-record.v1"
def maxRecordBytes : Nat := maxCiphertextBytes + 2048

/-- The bytes of a member of a JSON object: its quoted name, the colon, its value, and the comma or
    brace behind it. -/
def memberSize (name : String) (value : Nat) : Nat := name.utf8ByteSize + 4 + value

/-- The bytes of a text member. No text of a record has a character that JSON escapes. -/
def textSize (name : String) (value : Nat) : Nat := memberSize name (value + 2)

/-- The bytes of a text member that is left out when it is empty. -/
def optionalSize (name token : String) : Nat := if token = "" then 0 else textSize name token.utf8ByteSize

/-- The bytes of a record's encoding; the ciphertext is in base64. -/
def Record.encodedSize (r : Record) : Nat :=
  1 + textSize "schema" recordSchema.utf8ByteSize + textSize "opaque_mailbox_id" 68 + textSize "message_id" 68 +
    textSize "ciphertext_base64" (4 * ((r.value.ciphertext.length + 2) / 3)) + textSize "ciphertext_digest" 71 +
    optionalSize "storage_token" r.value.storageToken + optionalSize "admission_token" r.value.admissionToken +
    memberSize "stored_at_unix" (Nat.toDigits 10 r.storedAtUnix).length +
    memberSize "expires_at_unix" (Nat.toDigits 10 r.value.expiresAtUnix).length

/-- The records by mailbox and message. -/
abbrev Boxes := Dir (MailboxID × RelayMessageID) Record

/-- The order of the files: by mailbox directory, then by name. -/
def filedBefore (a b : MailboxID × RelayMessageID) : Bool :=
  a.1.digest < b.1.digest || (a.1.digest == b.1.digest && a.2.digest ≤ b.2.digest)

def conflict : Failure := .other "Relay message identity conflicts with stored ciphertext"
def quotaExceeded : Failure := .other "Mailbox Relay quota exceeded"
def accessReplay : Failure := .other "Mailbox access request was replayed"

variable (c : Crypto)

/-- The checks of a record that is read back. -/
def readRecord (r : Record) : Except Failure Record := do
  failIf (maxRecordBytes < r.encodedSize) "Mailbox Relay record exceeds bound"
  failIf (r.storedAtUnix = 0 ∨ r.value.expiresAtUnix ≤ r.storedAtUnix ∨ c.sum256 r.value.ciphertext = 0)
    "invalid Mailbox Relay record"
  validateRelay r.value
  pure r

namespace Boxes

/-- Read one file. -/
def readFile (c : Crypto) (boxes : Boxes) (name : MailboxID × RelayMessageID) : Except Failure Record :=
  match lookup name boxes with
  | some r => readRecord c r
  | none => .error .notExist

def checkQuota (c : Crypto) (quota : Quota) (boxes : Boxes) (mailboxID : MailboxID)
    (additional : Nat) : Except Failure Unit := do
  let all ← (boxes.namesBy filedBefore).mapM fun name => do
    let r ← boxes.readFile c name
    pure (name.1, r.value.ciphertext.length)
  let sizes := all.map Prod.snd
  let box := (all.filter fun entry => entry.1 = mailboxID).map Prod.snd
  if quota.maxMessages < sizes.length + 1 ∨ quota.maxMessagesPerBox < box.length + 1 ∨
      quota.maxBytes < sizes.sum + additional ∨ quota.maxBytesPerBox < box.sum + additional
  then .error quotaExceeded else pure ()

/-- What a deposit finds: the record to write, or the equal one that is there. -/
def judgePut (c : Crypto) (quota : Quota) (boxes : Boxes) (value : RelayEnvelope) (now : Time) :
    Except Failure (Bool × Record) := do
  acceptedForStorage value now quota.maxRetention
  let stored : Record := { value, storedAtUnix := now.toNat }
  failIf (maxRecordBytes < stored.encodedSize) "encode Mailbox Relay record"
  match lookup (value.opaqueMailboxID, value.messageID) boxes with
  | none =>
    boxes.checkQuota c quota value.opaqueMailboxID value.ciphertext.length
    pure (true, stored)
  | some existing =>
    let existing ← readRecord c existing
    if existing.value.opaqueMailboxID ≠ value.opaqueMailboxID ∨ existing.value.messageID ≠ value.messageID ∨
        c.sum256 existing.value.ciphertext ≠ c.sum256 value.ciphertext ∨
        existing.value.expiresAtUnix ≠ value.expiresAtUnix ∨ existing.value.storageToken ≠ value.storageToken ∨
        existing.value.admissionToken ≠ value.admissionToken
    then .error conflict else pure (false, existing)

/-- The order in which records are handed out. -/
def receivedBefore (a b : Record) : Bool :=
  a.storedAtUnix < b.storedAtUnix ||
    (a.storedAtUnix == b.storedAtUnix && a.value.messageID.digest ≤ b.value.messageID.digest)

def maxListResults : Nat := 256

/-- The live envelopes of a mailbox in the order they were received. -/
def list (c : Crypto) (boxes : Boxes) (mailboxID : MailboxID) (now : Time) (limit : Int) :
    Except Failure (List RelayEnvelope) := do
  failIf (limit < 1 ∨ maxListResults < limit ∨ now < 0) "invalid Mailbox Relay list request"
  let records ← ((boxes.namesBy filedBefore).filter fun name => name.1 = mailboxID).mapM fun name => do
    let r ← boxes.readFile c name
    failIf (r.value.opaqueMailboxID ≠ mailboxID ∨ r.value.messageID ≠ name.2)
      "Mailbox Relay record is in the wrong mailbox"
    pure r
  let live := records.filter fun r => now.toNat < r.value.expiresAtUnix
  pure (((live.insertionSort fun a b => receivedBefore a b).take limit.toNat).map Record.value)

/-- Whether there is a record to delete: it has to have exactly this ciphertext. -/
def judgeDelete (c : Crypto) (boxes : Boxes) (mailboxID : MailboxID) (messageID : RelayMessageID)
    (ciphertextDigest : BitVec 256) : Except Failure Bool := do
  failIf (ciphertextDigest = 0) "invalid Mailbox Relay deletion"
  match lookup (mailboxID, messageID) boxes with
  | none => pure false
  | some r =>
    let r ← readRecord c r
    if r.value.opaqueMailboxID ≠ mailboxID ∨ r.value.messageID ≠ messageID ∨
        c.sum256 r.value.ciphertext ≠ ciphertextDigest
    then .error conflict else pure true

/-- Remove what has expired, file by file. A record that is not readable ends the sweep, and so does
    the disk when it fails after `failsAt` removals. -/
def sweepFiles (c : Crypto) (now : Nat) (failsAt : Option Nat) :
    List (MailboxID × RelayMessageID) → Boxes → Nat → Except Failure Nat × Boxes
  | [], boxes, removed => (.ok removed, boxes)
  | name :: names, boxes, removed =>
    match lookup name boxes with
    | none => sweepFiles c now failsAt names boxes removed
    | some r =>
      match readRecord c r with
      | .error failure => (.error failure, boxes)
      | .ok _ =>
        if now < r.value.expiresAtUnix then sweepFiles c now failsAt names boxes removed
        else if failsAt = some removed then (.error (.other "remove Mailbox Relay record"), boxes)
        else sweepFiles c now failsAt names (AList.erase name boxes) (removed + 1)

/-- A sweep of all mailboxes. A directory that cannot be synced ends it after the removals so far,
    as a removal that fails does; only behind the last removal is there a case of its own. -/
def sweep (c : Crypto) (boxes : Boxes) (now : Time) (failsAt : Option Nat) : Except Failure Nat × Boxes :=
  if now < 0 then (.error (.other "invalid sweep time"), boxes)
  else
    match sweepFiles c now.toNat failsAt (boxes.namesBy filedBefore) boxes 0 with
    | (.error failure, boxes) => (.error failure, boxes)
    | (.ok removed, boxes) =>
      (if unsynced removed failsAt then .error (.other "sync directory") else .ok removed, boxes)

end Boxes

/-! ## Claiming a request -/

/-- Read all claims and remove those that have expired. -/
def expireClaims (claims : Claims) (now : Time) (failsAt : Option Nat) : Except Failure Nat × Claims :=
  match walkClaims c now.toNat claims.names claims 0 failsAt with
  | (.error failure, left) => (.error failure, left)
  | (.ok live, left) =>
    (if unsynced (claims.names.length - left.names.length) failsAt then .error (.other "sync directory") else .ok live,
      left)

/-- The claim of a request. -/
def AccessRequest.claim (r : AccessRequest) : AccessClaim where
  grantDigest := r.grantDigest
  nonceHex := r.nonceHex
  expiresAtUnix := r.expiresAtUnix

/-- The file of its claim. -/
def AccessRequest.claimFile (r : AccessRequest) : BitVec 256 := claimName c r.grantDigest r.nonceHex

/-- Claim a request's nonce, before the operation is performed. -/
def claimAccess (claims : Claims) (r : AccessRequest) (now : Time) (failsAt : Option Nat)
    (m : Medium) : Except Failure Unit × Claims :=
  match r.canonicalBytes with
  | .error failure => (.error failure, claims)
  | .ok _ =>
    if now < 0 then (.error (.other "invalid Mailbox access claim time"), claims)
    else if ¬m.readable then (.error (.other "read Mailbox access claims"), claims)
    else
      match expireClaims c claims now failsAt with
      | (.error failure, claims) => (.error failure, claims)
      | (.ok live, claims) =>
        if maxAccessClaims ≤ live then (.error quotaExceeded, claims)
        else if (lookup (r.claimFile c) claims).isSome then (.error accessReplay, claims)
        else
          (acknowledged "write Mailbox Relay record" m.written,
            m.written.put claims (AList.insert (r.claimFile c) r.claim claims))

/-! ## The service -/

/-- What an operation is about. -/
inductive Body where
  | deposit (value : RelayEnvelope)
  | read (limit : Int)
  | delete (messageID : RelayMessageID) (ciphertextDigest : BitVec 256)
  deriving DecidableEq, Repr

def Body.operation : Body → Operation
  | .deposit _ => .deposit
  | .read _ => .read
  | .delete _ _ => .delete

/-- The start of every body's digest. -/
def operationBody (operation : Operation) (fields : List Field) : BitVec 256 :=
  c.sum256 (preimage "tos.messaging.mailbox-operation-body.v1\x00" (.text operation.name :: fields))

/-- The digest of a body. A deposit names the mailbox of its envelope; a read and a delete that of
    the grant. -/
def Body.digest (mailboxID : MailboxID) : Body → Except Failure (BitVec 256)
  | .deposit value => do
    validateRelay value
    pure (operationBody c .deposit [.text value.opaqueMailboxID.text, .text value.messageID.text,
      .text (digestText (c.sum256 value.ciphertext)), .text (digestText (c.sum256 (Field.utf8 value.storageToken))),
      .text (digestText (c.sum256 (Field.utf8 value.admissionToken))), .uint64 value.expiresAtUnix])
  | .read limit => do
    failIf (limit < 1 ∨ Boxes.maxListResults < limit) "invalid Mailbox read body"
    pure (operationBody c .read [.text mailboxID.text, .uint32 limit.toNat])
  | .delete messageID ciphertextDigest => do
    failIf (ciphertextDigest = 0) "invalid Mailbox delete body"
    pure (operationBody c .delete [.text mailboxID.text, .text messageID.text, .text (digestText ciphertextDigest)])

/-- A Relay's configuration and what it rests on. -/
structure Config where
  crypto : Crypto
  authority : Authority
  quota : Quota
  relayKey : Bytes

/-- What a Relay has on disk. -/
structure Relay where
  boxes : Boxes := ∅
  claims : Claims := ∅

structure Request where
  grant : CapabilityGrant
  access : AccessRequest
  body : Body
  deriving DecidableEq, Repr

inductive Call where
  | request (r : Request)
  | sweep
  | restart
  deriving DecidableEq, Repr

/-- A call, its time, and the disk while it claims the request and while it performs the operation;
    `failsAt` is the number of removals of expired files after which it fails, if it does. -/
structure Arrival where
  call : Call
  now : Time
  failsAt : Option Nat := none
  claiming : Medium := {}
  performing : Medium := {}
  deriving DecidableEq, Repr

inductive Answer where
  | stored (fresh : Bool) (record : Record)
  | listed (values : List RelayEnvelope)
  | deleted (present : Bool)
  | swept (removed : Nat)
  | opened
  deriving DecidableEq, Repr

/-- The checks of a request before its nonce is claimed. -/
def Config.authentic (cfg : Config) (r : Request) (now : Time) : Except Failure Unit := do
  let digest ← r.body.digest cfg.crypto r.grant.mailboxID
  let endpointKey ← resolveMailboxEndpoint cfg.authority r.grant now
  verifyGrant cfg.crypto r.grant endpointKey cfg.relayKey now
  verifyAccessRequest cfg.crypto r.grant r.access r.body.operation digest now

namespace Relay

variable (cfg : Config) (s : Relay) (a : Arrival)

/-- Verify a request and claim it. -/
def authorize (r : Request) (now : Time) (failsAt : Option Nat) (m : Medium) : Except Failure Unit × Relay :=
  match cfg.authentic r now with
  | .error failure => (.error failure, s)
  | .ok _ =>
    let (result, claims) := claimAccess cfg.crypto s.claims r.access now failsAt m
    (result, { s with claims })

/-- The Relay's receipt for a record; its signature is left out. -/
def signAck (record : Record) : Except Failure Record := do
  failIf (cfg.crypto.sum256 record.value.ciphertext = 0 ∨ record.storedAtUnix = 0 ∨
    record.value.expiresAtUnix ≤ record.storedAtUnix ∨
    maxEnvelopeLifetimeSeconds < record.value.expiresAtUnix - record.storedAtUnix) "invalid StoredAck"
  failIf (badKey cfg.relayKey) "invalid StoredAck Relay key"
  pure record

/-- Perform an operation that was authorized. A deposit is acknowledged once it is on disk. -/
def perform (mailboxID : MailboxID) (now : Time) (m : Medium) : Body → Except Failure Answer × Relay
  | .deposit value =>
    match s.boxes.judgePut cfg.crypto cfg.quota value now with
    | .error failure => (.error failure, s)
    | .ok (false, existing) => ((signAck cfg existing).map (.stored false), s)
    | .ok (true, record) =>
      let written := AList.insert (value.opaqueMailboxID, value.messageID) record s.boxes
      ((acknowledged "write Mailbox Relay record" m.written).bind fun _ => (signAck cfg record).map (.stored true),
        { s with boxes := m.written.put s.boxes written })
  | .read limit => ((s.boxes.list cfg.crypto mailboxID now limit).map .listed, s)
  | .delete messageID ciphertextDigest =>
    match s.boxes.judgeDelete cfg.crypto mailboxID messageID ciphertextDigest with
    | .error failure => (.error failure, s)
    | .ok false => (.ok (.deleted false), s)
    | .ok true =>
      ((acknowledged "remove Mailbox Relay record" m.written).map fun _ => .deleted true,
        { s with boxes := m.written.put s.boxes (AList.erase (mailboxID, messageID) s.boxes) })

/-- One call. -/
def serve : Except Failure Answer × Relay :=
  match a.call with
  | .request r =>
    match s.authorize cfg r a.now a.failsAt a.claiming with
    | (.error failure, s) => (.error failure, s)
    | (.ok _, s) => s.perform cfg r.grant.mailboxID a.now a.performing r.body
  | .sweep =>
    let (result, boxes) := s.boxes.sweep cfg.crypto a.now a.failsAt
    (result.map .swept, { s with boxes })
  | .restart => (.ok .opened, s)

/-- The Relay after a call. -/
def step : Relay := (s.serve cfg a).2

/-- A request is accepted when it is authorized. -/
def accepts : Bool :=
  match a.call with
  | .request r => (s.authorize cfg r a.now a.failsAt a.claiming).1.isOk
  | _ => false

end Relay

end Messenger.Mailbox
