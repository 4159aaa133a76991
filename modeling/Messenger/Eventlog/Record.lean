import Messenger.Base
import Messenger.Lib.Dir
import Messenger.Lib.Durable

/-!
# `Eventlog.Record` — the records of the event journal and the medium they live on

The journal is a set of directories, one file a record. This file has the records of `inbound`,
`sessions`, `outbound` and `room-moderation`, the checks a record must pass to be read back, and the
medium: one atomic replacement of one file is one write (`replace` commits through a temporary file
and a rename, and a fresh record is created exclusively and synced).

Two representations are idealised. A record stores a payload, a state or a ciphertext next to its
SHA-256 digest; here the bytes are stored and a digest comparison compares the bytes. A record's
file is valid JSON of its own type because only the journal writes it, so a read fails only on the
checks made after decoding.

## Contents
- `Env`: what the journal takes from elsewhere (digests, the event codec, the role policy).
- `Record`, `SessionRecord`, `Delivery`, `ModerationDecision`, each with its `wellFormed` check.
- `Journal`, `JournalWrite` and the `Medium` instance; `readRecord`, `readSession`, `readDelivery`,
  `readModeration`.
-/

namespace Messenger.Eventlog

open Lib

/-! ## Inbound events -/

/-- Whether an event may be offered to a runtime at all. -/
inductive AdmissionState where
  | admitted
  | pending
  | denied
  deriving DecidableEq, Repr

/-- Whether the session transition that decrypted an event has been committed. -/
inductive CryptoState where
  | unbound
  | staged
  | committed
  | abandoned
  deriving DecidableEq, Repr

/-- How far an event has got towards an Agent runtime. -/
inductive ApplicationState where
  | queued
  | claimed
  | applied
  | rejected
  deriving DecidableEq, Repr

/-- A suite name that matches the algorithm pattern. -/
structure AlgorithmID where
  name : String
  deriving DecidableEq, Repr

/-- The immutable device-pair identity of a session. -/
structure SessionAuthority where
  localAgentID : AgentID
  localEndpointID : EndpointID
  localDeviceID : DeviceID
  peerAgentID : AgentID
  peerEndpointID : EndpointID
  peerDeviceID : DeviceID
  deriving DecidableEq, Repr

/-- The session advance one inbound event depends on. -/
structure Transition where
  sessionID : SessionID
  algorithm : AlgorithmID
  expectedGeneration : Nat
  nextState : Bytes
  authority : Option SessionAuthority
  deriving DecidableEq, Repr

/-- An inbound event to record. -/
structure Entry where
  eventID : EventID
  senderEndpointID : EndpointID
  conversationID : ConversationID
  payload : Bytes
  admission : AdmissionState
  receivedAt : Nat
  expiresAt : Nat
  transition : Option Transition
  deriving DecidableEq, Repr

/-- The durable state of one inbound event. The source's six flat transition fields are written
    together and never apart, so they are one optional `Transition` here. -/
structure Record where
  eventID : EventID
  senderEndpointID : EndpointID
  conversationID : ConversationID
  admission : AdmissionState
  admissionAt : Nat := 0
  admissionCode : Option Fault.Code := none
  payload : Bytes
  receivedAt : Nat
  eventExpiresAt : Nat
  crypto : CryptoState
  cryptoAt : Nat := 0
  transition : Option Transition := none
  application : ApplicationState
  leaseID : Option LeaseID := none
  leaseExpiresAt : Nat := 0
  appliedAt : Nat := 0
  rejectedAt : Nat := 0
  rejectionCode : Option Fault.Code := none
  readAt : Nat := 0
  deriving DecidableEq, Repr

/-- Whether an event may be offered to a runtime: its session transition is committed, or it has
    none. -/
def Record.deliverable (r : Record) : Bool := r.crypto = .committed || r.crypto = .unbound

/-- Whether the runtime is finished with this event. -/
def Record.terminal (r : Record) : Bool := r.application = .applied || r.application = .rejected

/-! ## Sessions -/

/-- The parties and suite of a first contact. -/
structure Binding where
  algorithmID : AlgorithmID
  senderAgentID : AgentID
  senderEndpointID : EndpointID
  senderDeviceID : DeviceID
  recipientAgentID : AgentID
  recipientEndpointID : EndpointID
  recipientDeviceID : DeviceID
  deriving DecidableEq, Repr

/-- Public first-contact evidence: its binding, and the rest as bytes. -/
structure FirstContact where
  binding : Binding
  evidence : Bytes
  deriving DecidableEq, Repr

/-- One session's persisted cryptographic state. -/
structure SessionRecord where
  generation : Nat
  sessionID : SessionID
  algorithmID : AlgorithmID
  state : Bytes
  updatedAt : Nat
  /-- The inbound event whose transition produced this state, when one did. -/
  lastInboundEventID : Option EventID
  bootstrap : Option FirstContact
  authority : Option SessionAuthority
  deriving DecidableEq, Repr

/-! ## Outbound events -/

/-- Where one outbound event stands. -/
inductive DeliveryState where
  | pending
  | held
  | delivered
  | abandoned
  deriving DecidableEq, Repr

/-- A delivery is named by its event (`evt_`) or by its own copy identifier (`cpy_`); the file name
    is the digest alone, whichever tag it had. -/
inductive DeliveryID where
  | event (id : EventID)
  | copy (digest : BitVec 256)
  deriving DecidableEq, Repr

/-- The file an outbound record is stored under. -/
structure DeliveryPath where
  digest : BitVec 256
  deriving DecidableEq, Repr

instance : LE DeliveryPath := ⟨fun a b => a.digest ≤ b.digest⟩

instance : DecidableLE DeliveryPath := fun a b => inferInstanceAs (Decidable (a.digest ≤ b.digest))

/-- The file name drops the tag. -/
def DeliveryID.path : DeliveryID → DeliveryPath
  | .event id => ⟨id.digest⟩
  | .copy digest => ⟨digest⟩

/-- The durable state of one outbound event. An unsealed delivery has an empty ciphertext. -/
structure Delivery where
  /-- The copy identifier; `none` on the one-event, one-target path. -/
  copyID : Option (BitVec 256)
  eventID : EventID
  sessionID : SessionID
  payload : Bytes
  ciphertext : Bytes := []
  attemptID : Option AttemptID := none
  attemptExpiresAt : Nat := 0
  recipientEndpointID : EndpointID
  recipientDeviceID : Option DeviceID
  conversationID : ConversationID
  state : DeliveryState
  attempts : Nat := 0
  lastCode : Option Fault.Code := none
  nextAttemptAt : Nat
  createdAt : Nat
  expiresAt : Nat
  settledAt : Nat := 0
  deriving DecidableEq, Repr

/-- The journal identifier for this device copy. -/
def Delivery.key (d : Delivery) : DeliveryID :=
  match d.copyID with
  | some digest => .copy digest
  | none => .event d.eventID

/-! ## Moderation -/

/-- What a moderation decision does to the presentation of its target. -/
inductive ModerationAction where
  | hide
  | restore
  deriving DecidableEq, Repr

/-- The body of a `room.moderation` event. -/
structure RoomModeration where
  roomID : RoomID
  membershipEpoch : Nat
  rolePolicyRevision : Nat
  targetEventID : EventID
  decisionRevision : Nat
  action : ModerationAction
  reason : String
  deriving DecidableEq, Repr

/-- An auditable presentation overlay over an immutable event. -/
structure ModerationDecision extends RoomModeration where
  decisionEventID : EventID
  actorAgentID : AgentID
  decidedAt : Nat
  deriving DecidableEq, Repr

/-- The bound of a short text field, in bytes. -/
def maxShortTextBytes : Nat := 512

/-- A required text field: present, bounded and free of the two forbidden control characters. -/
def validText (maximum : Nat) (value : String) : Bool :=
  value ≠ "" && value.utf8ByteSize ≤ maximum && value.toList.all fun c => c ≠ '\x00' && c ≠ '\r'

/-- The body check of `payload.RoomModeration.Validate`. -/
def RoomModeration.valid (m : RoomModeration) : Bool :=
  m.membershipEpoch ≠ 0 && m.rolePolicyRevision ≠ 0 && m.decisionRevision ≠ 0 &&
    validText maxShortTextBytes m.reason

/-! ## The environment -/

/-- Bounds on what may wait for an owner decision; `maxPendingAge` is in seconds. -/
structure Quota where
  maxPendingAdmissions : Nat
  maxPendingPerSender : Nat
  maxPendingBytes : Nat
  maxPendingAge : Nat
  /-- The bounds bound something, and the per-sender bound is not above the total. -/
  valid : 0 < maxPendingPerSender ∧ maxPendingPerSender ≤ maxPendingAdmissions ∧ 0 < maxPendingBytes

def defaultQuota : Quota where
  maxPendingAdmissions := 256
  maxPendingPerSender := 16
  maxPendingBytes := 32 * 2 ^ 20
  maxPendingAge := 7 * 24 * 60 * 60
  valid := by decide

/-- What the moderation ledger reads of a decoded target event. -/
structure EventHeader where
  eventID : EventID
  roomID : Option RoomID
  kind : String
  deriving DecidableEq, Repr

/-- What the journal and its dispatcher take from elsewhere: their configuration, a digest and the
    event codec. -/
structure Env where
  quota : Quota
  /-- How long one send attempt may hold a delivery, in seconds. -/
  attemptLease : Nat
  /-- The suite the dispatcher seals with. -/
  suite : AlgorithmID
  /-- The digest over an ordered pair of device identifiers. -/
  deviceSessionDigest : DeviceID → DeviceID → BitVec 256
  /-- The `event_kind` of a stored event; `none` when it does not decode or is empty. -/
  applicationKind : Bytes → Option String
  /-- The event codec, as the moderation ledger uses it on a target. -/
  decodeEvent : Bytes → Option EventHeader

variable (env : Env) (r : Record)

/-- An environment to run fixed inputs in: default bounds, and no event decodes. -/
def Env.plain : Env where
  quota := defaultQuota
  attemptLease := 60
  suite := ⟨"suite"⟩
  deviceSessionDigest := fun _ _ => 0
  applicationKind := fun _ => none
  decodeEvent := fun _ => none

/-- The session two devices share, whichever of them asks. -/
def deviceSessionID (a b : DeviceID) : Option SessionID :=
  if a = b then none
  else some ⟨if a ≤ b then env.deviceSessionDigest a b else env.deviceSessionDigest b a⟩

theorem deviceSessionID_comm (env : Env) (a b : DeviceID) : deviceSessionID env a b = deviceSessionID env b a := by
  unfold deviceSessionID
  by_cases hab : a = b
  · rw [hab]
  rw [if_neg hab, if_neg (Ne.symm hab)]
  -- exactly one of the two orders is the sorted one
  by_cases hle : a ≤ b <;> by_cases hge : b ≤ a
  · have hdig : a.digest = b.digest := BitVec.le_antisymm hle hge
    exact absurd (congrArg Identifier.mk hdig) hab
  · rw [if_pos hle, if_neg hge]
  · rw [if_neg hle, if_pos hge]
  · have hlt : a.digest < b.digest := BitVec.not_le.mp hge
    exact absurd (BitVec.le_of_lt hlt) hle

/-- A session authority belongs to the device pair its session identifier names. -/
def SessionAuthority.validate (a : SessionAuthority) (sessionID : SessionID) : Bool :=
  deviceSessionID env a.localDeviceID a.peerDeviceID = some sessionID

/-! ## What a record must satisfy to be read back -/

def Record.wellFormed : Bool :=
  r.receivedAt ≠ 0 &&
    (r.application ≠ .claimed || (r.leaseID.isSome && r.leaseExpiresAt ≠ 0)) &&
    r.transition.all fun t => t.authority.all fun a => a.validate env t.sessionID

def SessionRecord.wellFormed (s : SessionRecord) : Bool :=
  s.generation ≠ 0 && s.updatedAt ≠ 0 && s.authority.all fun a => a.validate env s.sessionID

def Delivery.wellFormed (d : Delivery) : Bool :=
  d.createdAt ≠ 0 && d.createdAt < d.expiresAt && (d.copyID.isNone || d.recipientDeviceID.isSome)

def ModerationDecision.wellFormed (target : EventID) (d : ModerationDecision) : Bool :=
  d.targetEventID = target && d.decidedAt ≠ 0 && d.toRoomModeration.valid

/-! ## The journal and its writes -/

/-- The directories of one journal. -/
structure Journal where
  inbound : Dir EventID Record
  sessions : Dir SessionID SessionRecord
  outbound : Dir DeliveryPath Delivery
  moderation : Dir EventID ModerationDecision

variable (j : Journal)

/-- A journal as `Open` creates it. -/
def Journal.empty : Journal := ⟨∅, ∅, ∅, ∅⟩

/-- One atomic replacement of one file. -/
inductive JournalWrite where
  | record (path : EventID) (r : Record)
  | session (path : SessionID) (s : SessionRecord)
  | delivery (path : DeliveryPath) (d : Delivery)
  | moderation (path : EventID) (d : ModerationDecision)
  deriving DecidableEq, Repr

instance : Medium Journal JournalWrite where
  put j
    | .record path r => { j with inbound := j.inbound.insert path r }
    | .session path s => { j with sessions := j.sessions.insert path s }
    | .delivery path d => { j with outbound := j.outbound.insert path d }
    | .moderation path d => { j with moderation := j.moderation.insert path d }

@[simp] theorem put_record (j : Journal) (path : EventID) (r : Record) :
    Medium.put j (.record path r) = { j with inbound := j.inbound.insert path r } := rfl

@[simp] theorem put_session (j : Journal) (path : SessionID) (s : SessionRecord) :
    Medium.put j (.session path s) = { j with sessions := j.sessions.insert path s } := rfl

@[simp] theorem put_delivery (j : Journal) (path : DeliveryPath) (d : Delivery) :
    Medium.put j (.delivery path d) = { j with outbound := j.outbound.insert path d } := rfl

/-- A computation over the journal: one region that holds its mutex. -/
abbrev Region (α : Type) : Type := Durable Journal Failure α

/-! ## Reading -/

/-- Read one file: it must exist and pass its check. -/
def readFile {κ α : Type} [DecidableEq κ] (dir : Dir κ α) (check : κ → α → Bool) (damaged : String)
    (path : κ) : Except Failure α :=
  match lookup path dir with
  | none => .error .notExist
  | some a => if check path a then .ok a else .error (.other damaged)

section
variable {κ α : Type} [DecidableEq κ] {dir : Dir κ α} {check : κ → α → Bool} {damaged : String} {path : κ}

theorem readFile_ok {a : α} :
    readFile dir check damaged path = .ok a ↔ lookup path dir = some a ∧ check path a = true := by
  unfold readFile
  cases h : lookup path dir with
  | none => simp
  | some b =>
    by_cases hc : check path b = true
    · simp only [if_pos hc, Except.ok.injEq, Option.some.injEq]
      exact ⟨fun hab => ⟨hab, hab ▸ hc⟩, And.left⟩
    · simp only [if_neg hc, reduceCtorEq, Option.some.injEq, false_iff, not_and]
      exact fun hab => hab ▸ hc

theorem readFile_notExist : readFile dir check damaged path = .error .notExist ↔ lookup path dir = none := by
  unfold readFile
  cases h : lookup path dir with
  | none => simp
  | some b =>
    simp only [reduceCtorEq, iff_false]
    split <;> simp

end

def readRecord (path : EventID) : Except Failure Record :=
  readFile j.inbound (fun _ => Record.wellFormed env) "invalid event journal record" path

def readSession (path : SessionID) : Except Failure SessionRecord :=
  readFile j.sessions (fun _ => SessionRecord.wellFormed env) "invalid session record" path

def readDelivery (path : DeliveryPath) : Except Failure Delivery :=
  readFile j.outbound (fun _ => Delivery.wellFormed) "invalid delivery record" path

def readModeration (path : EventID) : Except Failure ModerationDecision :=
  readFile j.moderation ModerationDecision.wellFormed "invalid moderation record" path

section
variable {env : Env} {j : Journal}

theorem readRecord_ok {path : EventID} {r : Record} :
    readRecord env j path = .ok r ↔ lookup path j.inbound = some r ∧ r.wellFormed env = true := readFile_ok

theorem readSession_ok {path : SessionID} {s : SessionRecord} :
    readSession env j path = .ok s ↔ lookup path j.sessions = some s ∧ s.wellFormed env = true := readFile_ok

theorem readSession_notExist {path : SessionID} :
    readSession env j path = .error .notExist ↔ lookup path j.sessions = none := readFile_notExist

theorem readDelivery_ok {path : DeliveryPath} {d : Delivery} :
    readDelivery j path = .ok d ↔ lookup path j.outbound = some d ∧ d.wellFormed = true := readFile_ok

theorem readModeration_ok {path : EventID} {d : ModerationDecision} :
    readModeration j path = .ok d ↔ lookup path j.moderation = some d ∧ d.wellFormed path = true := readFile_ok

end

/-- A missing record is the caller's `ErrUnknown`; a damaged one stays what it is. -/
def orUnknown {α : Type} : Except Failure α → Except Failure α
  | .error .notExist => .error .unknown
  | r => r

theorem orUnknown_ok {α : Type} {x : Except Failure α} {a : α} : orUnknown x = .ok a ↔ x = .ok a := by
  unfold orUnknown
  split <;> simp

/-- A session that may not exist yet. Only a damaged record is an error. -/
def currentSession (path : SessionID) : Except Failure (Option SessionRecord) :=
  match readSession env j path with
  | .ok s => .ok (some s)
  | .error .notExist => .ok none
  | .error e => .error e

/-- A session that does not exist is at generation zero. -/
def generationOf : Option SessionRecord → Nat
  | none => 0
  | some s => s.generation

section
variable {env : Env} {j : Journal} {path : SessionID}

theorem currentSession_some {s : SessionRecord} :
    currentSession env j path = .ok (some s) ↔ lookup path j.sessions = some s ∧ s.wellFormed env = true := by
  rw [← readSession_ok]
  unfold currentSession
  split <;> simp_all

theorem currentSession_none : currentSession env j path = .ok none ↔ lookup path j.sessions = none := by
  rw [← @readSession_notExist env]
  unfold currentSession
  split <;> simp_all

/-- Only an absent session is at generation zero: a stored one at zero does not read back. -/
theorem currentSession_zero {cur : Option SessionRecord} (h : currentSession env j path = .ok cur)
    (hz : generationOf cur = 0) : cur = none := by
  cases cur with
  | none => rfl
  | some s =>
    have hwf := (currentSession_some.mp h).2
    simp [generationOf] at hz
    simp [SessionRecord.wellFormed, hz] at hwf

end

end Messenger.Eventlog
