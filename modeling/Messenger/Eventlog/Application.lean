import Messenger.Eventlog.Inbound

/-!
# `Eventlog.Application` — admission, leases, reading, listing and moderation

The operations on an inbound record other than its cryptographic commitment. Each is one region of
the journal's mutex that reads the record, checks it and commits a new body, except the sweep that
expires undecided events, which does so for one directory entry after another.

- the owner decides (`admitEvent`, `denyEvent`), or time does (`expirePendingAdmissions`);
- a runtime leases an event (`claimForApplicationKind` and its five entry points) and finishes it
  (`completeApplication`, `rejectApplication`);
- a person reads it (`markRead`);
- `listPending` is what a runtime is offered, and a moderation decision (`applyModeration`) hides an
  event from that listing.
-/

namespace Messenger.Eventlog

open Lib
open Lib.Durable (read write fail lift)

variable (env : Env) (eventID : EventID) (leaseID : LeaseID) (now : Time) (lease : Nat)

/-- The record an operation on an existing event works on. -/
def knownRecord (path : EventID) : Region Record := do
  let j ← read
  lift (orUnknown (readRecord env j path))

/-! ## Admission -/

variable (kinds : List String) (r : Record) (seconds : Nat) (state : AdmissionState) (code : Option Fault.Code)

/-- The body after the owner's decision. Denying settles the application dimension too. -/
def Record.decided (seconds : Nat) : Record :=
  let r := { r with admission := state, admissionAt := seconds, admissionCode := code }
  if state = .denied then
    { r with application := .rejected, rejectedAt := seconds, rejectionCode := r.rejectionCode.or code }
  else r

/-- The owner decides once. -/
def decideAdmission (now : Time) : Region Record :=
  if now < 0 then fail (.other "invalid admission time")
  else do
    let record ← knownRecord env eventID
    if record.admission ≠ .pending then fail .notPending
    else commit eventID (record.decided state code now.toNat)

def admitEvent : Region Record :=
  decideAdmission env eventID .admitted none now

def denyEvent (now : Time) : Region Record :=
  decideAdmission env eventID .denied code now

/-- What an undecided event is refused with. -/
def expiredCode : Fault.Code := .eventOutsideWindow

/-- The body of an event that ran out of time. -/
def Record.expiredOut : Record :=
  { r with
    admission := .denied, admissionAt := seconds, admissionCode := some expiredCode
    application := .rejected, rejectedAt := seconds, rejectionCode := some expiredCode }

/-- One directory entry of the expiry sweep; the result is how many records it refused. -/
def expireEntry (path : EventID) : Region Nat := do
  let j ← read
  match readRecord env j path with
  | .ok record =>
    if record.admission = .pending ∧ record.expired env.quota seconds then do
      let _ ← commit path (record.expiredOut seconds)
      pure 1
    else pure 0
  | .error _ => pure 0

def expireEntries (env : Env) (seconds : Nat) : List EventID → Region Nat
  | [] => pure 0
  | path :: paths => do
    let first ← expireEntry env seconds path
    let rest ← expireEntries env seconds paths
    pure (first + rest)

/-- Refuse undecided events that ran out of time. -/
def expirePendingAdmissions : Region Nat :=
  if now < 0 then fail (.other "invalid expiry time")
  else do
    let j ← read
    expireEntries env now.toNat (Dir.names j.inbound)

/-! ## Leases -/

/-- Which event kinds a claim accepts. An empty filter does not decode the event at all. -/
structure KindFilter where
  required : Option String := none
  excluded : List String := []
  allowed : List String := []
  deriving DecidableEq, Repr

def KindFilter.check (filter : KindFilter) (record : Record) : Except Failure Unit :=
  if filter.required.isNone ∧ filter.excluded = [] ∧ filter.allowed = [] then .ok ()
  else
    match env.applicationKind record.payload with
    | none => .error (.other "stored event has no application kind")
    | some kind =>
      if filter.required.isSome ∧ filter.required ≠ some kind then .error .applicationKind
      else if kind ∈ filter.excluded then .error .applicationKind
      else if filter.allowed ≠ [] ∧ kind ∉ filter.allowed then .error .applicationKind
      else .ok ()

/-- Whether a lease may be taken at a time, from the application dimension alone. -/
def Record.leasable : Except Failure Unit :=
  match r.application with
  | .queued => .ok ()
  | .claimed => if seconds < r.leaseExpiresAt then .error .leaseMismatch else .ok ()
  | .applied | .rejected => .error .notPending

/-- The body under a new lease. -/
def Record.leased (leaseID : LeaseID) (expiresAt : Nat) : Record :=
  { r with application := .claimed, leaseID := some leaseID, leaseExpiresAt := expiresAt }

/-- Take a lease on an event. `lease` is in whole seconds. -/
def claimForApplicationKind (filter : KindFilter) : Region Record :=
  if now < 0 then fail (.other "invalid application claim time")
  else if lease < minLeaseSeconds ∨ maxLeaseSeconds < lease then
    fail (.other "application lease is outside its bounds")
  else do
    let record ← knownRecord env eventID
    lift (filter.check env record)
    if record.admission ≠ .admitted then fail .notAdmitted
    else do
      lift (record.leasable now.toNat)
      if record.leaseID = some leaseID then fail (.other "application lease identifier was reused")
      else commit eventID (record.leased leaseID (now.toNat + lease))

def claimForApplication : Region Record :=
  claimForApplicationKind env eventID leaseID now lease {}

/-- The exported `ClaimForApplicationKind`: exactly one kind. -/
def claimForApplicationOfKind (kind : String) : Region Record :=
  if kind = "" then fail (.other "application event kind is required")
  else claimForApplicationKind env eventID leaseID now lease { required := some kind }

/-- The loop over a list of kinds, with the kinds seen so far. -/
def checkKindsFrom (required unique : String) (seen : List String) : List String → Except Failure Unit
  | [] => .ok ()
  | kind :: kinds =>
    if kind = "" then .error (.other required)
    else if kind ∈ seen then .error (.other unique)
    else checkKindsFrom required unique (kind :: seen) kinds

/-- The bound and uniqueness checks on a list of kinds; the three texts are the caller's. -/
def checkKinds (bounded required unique : String) : Except Failure Unit :=
  if kinds = [] ∨ 32 < kinds.length then .error (.other bounded)
  else checkKindsFrom required unique [] kinds

def claimForApplicationKinds : Region Record := do
  lift (checkKinds kinds "allowed application event kinds are required and bounded"
    "allowed application event kind is required" "allowed application event kinds must be unique")
  claimForApplicationKind env eventID leaseID now lease { allowed := kinds }

def claimForApplicationExceptKinds : Region Record := do
  lift (checkKinds kinds "excluded application event kinds are required and bounded"
    "excluded application event kind is required" "excluded application event kinds must be unique")
  claimForApplicationKind env eventID leaseID now lease { excluded := kinds }

def claimForApplicationExceptKind (kind : String) : Region Record :=
  if kind = "" then fail (.other "excluded application event kind is required")
  else claimForApplicationExceptKinds env eventID leaseID now lease [kind]

/-! ## Finishing and reading -/

/-- How a runtime finishes an event. -/
inductive Verdict where
  | applied
  | rejected (code : Option Fault.Code)
  deriving DecidableEq, Repr

/-- The body after a runtime finished. -/
def Record.finished (verdict : Verdict) (seconds : Nat) : Record :=
  let r := { r with leaseID := none, leaseExpiresAt := 0 }
  match verdict with
  | .applied => { r with application := .applied, appliedAt := seconds }
  | .rejected code => { r with application := .rejected, rejectedAt := seconds, rejectionCode := code }

/-- Finish an event under the lease that holds it. -/
def finish (verdict : Verdict) (now : Time) : Region Record :=
  if now < 0 then fail (.other "invalid application completion time")
  else do
    let record ← knownRecord env eventID
    if record.application ≠ .claimed then fail .notPending
    else if record.leaseID ≠ some leaseID then fail .leaseMismatch
    else commit eventID (record.finished verdict now.toNat)

def completeApplication : Region Record :=
  finish env eventID leaseID .applied now

def rejectApplication (now : Time) : Region Record :=
  finish env eventID leaseID (.rejected code) now

/-- Record a read indication; it is independent of the application dimension. -/
def markRead : Region Record :=
  if now < 0 then fail (.other "invalid read time")
  else do
    let record ← knownRecord env eventID
    if record.readAt ≠ 0 then pure record
    else if now.toNat < record.receivedAt then fail (.other "event read before it was received")
    else commit eventID { record with readAt := now.toNat }

/-! ## The runtime's listing -/

/-- Whether the application dimension offers a record at a time: queued, or under an expired lease. -/
def Record.offered : Bool :=
  match r.application with
  | .queued => true
  | .claimed => r.leaseExpiresAt ≤ seconds
  | .applied | .rejected => false

/-- The listing's loop. A damaged moderation decision fails the whole listing. -/
def pendingOf (j : Journal) (seconds : Nat) : List Record → Except Failure (List Record)
  | [] => .ok []
  | r :: rs =>
    if r.admission = .admitted ∧ r.deliverable ∧ r.offered seconds then
      match readModeration j r.eventID with
      | .ok decision => if decision.action = .hide then pendingOf j seconds rs else (r :: ·) <$> pendingOf j seconds rs
      | .error .notExist => (r :: ·) <$> pendingOf j seconds rs
      | .error e => .error e
    else pendingOf j seconds rs

/-- Oldest first, then by event identifier. -/
def Record.before (a b : Record) : Bool :=
  a.receivedAt < b.receivedAt || (a.receivedAt = b.receivedAt && a.eventID ≤ b.eventID)

/-- The events a runtime still has to process; a `limit` of zero is no limit. -/
def listPending (j : Journal) (now : Time) (limit : Nat) : Except Failure (List Record) :=
  if now < 0 then .error (.other "invalid pending sweep time")
  else do
    let pending ← pendingOf j now.toNat (readableRecords env j)
    let sorted := pending.insertionSort fun a b => a.before b
    pure (if 0 < limit ∧ limit < sorted.length then sorted.take limit else sorted)

/-! ## Moderation -/

/-- The role policy a moderation decision was checked against. A policy is issued after the epoch. -/
structure RolePolicy where
  membershipEpoch : Nat
  revision : Nat
  issuedAt : Nat
  expiresAt : Nat
  issued : issuedAt ≠ 0

/-- A `room.moderation` event whose body decoded. -/
structure ModerationEvent where
  eventID : EventID
  roomID : Option RoomID
  senderAgentID : AgentID
  body : RoomModeration

variable (event : ModerationEvent)

/-- The decision a moderation event stands for. -/
def ModerationEvent.decision (seconds : Nat) : ModerationDecision :=
  { event.body with decisionEventID := event.eventID, actorAgentID := event.senderAgentID, decidedAt := seconds }

/-- The next decision revision of a target is one above the last one applied. -/
def checkRevision (prior : Option ModerationDecision) (decision : ModerationDecision) : Except Failure Unit :=
  match prior with
  | some prior =>
    if decision.decisionRevision ≤ prior.decisionRevision then .error .moderationRollback
    else if decision.decisionRevision ≠ succ64 prior.decisionRevision then .error .moderationGap
    else .ok ()
  | none =>
    if decision.decisionRevision ≠ 1 then .error (.other "first moderation decision revision must be 1") else .ok ()

/-- Apply a moderation event. `authority` is the outcome of the checks made outside these
    directories: the sender's delegation, the room's membership and the signature and roles of its
    current policy. -/
def applyModeration (authority : Except Failure RolePolicy) (now : Time) : Region (Bool × ModerationDecision) :=
  if now < 0 then fail (.other "invalid moderation time")
  else if !event.body.valid then fail (.other "invalid room moderation body")
  else if event.roomID ≠ some event.body.roomID then fail (.other "moderation Event names another room")
  else do
    let policy ← lift authority
    let j ← read
    if event.body.membershipEpoch ≠ policy.membershipEpoch ∨ event.body.rolePolicyRevision ≠ policy.revision then
      fail (.other "moderation names stale room authority")
    else if now.toNat < policy.issuedAt ∨ policy.expiresAt ≤ now.toNat then
      fail (.other "room role policy is outside its validity window")
    else do
      let target ← lift (match readRecord env j event.body.targetEventID with
        | .error .notExist => .error .moderationTargetMissing
        | r => r)
      match env.decodeEvent target.payload with
      | none => fail (.other "invalid moderation target")
      | some header =>
        if header.eventID ≠ event.body.targetEventID ∨ header.roomID ≠ some event.body.roomID ∨
            header.kind ≠ "room.message" then
          fail (.other "moderation target is not a message in this room")
        else do
          let prior ← lift (match readModeration j event.body.targetEventID with
            | .ok d => .ok (some d)
            | .error .notExist => .ok none
            | .error e => .error e)
          match prior.filter fun d => d.decisionEventID = event.eventID with
          | some d => pure (false, d)
          | none => do
            lift (checkRevision prior (event.decision now.toNat))
            write (.moderation event.body.targetEventID (event.decision now.toNat))
            pure (true, event.decision now.toNat)

end Messenger.Eventlog
