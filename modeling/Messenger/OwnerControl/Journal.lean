import Messenger.Eventlog.Negotiations

/-!
# `OwnerControl.Journal` — the file journal of owner commands

One record for every resolution namespace and action (`pkg/ownercontrol/file_journal.go`). The
journal keeps a manifest of record digests with a revision, and an authority outside the directory
keeps the revision and a commitment to the manifest, so that the directory cannot be rolled back.

A record is committed in five effects, in this order: the pending file, the authority's revision,
the record, the manifest, and the removal of the pending file. The first that fails ends the commit,
and as long as a pending file is there no other commit begins; opening the journal again carries a
pending commit through.

The three files are written by `writeJSONAtomic`, which drops the errors of `Chmod` and `Encode`:
such a write reports success and leaves a file that was cut off (`File.torn`), which no reader
decodes.
-/

namespace Messenger.OwnerControl

open Lib
open Eventlog (Written)

/-! ## Records -/

/-- Where an owner command stands. -/
inductive CommandState where
  | unknown
  | prepared
  | admitted
  | submitted
  | ambiguous
  | applied
  | rejected
  | conflict
  deriving DecidableEq, Repr

structure AuthenticatedPrincipal where
  domainKind : UInt8
  domainID : Bytes
  ownerID : Bytes
  audience : String
  sessionDigest : Bytes
  channelBindingDigest : Bytes
  mayReadEvidence : Bool
  deriving DecidableEq, Repr

/-- What the service reads of a command's effect; `body` is the rest of it. -/
structure Effect where
  domainKind : UInt8
  domainID : Bytes
  ownerID : Bytes
  commandKind : String
  exactParameterDigest : Bytes
  authorityPredicateSetDigest : Bytes
  semanticConfirmationDigest : Bytes
  resolutionNamespace : Bytes
  sinkAuthorityID : Bytes
  sinkClusterEpoch : Nat
  expectedTargetRevision : Nat
  createdAtUnix : Nat
  expiresAtUnix : Nat
  body : Bytes
  deriving DecidableEq, Repr

structure Attempt where
  commandEffectDigest : Bytes
  actionID : Bytes
  exactRequestDigest : Bytes
  commandLeaseDigest : Bytes
  deviceSessionDigest : Bytes
  attemptedAtUnix : Nat
  expiresAtUnix : Nat
  deriving DecidableEq, Repr

structure SubmissionEvidence where
  parameters : Bytes
  semanticConfirmation : Bytes
  commandLeaseObject : Bytes
  commandLeaseAuthorization : Bytes
  allowedCommandKinds : List String
  deriving DecidableEq, Repr

structure Resolution where
  state : CommandState
  effectDigest : Bytes
  acceptedAttemptDigest : Option Bytes := none
  actionID : Bytes
  exactRequestDigest : Bytes
  targetPriorRevision : Nat
  targetResultRevision : Option Nat := none
  sinkIdentity : Bytes
  effectReferences : List Bytes := []
  authorityEvidenceDigest : Option Bytes := none
  errorCode : Option String := none
  observedAtUnix : Nat
  deriving DecidableEq, Repr

structure AuthorizationRecord where
  principal : AuthenticatedPrincipal
  attempt : Attempt
  evidence : SubmissionEvidence
  attemptDigest : Bytes
  deriving DecidableEq, Repr

structure Record where
  principal : AuthenticatedPrincipal
  effect : Effect
  attempt : Attempt
  evidence : SubmissionEvidence
  authorizationHistory : List AuthorizationRecord
  fencingToken : Bytes := []
  resolution : Resolution
  deriving DecidableEq, Repr

structure TrustedTime where
  unixSeconds : Nat
  epoch : Nat
  evidenceDigest : Bytes
  deriving DecidableEq, Repr

/-- A resolution namespace and an action. -/
structure Key where
  resolutionNamespace : Bytes
  actionID : Bytes
  deriving DecidableEq, Repr

structure Metadata where
  installationID : Bytes
  revision : Nat
  trustedTimeEpoch : Nat
  trustedTimeHighWater : Nat
  trustedTimeEvidence : Bytes
  recordDigests : Dir Key Bytes

structure Pending where
  priorRevision : Nat
  nextMetadata : Metadata
  commitment : Bytes
  recordPath : Key
  record : Record

/-- The digest of an encoded record, and the commitment to an encoded manifest. -/
structure Rules where
  recordDigest : Record → Bytes
  metadataCommitment : Metadata → Bytes

/-! ## Checks -/

def validateTrustedTime (m : Metadata) (observed : TrustedTime) : Except Failure Unit :=
  failIf (observed.unixSeconds = 0 ∨ observed.epoch = 0 ∨ observed.evidenceDigest.length ≠ 32 ∨
    observed.epoch < m.trustedTimeEpoch ∨ observed.unixSeconds < m.trustedTimeHighWater)
    "owner command trusted time rolled back or is invalid"

/-! ## The directory, the authority and the open journal -/

/-- A file of the journal: what was written, or a file that was cut off. -/
inductive File (α : Type) where
  | whole (content : α)
  | torn
  deriving DecidableEq

/-- What a file decodes to. -/
def File.decode {α : Type} : File α → Option α
  | .whole content => some content
  | .torn => none

/-- How the write of a file ends, and whether the file that is in place then was cut off. -/
structure FileWrite where
  written : Written := .done
  cut : Bool := false
  deriving DecidableEq

/-- The file a write makes. -/
def FileWrite.file {α : Type} (w : FileWrite) (content : α) : File α := if w.cut then .torn else .whole content

/-- The file in place after a write. -/
def FileWrite.put {α : Type} (w : FileWrite) (old : Option (File α)) (content : α) : Option (File α) :=
  w.written.put old (some (w.file content))

structure Disk where
  metadata : Option (File Metadata)
  pending : Option (File Pending)
  records : Dir Key (File Record)

/-- The revision and commitment outside the directory. -/
structure Authority where
  revision : Nat
  commitment : Bytes

/-- The journal of the running service: its number, and the manifest in memory. -/
structure OpenJournal where
  number : Nat
  metadata : Metadata

structure JournalState where
  disk : Disk
  authority : Authority
  current : Option OpenJournal
  /-- The number of the next journal to be opened. -/
  opened : Nat

/-- How the effects of a commit go. -/
structure JournalFate where
  pending : FileWrite := {}
  advance : Written := .done
  record : FileWrite := {}
  metadata : FileWrite := {}
  clear : Written := .done
  deriving DecidableEq

variable (rules : Rules) (s : JournalState) (fate : JournalFate) (number : Nat) (key : Key) (value : Record)
  (m : Metadata) (observed : TrustedTime)

def readTracked (disk : Disk) (key : Key) : Except Failure (Option Record) :=
  match lookup key m.recordDigests, lookup key disk.records with
  | _, some .torn => .error (.other "unexpected EOF")
  | none, none => .ok none
  | some want, some (.whole value) =>
    if want ≠ rules.recordDigest value then .error (.other "journal record differs from rollback-resistant manifest")
    else .ok (some value)
  | some _, none | none, some _ => .error (.other "journal record/manifest presence mismatch")

/-- The manifest after a commit. -/
def Metadata.next (key : Key) (value : Record) (observed : TrustedTime) : Metadata where
  installationID := m.installationID
  revision := succ64 m.revision
  trustedTimeEpoch := observed.epoch
  trustedTimeHighWater := observed.unixSeconds
  trustedTimeEvidence := observed.evidenceDigest
  recordDigests := m.recordDigests.insert key (rules.recordDigest value)

/-- The pending file of a commit. -/
def pendingOf (rules : Rules) (m : Metadata) (key : Key) (value : Record) (observed : TrustedTime) : Pending :=
  ⟨m.revision, m.next rules key value observed, rules.metadataCommitment (m.next rules key value observed), key, value⟩

def failed (text : String) : Except Failure Unit := .error (.other text)

/-- `CompareAndAdvance`: the authority moves from one revision to the next, or refuses. -/
def Authority.compareAndAdvance (a : Authority) (w : Written) (prior next : Nat)
    (commitment : Bytes) : Except Failure Unit × Authority :=
  if a.revision ≠ prior then (failed "journal authority revision changed", a)
  else (if w = .done then .ok () else failed "journal authority is unavailable", w.put a ⟨next, commitment⟩)

/-- The record, the manifest and the pending file of a commit the authority has accepted. -/
def carryThrough (next : Metadata) : Except Failure Unit × JournalState :=
  let records := fate.record.written.put s.disk.records (s.disk.records.insert key (fate.record.file value))
  let recorded := { s with disk := { s.disk with records := records } }
  if fate.record.written ≠ .done then (failed "write owner command record", recorded)
  else
    let remembered := { recorded with
      current := some ⟨number, next⟩
      disk := { recorded.disk with metadata := fate.metadata.put recorded.disk.metadata next } }
    if fate.metadata.written ≠ .done then (failed "write owner command journal metadata", remembered)
    else
      (if fate.clear = .done then .ok () else failed "clear pending owner command commit",
        { remembered with disk := { remembered.disk with pending := fate.clear.put remembered.disk.pending none } })

def commitRecord (j : OpenJournal) (fate : JournalFate) (key : Key) (value : Record)
    (observed : TrustedTime) : Except Failure Unit × JournalState :=
  if s.disk.pending.isSome then
    (failed "prior owner command journal commit is ambiguous; reopen to reconcile", s)
  else
    let next := j.metadata.next rules key value observed
    let commitment := rules.metadataCommitment next
    let pending := pendingOf rules j.metadata key value observed
    let noted := { s with disk := { s.disk with pending := fate.pending.put s.disk.pending pending } }
    if fate.pending.written ≠ .done then (failed "write pending owner command commit", noted)
    else
      match noted.authority.compareAndAdvance fate.advance j.metadata.revision next.revision commitment with
      | (.error e, authority) => (.error e, { noted with authority := authority })
      | (.ok _, authority) => carryThrough { noted with authority := authority } fate j.number key value next

/-! ## Opening -/

/-- How opening the journal goes: what goes wrong before its first effect, the first manifest of a
    new directory, and the effects of carrying a pending commit through. -/
structure OpenFate where
  fault : Option Failure := none
  installationID : Bytes
  created : FileWrite := {}
  /-- The authority's word on the manifest. -/
  check : Except Failure Unit := .ok ()
  commit : JournalFate := {}

/-- Every tracked record is there, and is the one the manifest names. -/
def verifyTrackedRecords (disk : Disk) : Except Failure Unit :=
  failIf (∃ key ∈ m.recordDigests.keys, (readTracked rules m disk key).toOption.join = none)
    "journal manifest references missing record"

/-- The authority, before a pending commit is carried through: it is moved on, or has been already. -/
def advancePending (w : Written) (m : Metadata) (pending : Pending) : Except Failure Unit × Authority :=
  if s.authority.revision = pending.priorRevision ∧ m.revision = pending.priorRevision then
    s.authority.compareAndAdvance w pending.priorRevision pending.nextMetadata.revision pending.commitment
  else if s.authority.revision ≠ pending.nextMetadata.revision ∨ s.authority.commitment ≠ pending.commitment then
    (failed "pending owner command transition conflicts with external high-water", s.authority)
  else (.ok (), s.authority)

/-- `reconcile`, with the manifest that was read. -/
def reconcile (fate : OpenFate) (m : Metadata) : Except Failure Metadata × JournalState :=
  match s.disk.pending with
  | none => ((do fate.check; verifyTrackedRecords rules m s.disk : Except Failure Unit).map fun _ => m, s)
  | some .torn => (.error (.other "pending owner command transition is corrupt"), s)
  | some (.whole pending) =>
    if pending.nextMetadata.revision ≠ succ64 pending.priorRevision ∨
        m.revision < pending.priorRevision ∨ pending.nextMetadata.revision < m.revision then
      (.error (.other "pending owner command transition is corrupt"), s)
    else if rules.metadataCommitment pending.nextMetadata ≠ pending.commitment then
      (.error (.other "pending owner command commitment is invalid"), s)
    else
      match advancePending s fate.commit.advance m pending with
      | (.error e, authority) => (.error e, { s with authority := authority })
      | (.ok _, authority) =>
        match carryThrough { s with authority := authority } fate.commit s.opened pending.recordPath pending.record
          pending.nextMetadata with
        | (.error e, s') => (.error e, s')
        | (.ok _, s') => ((verifyTrackedRecords rules pending.nextMetadata s'.disk).map fun _ =>
          pending.nextMetadata, s')

/-- The manifest of a new directory. -/
def Metadata.empty (installationID : Bytes) : Metadata := ⟨installationID, 0, 0, 0, [], ∅⟩

/-- The manifest an opening starts from. -/
def openManifest (fate : OpenFate) : Except Failure Metadata × JournalState :=
  match s.disk.metadata with
  | none =>
    let fresh := Metadata.empty fate.installationID
    let written := { s with disk := { s.disk with metadata := fate.created.put none fresh } }
    if fate.created.written ≠ .done then (.error (.other "write owner command journal metadata"), written)
    else (.ok fresh, written)
  | some .torn => (.error (.other "owner command journal metadata is corrupt or incompatible"), s)
  | some (.whole m) =>
    if m.installationID ≠ fate.installationID then
      (.error (.other "owner command journal metadata is corrupt or incompatible"), s)
    else (.ok m, s)

/-- `OpenFileJournal`. The directory lock keeps a second journal out while one is open. -/
def openFileJournal (fate : OpenFate) : JournalState :=
  match fate.fault, s.current with
  | some _, _ | none, some _ => s
  | none, none =>
    if fate.installationID.length ≠ 32 then s
    else
      match openManifest s fate with
      | (.error _, s') => s'
      | (.ok m, s') =>
        match reconcile rules s' fate m with
        | (.error _, s'') => { s'' with current := none }
        | (.ok m', s'') => { s'' with current := some ⟨s.opened, m'⟩, opened := s.opened + 1 }

/-! ## Values to run the journal on -/

def firstKey : Key := ⟨.replicate 32 2, .replicate 32 3⟩

def sampleRules : Rules := ⟨fun r => r.fencingToken, fun m => m.trustedTimeEvidence⟩

/-- The journal of a new directory, just opened. -/
def newJournal : OpenJournal := ⟨0, .empty (.replicate 32 1)⟩

def newState : JournalState := ⟨⟨some (.whole newJournal.metadata), none, ∅⟩, ⟨0, []⟩, some newJournal, 1⟩

def firstTime : TrustedTime := ⟨1, 1, .replicate 32 4⟩

end Messenger.OwnerControl
