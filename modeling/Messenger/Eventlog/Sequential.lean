import Messenger.Eventlog.Calls

/-!
# `Eventlog.Sequential` — one caller, crashes after any write, and `Open`

The journal as one sequential process sees it. A state is the disk, the history of every write that
became durable, and whether a process owns the directory. An input is

- a request, run to its end or cut by a crash after its first `k` writes;
- an `Open`, which resolves the staged records and may itself be cut, or refuse to open.

After a crash, or a refused `Open`, only another `Open` is enabled.
-/

namespace Messenger.Eventlog

open Lib

/-- One call of the journal's interface, the two commits and the steps of a send attempt included. -/
inductive Request (env : Env) where
  | commitInbound (q : CommitRequest env)
  | call (c : Call)
  | claimForSend (deliveryID : DeliveryID) (attemptID : AttemptID) (now : Time) (lease : Nat)
  | commitSealed (q : SealRequest)
  | failed (deliveryID : DeliveryID) (attemptID : AttemptID) (code : Fault.Code) (now : Time)
  | delivered (deliveryID : DeliveryID) (attemptID : AttemptID) (now : Time)

/-- The writes of a request. -/
def Request.writes {env : Env} (j : Journal) : Request env → List JournalWrite
  | .commitInbound q => (Eventlog.commitInbound q).writes j
  | .call c => c.writes env j
  | .claimForSend deliveryID attemptID now lease => (Eventlog.claimForSend deliveryID attemptID now lease).writes j
  | .commitSealed q => (Eventlog.commitSealed env q).writes j
  | .failed deliveryID attemptID code now => (Eventlog.failed deliveryID attemptID code now).writes j
  | .delivered deliveryID attemptID now => (Eventlog.delivered deliveryID (.named attemptID) now).writes j

/-- The disk, the writes that made it, and whether a process owns it. -/
structure Disk where
  journal : Journal
  log : List JournalWrite
  running : Bool

/-- An empty state directory nobody has opened yet. -/
def Disk.fresh : Disk := { journal := .empty, log := [], running := false }

inductive Input (env : Env) where
  /-- A request; with `some k`, the process dies once the first `k` of its writes are durable. -/
  | request (r : Request env) (crash : Option Nat)
  /-- Taking ownership; with `some k`, the process dies `k` writes into the recovery. -/
  | openJournal (crash : Option Nat)

/-- The writes that become durable. -/
def landed (ws : List JournalWrite) : Option Nat → List JournalWrite
  | none => ws
  | some k => ws.take k

/-- The disk after some writes. -/
def Disk.apply (d : Disk) (ws : List JournalWrite) (running : Bool) : Disk :=
  { journal := puts d.journal ws, log := d.log ++ ws, running }

/-- `Open` reports success when the recovery does. -/
def opens (env : Env) (j : Journal) : Bool :=
  match (recoverStaged env).outcome j with
  | .ok _ => true
  | .error _ => false

/-- One input. A request needs an owner and an `Open` needs there to be none; otherwise nothing
    happens. -/
def Disk.step {env : Env} (d : Disk) : Input env → Disk
  | .request r crash =>
    if d.running then d.apply (landed (r.writes d.journal) crash) crash.isNone else d
  | .openJournal crash =>
    if d.running then d
    else d.apply (landed ((recoverStaged env).writes d.journal) crash) (crash.isNone && opens env d.journal)

/-- The inbound event a write consumes: a session write names the event whose transition it
    installs. -/
def JournalWrite.consumes : JournalWrite → Option EventID
  | .session _ s => s.lastInboundEventID
  | .record _ _ | .delivery _ _ | .moderation _ _ => none

/-- The events whose transition some durable session write consumed. -/
def consumed (log : List JournalWrite) : Set EventID := { e | ∃ w ∈ log, w.consumes = some e }

@[simp] theorem consumed_nil : consumed [] = ∅ := by simp [consumed]

@[simp] theorem consumed_append (log ws : List JournalWrite) : consumed (log ++ ws) = consumed log ∪ consumed ws := by
  ext e
  simp [consumed, or_and_right, exists_or]

theorem consumed_cons (w : JournalWrite) (ws : List JournalWrite) :
    consumed (w :: ws) = { e | w.consumes = some e } ∪ consumed ws := by
  ext e
  simp [consumed]

/-- **What an owner of the journal relies on.** A consumed event is committed, and an event that was
    never consumed is not deliverable. -/
def Faithful (d : Disk) : Prop :=
  ∀ e, (e ∈ consumed d.log → ∃ r, lookup e d.journal.inbound = some r ∧ r.crypto = .committed) ∧
    (e ∉ consumed d.log → ∀ r, lookup e d.journal.inbound = some r → r.deliverable = false)

/-! ## Sample inputs -/

/-- An event to present, under an identifier of its own. -/
def sampleEntry (n : Nat) (admission : AdmissionState) : Entry where
  eventID := ⟨BitVec.ofNat 256 n⟩
  senderEndpointID := ⟨1⟩
  conversationID := ⟨1⟩
  payload := [1]
  admission := admission
  receivedAt := 10
  expiresAt := 0
  transition := none

/-- A request to commit that event over session 1 at an expected generation. -/
def sampleCommit (n : Nat) (admission : AdmissionState) (expectedGeneration : Nat) : CommitRequest .plain :=
  inboundRequest .plain ⟨1⟩ ⟨"suite"⟩ expectedGeneration [1] (sampleEntry n admission) 20

end Messenger.Eventlog
