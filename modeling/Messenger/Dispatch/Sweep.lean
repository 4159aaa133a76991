import Messenger.Eventlog.Outbound

/-!
# `Dispatch.Sweep` — one sweep over the due deliveries, step by step

A sweep runs outside the journal's mutex and enters it once for each journal call. Between two calls
anything else may happen, so a sweep is a small state machine: the time it captured when it started,
the deliveries it still has to attempt, and where it stands with the current one (`Stage`).

The captured time is what the claim and the sealing commit are made with; only the settlements read
the clock again. What the cipher suite and the transport answer is part of the step's input.
-/

namespace Messenger.Dispatch

open Eventlog Lib

/-- One claimed delivery: the key the listing had, the attempt's identifier, and the delivery as the
    claim returned it. -/
structure Attempt where
  key : DeliveryID
  attemptID : AttemptID
  delivery : Delivery
  deriving DecidableEq, Repr

/-- Where a sweep stands. -/
inductive Stage where
  /-- Between two deliveries. -/
  | idle
  | claimed (a : Attempt)
  /-- The session was read; its state is what the suite seals from. -/
  | prepared (a : Attempt) (session : SessionRecord)
  /-- There is a committed ciphertext to hand to the transport. -/
  | ready (a : Attempt) (ciphertext : Bytes)
  /-- The transport took it. -/
  | accepted (a : Attempt)
  /-- The attempt failed and has to say so. -/
  | failing (a : Attempt) (code : Fault.Code)
  deriving DecidableEq, Repr

structure Sweep where
  now : Time
  queue : List Delivery
  stage : Stage
  deriving DecidableEq, Repr

/-- What is handed to the transport. -/
structure Message where
  eventID : EventID
  sessionID : SessionID
  recipientEndpointID : EndpointID
  recipientDeviceID : Option DeviceID
  conversationID : ConversationID
  bootstrap : Option FirstContact
  ciphertext : Bytes
  expiresAt : Nat
  deriving DecidableEq, Repr

/-- A message with the delivery it was sent for. -/
structure Sent where
  path : DeliveryPath
  message : Message
  deriving DecidableEq, Repr

/-- A ciphertext that became durable: for which delivery, and from which generation of which
    session. -/
structure Seal where
  path : DeliveryPath
  sessionID : SessionID
  generation : Nat
  ciphertext : Bytes
  deriving DecidableEq, Repr

/-- One step of a sweep. -/
inductive SweepAct where
  /-- Claim the next delivery under a new attempt identifier. -/
  | claim (attemptID : AttemptID)
  /-- Use the ciphertext the delivery has, or read the session to seal one. -/
  | prepare
  /-- Commit what the bindings and the suite returned: a ciphertext and the next state, or nothing. -/
  | commitSealed (result : Option (Bytes × Bytes))
  /-- Hand the ciphertext over; the transport takes it or fails with a code. -/
  | send (verdict : Option Fault.Code)
  /-- Report the attempt's outcome to the journal. -/
  | settle
  deriving DecidableEq, Repr

/-- Whether a step draws an attempt identifier that was drawn before. -/
def SweepAct.repeats (attempts : Dir AttemptID Time) : SweepAct → Bool
  | .claim attemptID => (lookup attemptID attempts).isSome
  | _ => false

/-- What one step does. A sweep that is over has no state left. -/
structure SweepEffect where
  writes : List JournalWrite := []
  sweep : Option Sweep
  sealed : Option Seal := none
  sent : Option Sent := none

variable (env : Env) (j : Journal) (s : Sweep) (a : Attempt) (session : SessionRecord)

/-- Start a sweep: capture the time and list what is due. -/
def Sweep.start (clock : Time) (limit : Nat) : Except Failure Sweep := do
  if clock < 0 then .error (.other "invalid dispatch time")
  else
    let due ← due j clock
    pure { now := clock, queue := if 0 < limit ∧ limit < due.length then due.take limit else due, stage := .idle }

/-- The commit an attempt asks for: the generation it read, under the time the sweep captured. -/
def Sweep.sealRequest (ciphertext next : Bytes) : SealRequest where
  sessionID := a.delivery.sessionID
  algorithm := session.algorithmID
  expectedGeneration := session.generation
  next := next
  deliveryID := a.delivery.key
  attemptID := a.attemptID
  ciphertext := ciphertext
  now := s.now

/-- The message of an attempt. -/
def Attempt.message (ciphertext : Bytes) : Message where
  eventID := a.delivery.eventID
  sessionID := a.delivery.sessionID
  recipientEndpointID := a.delivery.recipientEndpointID
  recipientDeviceID := a.delivery.recipientDeviceID
  conversationID := a.delivery.conversationID
  bootstrap := session.bootstrap
  ciphertext := ciphertext
  expiresAt := a.delivery.expiresAt

/-- The stage after the claim. A delivery somebody else holds is left to them. -/
def claimedStage (key : DeliveryID) (attemptID : AttemptID) : Except Failure Delivery → Stage
  | .ok delivery => .claimed ⟨key, attemptID, delivery⟩
  | .error _ => .idle

/-- The stage after looking at a claimed delivery. -/
def preparedStage : Stage :=
  if a.delivery.ciphertext ≠ [] then .ready a a.delivery.ciphertext
  else
    match readSession env j a.delivery.sessionID with
    | .error _ => .failing a .internal
    | .ok session => if session.algorithmID ≠ env.suite then .failing a .suiteUnsupported else .prepared a session

/-- Claim the next delivery; with none left the sweep is over. -/
def Sweep.claimEffect (attemptID : AttemptID) : SweepEffect :=
  match s.stage, s.queue with
  | .idle, d :: rest =>
    { writes := (claimForSend d.key attemptID s.now env.attemptLease).writes j
      sweep := some
        { s with
          queue := rest
          stage := claimedStage d.key attemptID ((claimForSend d.key attemptID s.now env.attemptLease).outcome j) } }
  | .idle, [] => { sweep := none }
  | _, _ => { sweep := some s }

/-- Look at the claimed delivery. -/
def Sweep.prepareEffect : SweepEffect :=
  match s.stage with
  | .claimed a => { sweep := some { s with stage := preparedStage env j a } }
  | _ => { sweep := some s }

/-- Commit a seal. Only a commit that succeeded leaves a ciphertext to send. -/
def Sweep.sealEffect (ciphertext next : Bytes) : SweepEffect :=
  match (commitSealed env (s.sealRequest a session ciphertext next)).outcome j with
  | .ok _ =>
    { writes := (commitSealed env (s.sealRequest a session ciphertext next)).writes j
      sweep := some { s with stage := .ready a ciphertext }
      sealed := some ⟨a.delivery.key.path, a.delivery.sessionID, session.generation, ciphertext⟩ }
  | .error _ =>
    { writes := (commitSealed env (s.sealRequest a session ciphertext next)).writes j
      sweep := some { s with stage := .failing a .internal } }

def Sweep.commitEffect (result : Option (Bytes × Bytes)) : SweepEffect :=
  match s.stage, result with
  | .prepared a session, some (ciphertext, next) => s.sealEffect env j a session ciphertext next
  | .prepared a _, none => { sweep := some { s with stage := .failing a .internal } }
  | _, _ => { sweep := some s }

/-- The stage after the transport's answer. -/
def sentStage : Option Fault.Code → Stage
  | none => .accepted a
  | some code => .failing a code

/-- Hand the ciphertext over. The session is read once more for its bootstrap evidence. -/
def Sweep.sendEffect (verdict : Option Fault.Code) : SweepEffect :=
  match s.stage with
  | .ready a ciphertext =>
    match readSession env j a.delivery.sessionID with
    | .error _ => { sweep := some { s with stage := .failing a .internal } }
    | .ok session =>
      { sweep := some { s with stage := sentStage a verdict }
        sent := some ⟨a.delivery.key.path, a.message session ciphertext⟩ }
  | _ => { sweep := some s }

/-- Report the outcome. A failure that cannot be recorded ends the sweep. -/
def Sweep.settleEffect (clock : Time) (s : Sweep) : SweepEffect :=
  match s.stage with
  | .accepted a =>
    { writes := (delivered a.delivery.key (.named a.attemptID) clock).writes j
      sweep := some { s with stage := match (delivered a.delivery.key (.named a.attemptID) clock).outcome j with
        | .ok _ => .idle
        | .error _ => .failing a .internal } }
  | .failing a code =>
    { writes := (failed a.key a.attemptID code clock).writes j
      sweep := match (failed a.key a.attemptID code clock).outcome j with
        | .ok _ => some { s with stage := .idle }
        | .error _ => none }
  | _ => { sweep := some s }

/-- One step. A step that does not fit the stage does nothing. -/
def Sweep.perform (clock : Time) (s : Sweep) : SweepAct → SweepEffect
  | .claim attemptID => s.claimEffect env j attemptID
  | .prepare => s.prepareEffect env j
  | .commitSealed result => s.commitEffect env j result
  | .send verdict => s.sendEffect env j verdict
  | .settle => s.settleEffect j clock

end Messenger.Dispatch
