import Messenger.Payload.Fields

/-!
# `Payload.Kinds` — messages and tasks

The bodies of `kinds.go` but the negotiations: what each checks, how it is written and how it is
read. For each body

* `roundTrip` — its reader reads only what its writer writes, and reads back every valid body.

The stage of a task's progress is only matched against a pattern, so a valid report fits when its
stage is short (`TaskProgress.fits_iff`).
-/

namespace Messenger.Payload

open Canon Lib

/-- A message meant for a person or an Agent to read. -/
structure Text where
  mediaType : Bytes
  body : Bytes
  replyToEventID : Bytes
  deriving DecidableEq, Repr

namespace Text

def schema : String := "tos.messaging.payload.text.v1"

def validate (t : Text) : Except Failure Unit := do
  requireMember "media type" t.mediaType mediaTypes
  requireText "body" t.body maxTextBytes
  optionalMatch "reply-to event" t.replyToEventID eventPattern

def encode (t : Text) : Bytes :=
  Write.text t.mediaType ++ Write.text t.body ++ Write.text t.replyToEventID

def decode : Read Text := do
  let mediaType ← Read.text maxShortTextBytes
  let body ← Read.text maxTextBytes
  let replyToEventID ← Read.text maxShortTextBytes
  pure { mediaType, body, replyToEventID }

theorem roundTrip : RoundTrip decode encode (validate · = .ok ()) := by
  refine ExactWhere.roundTrip (.field mediaType short_exact <| .field body long_exact <|
    .field replyToEventID short_exact .done) (fun t _ => ?_) fun t h => ?_
  · simp [encode]
  obtain ⟨_, hmedia, h⟩ := seq_ok.mp h
  obtain ⟨_, hbo, hreply⟩ := seq_ok.mp h
  exact ⟨requireMember_fits (by decide +kernel) hmedia, requireText_fits hbo,
    optional_fits hreply (requireMatch_id_fits (by decide +kernel)), trivial⟩

end Text

/-- A proposed conversation and what it is for. -/
structure ConversationInvite where
  purpose : Bytes
  expiresAtUnix : UInt64
  deriving DecidableEq, Repr

namespace ConversationInvite

def schema : String := "tos.messaging.payload.conversation-invite.v1"

def validate (c : ConversationInvite) : Except Failure Unit := do
  requireText "purpose" c.purpose maxShortTextBytes
  requireTime "invitation expiry" c.expiresAtUnix

def encode (c : ConversationInvite) : Bytes :=
  Write.text c.purpose ++ Write.uint64 c.expiresAtUnix

def decode : Read ConversationInvite := do
  let purpose ← Read.text maxShortTextBytes
  let expiresAtUnix ← Read.uint64
  pure { purpose, expiresAtUnix }

theorem roundTrip : RoundTrip decode encode (validate · = .ok ()) := by
  refine ExactWhere.roundTrip (.field purpose short_exact <| .field expiresAtUnix uint64_exact
    .done) (fun c _ => ?_) fun c h => ?_
  · simp [encode]
  · obtain ⟨_, hpurpose, -⟩ := seq_ok.mp h
    exact ⟨requireText_fits hpurpose, trivial, trivial⟩

end ConversationInvite

/-- The answer to one invitation. -/
structure ConversationAccept where
  inviteEventID : Bytes
  deriving DecidableEq, Repr

namespace ConversationAccept

def schema : String := "tos.messaging.payload.conversation-accept.v1"

def validate (c : ConversationAccept) : Except Failure Unit := requireEvent "invitation event" c.inviteEventID

def encode (c : ConversationAccept) : Bytes :=
  Write.text c.inviteEventID

def decode : Read ConversationAccept := do
  let inviteEventID ← Read.text maxShortTextBytes
  pure { inviteEventID }

theorem roundTrip : RoundTrip decode encode (validate · = .ok ()) := by
  refine ExactWhere.roundTrip (.field inviteEventID short_exact .done) (fun c _ => ?_) fun c h => ?_
  · simp [encode]
  · exact ⟨requireEvent_fits h, trivial⟩

end ConversationAccept

def presenceStates : List Bytes := [lit "available", lit "busy", lit "away"]

/-- What the sender believes about its own availability, and until when. -/
structure PresenceHint where
  state : Bytes
  staleAfterUnix : UInt64
  deriving DecidableEq, Repr

namespace PresenceHint

def schema : String := "tos.messaging.payload.presence-hint.v1"

def validate (p : PresenceHint) : Except Failure Unit := do
  requireMember "presence state" p.state presenceStates
  requireTime "presence staleness" p.staleAfterUnix

def encode (p : PresenceHint) : Bytes :=
  Write.text p.state ++ Write.uint64 p.staleAfterUnix

def decode : Read PresenceHint := do
  let state ← Read.text maxShortTextBytes
  let staleAfterUnix ← Read.uint64
  pure { state, staleAfterUnix }

theorem roundTrip : RoundTrip decode encode (validate · = .ok ()) := by
  refine ExactWhere.roundTrip (.field state short_exact <| .field staleAfterUnix uint64_exact
    .done) (fun p _ => ?_) fun p h => ?_
  · simp [encode]
  · obtain ⟨_, hst, -⟩ := seq_ok.mp h
    exact ⟨requireMember_fits (by decide +kernel) hst, trivial, trivial⟩

end PresenceHint

/-- Work the recipient is asked to perform. -/
structure TaskRequest where
  taskID : Bytes
  capabilityID : Bytes
  inputDigest : Bytes
  deadlineUnix : UInt64
  acceptedQuoteRef : Bytes
  deriving DecidableEq, Repr

namespace TaskRequest

def schema : String := "tos.messaging.payload.task-request.v1"

def validate (t : TaskRequest) : Except Failure Unit := do
  requireText "task identifier" t.taskID maxShortTextBytes
  requireMatch "capability" t.capabilityID capabilityPattern
  requireDigest "input digest" t.inputDigest
  requireTime "task deadline" t.deadlineUnix
  optionalDigest "accepted quote reference" t.acceptedQuoteRef

def encode (t : TaskRequest) : Bytes :=
  Write.text t.taskID ++ Write.text t.capabilityID ++ Write.text t.inputDigest ++
    Write.uint64 t.deadlineUnix ++ Write.text t.acceptedQuoteRef

def decode : Read TaskRequest := do
  let taskID ← Read.text maxShortTextBytes
  let capabilityID ← Read.text maxShortTextBytes
  let inputDigest ← Read.text maxDigestBytes
  let deadlineUnix ← Read.uint64
  let acceptedQuoteRef ← Read.text maxDigestBytes
  pure { taskID, capabilityID, inputDigest, deadlineUnix, acceptedQuoteRef }

theorem roundTrip : RoundTrip decode encode (validate · = .ok ()) := by
  refine ExactWhere.roundTrip (.field taskID short_exact <| .field capabilityID short_exact <|
    .field inputDigest digest_exact <| .field deadlineUnix uint64_exact <|
    .field acceptedQuoteRef digest_exact .done) (fun t _ => ?_) fun t h => ?_
  · simp [encode]
  simp only [validate, seq_ok] at h
  obtain ⟨_, htid, _, hcapID, _, hind, _, -, hquo⟩ := h
  exact ⟨requireText_fits htid, requireMatch_id_fits (by decide +kernel) hcapID,
    requireDigest_fits hind, trivial, optionalDigest_fits hquo, trivial⟩

end TaskRequest

/-- How far along the work is. -/
structure TaskProgress where
  taskID : Bytes
  stage : Bytes
  percentComplete : UInt32
  note : Bytes
  deriving DecidableEq, Repr

namespace TaskProgress

def schema : String := "tos.messaging.payload.task-progress.v1"

variable (t : TaskProgress)

def validate : Except Failure Unit := do
  requireText "task identifier" t.taskID maxShortTextBytes
  requireMatch "stage" t.stage tokenPattern
  failIf (100 < t.percentComplete) "progress exceeds its own scale"
  optionalText "note" t.note maxShortTextBytes

def encode : Bytes :=
  Write.text t.taskID ++ Write.text t.stage ++ Write.uint32 t.percentComplete ++ Write.text t.note

def decode : Read TaskProgress := do
  let taskID ← Read.text maxShortTextBytes
  let stage ← Read.text maxShortTextBytes
  let percentComplete ← Read.uint32
  let note ← Read.text maxShortTextBytes
  pure { taskID, stage, percentComplete, note }

/-- The texts a reader accepts. -/
def Fits : Prop :=
  FitsText maxShortTextBytes t.taskID ∧ FitsText maxShortTextBytes t.stage ∧ FitsText maxShortTextBytes t.note

theorem decode_exact : Exact decode encode Fits := by
  refine ExactWhere.record (.field taskID short_exact <| .field stage short_exact <|
    .field percentComplete uint32_exact <| .field note short_exact
    .done) (fun t _ => ?_) fun t => ?_
  · simp [encode]
  · simp [Fits]

/-- A valid report fits when its stage is short: the pattern of a stage has no bound. -/
theorem fits_iff {t : TaskProgress} (h : t.validate = .ok ()) : t.Fits ↔ t.stage.length ≤ maxShortTextBytes := by
  simp only [validate, seq_ok] at h
  obtain ⟨_, htid, _, hsg, _, -, hnote⟩ := h
  rw [← token_fits_iff hsg]
  constructor
  · intro hft
    exact hft.2.1
  · intro hft
    exact ⟨requireText_fits htid, hft, optionalText_fits hnote⟩

end TaskProgress

def taskOutcomes : List Bytes := [lit "succeeded", lit "failed", lit "refused"]

/-- The end of the work. -/
structure TaskResult where
  taskID : Bytes
  outcome : Bytes
  outputDigest : Bytes
  reason : Bytes
  deriving DecidableEq, Repr

namespace TaskResult

def schema : String := "tos.messaging.payload.task-result.v1"

/-- A result that succeeded commits its output; one that did not says why and reports none. -/
def validate (t : TaskResult) : Except Failure Unit := do
  requireText "task identifier" t.taskID maxShortTextBytes
  requireMember "task outcome" t.outcome taskOutcomes
  if t.outcome = lit "succeeded" then do
    requireDigest "output digest" t.outputDigest
    optionalText "reason" t.reason maxShortTextBytes
  else do
    failIf (t.outputDigest ≠ []) "a task that did not succeed reported an output"
    requireText "reason" t.reason maxShortTextBytes

def encode (t : TaskResult) : Bytes :=
  Write.text t.taskID ++ Write.text t.outcome ++ Write.text t.outputDigest ++ Write.text t.reason

def decode : Read TaskResult := do
  let taskID ← Read.text maxShortTextBytes
  let outcome ← Read.text maxShortTextBytes
  let outputDigest ← Read.text maxDigestBytes
  let reason ← Read.text maxShortTextBytes
  pure { taskID, outcome, outputDigest, reason }

theorem roundTrip : RoundTrip decode encode (validate · = .ok ()) := by
  refine ExactWhere.roundTrip (.field taskID short_exact <| .field outcome short_exact <|
    .field outputDigest digest_exact <| .field reason short_exact .done)
    (fun t _ => ?_) fun t h => ?_
  · simp [encode]
  obtain ⟨_, htid, h⟩ := seq_ok.mp h
  obtain ⟨_, hou, h⟩ := seq_ok.mp h
  refine ⟨requireText_fits htid, requireMember_fits (by decide +kernel) hou, ?_⟩
  split_ifs at h with hsucceeded
  · obtain ⟨_, hdig, hrsn⟩ := seq_ok.mp h
    exact ⟨requireDigest_fits hdig, optionalText_fits hrsn, trivial⟩
  · obtain ⟨hno, hrsn⟩ := failIf_then.mp h
    exact ⟨not_not.mp hno ▸ fitsText_nil _, requireText_fits hrsn, trivial⟩

end TaskResult

/-- A question about the current state of a task. -/
structure TaskStatusRequest where
  taskID : Bytes
  deriving DecidableEq, Repr

namespace TaskStatusRequest

def schema : String := "tos.messaging.payload.task-status-request.v1"

def validate (t : TaskStatusRequest) : Except Failure Unit := requireText "task identifier" t.taskID maxShortTextBytes

def encode (t : TaskStatusRequest) : Bytes :=
  Write.text t.taskID

def decode : Read TaskStatusRequest := do
  let taskID ← Read.text maxShortTextBytes
  pure { taskID }

theorem roundTrip : RoundTrip decode encode (validate · = .ok ()) := by
  refine ExactWhere.roundTrip (.field taskID short_exact .done) (fun t _ => ?_) fun t h => ?_
  · simp [encode]
  · exact ⟨requireText_fits h, trivial⟩

end TaskStatusRequest

end Messenger.Payload
