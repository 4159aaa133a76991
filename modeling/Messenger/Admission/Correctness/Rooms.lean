import Messenger.Admission.Gate
import Messenger.Eventlog.Correctness.Roles

/-!
# `Admission.Correctness.Rooms` — the room of an admitted event

An event says which room it is for in its envelope, and a body of a room kind says it once more. The
gate holds the envelope's room against the room ledger; the body's room is compared with it for a
moderation only. So an event is in its room exactly when it is a moderation or its two rooms are one
(`recorded_inItsRoom`): a message whose envelope names no room passes whoever sent it
(`outsider_recorded`).
-/

namespace Messenger.Admission

open Lib Identity Eventlog
open Envelope (Event)
open Canon (Field)

/-- The room a body is about. -/
def bodyRoom : Payload.Body → Option Bytes
  | ⟨.roomInvite, body⟩ => some (Payload.RoomInvite.roomID body)
  | ⟨.roomMembershipCommit, body⟩ => some (Payload.RoomMembershipCommit.roomID body)
  | ⟨.roomMessage, body⟩ => some (Payload.RoomMessage.roomID body)
  | ⟨.roomModeration, body⟩ => some (Payload.RoomModeration.roomID body)
  | _ => none

/-- Does the room ledger have the Agent outside the room? -/
def Gate.outside (g : Gate) (s : State) (roomID : RoomID) (agentID : AgentID) : Bool :=
  g.tracksRooms && (lookup roomID s.ledgers.rooms).any fun record => agentID ∉ record.members

/-- The room of the envelope is the room of the body. -/
def Gate.NamesBodyRoom (g : Gate) (event : Event) (roomID : RoomID) : Prop :=
  event.roomID = some roomID ∧ ∃ body, Payload.decode g.rules.payload event.kind event.content = .ok body ∧
    bodyRoom body = some (Field.utf8 roomID.text)

/-- **An event in its room**: envelope and body name one room, and the sender is not known to be
    outside it. -/
def Gate.InItsRoom (g : Gate) (s : State) (event : Event) : Prop :=
  ∃ roomID, g.NamesBodyRoom event roomID ∧ g.outside s roomID event.senderAgentID = false

variable {g : Gate} {s : State} {x : Arrival} {p : Gate.Passed}

theorem judgeMember_of_lookup {c : Crypto} {disk : Medium} {d : Rooms} {roomID : RoomID} {agentID : AgentID}
    {record : RoomRecord} {standing : RoomStanding} (hrec : lookup roomID d = some record)
    (h : d.judgeMember c disk roomID agentID = .ok standing) :
    standing = if agentID ∈ record.members then .member else .notMember := by
  obtain ⟨found, hrd, h⟩ := seq_ok.mp h
  obtain ⟨hget, -⟩ := Rooms.read_ok hrd
  rw [hrec] at hget
  subst hget
  dsimp only at h
  split_ifs at h ⊢ with hmbr
  · exact (Except.ok.inj h).symm
  · exact (Except.ok.inj h).symm

/-- The overlay lets no outsider of the envelope's room through. -/
theorem Gate.Checked.not_outside (h : g.Checked s x p) {roomID : RoomID} (hrm : x.inbound.event.roomID = some roomID) :
    g.outside s roomID x.inbound.event.senderAgentID = false := by
  have hchk := h.room
  simp only [Gate.checkRoom, hrm] at hchk
  unfold Gate.outside
  cases htracks : g.tracksRooms with
  | false => rfl
  | true =>
    rw [if_pos htracks] at hchk
    obtain ⟨standing, hsn, hmbr⟩ := seq_ok.mp hchk
    cases hget : lookup roomID s.ledgers.rooms with
    | none => rfl
    | some record =>
      have hjud := judgeMember_of_lookup hget (locally_ok.mp hsn)
      have hmbr := refuseIf_ok.mp hmbr
      split_ifs at hjud with hin
      · simp [hin]
      · exact absurd hjud hmbr

/-- A moderation that has an effect names its body's room. -/
theorem judgeEffect_namesBodyRoom {decision : Option ModerationDecision} (h : g.judgeEffect s x p = .ok decision)
    (hki : x.inbound.event.kind = "room.moderation") : ∃ roomID, g.NamesBodyRoom x.inbound.event roomID := by
  unfold Gate.judgeEffect at h
  split_ifs at h with htracks
  · obtain ⟨found, -, h⟩ := seq_ok.mp h
    cases found with
    | none => cases h
    | some authority =>
      obtain ⟨live, -, h⟩ := seq_ok.mp h
      obtain ⟨body, -, -, hbo, -⟩ := judgeModeration_call (orRefuse_ok.mp h)
      obtain ⟨hrm, -, content, hdecoded, hsm⟩ := readModerationBody_ok hbo
      exact ⟨body.roomID, hrm, ⟨.roomModeration, content⟩, hdecoded, congrArg some hsm⟩
  · cases h

theorem moderate_ok (h : (g.moderate s x p).1 = .ok ()) : ∃ decision, g.judgeEffect s x p = .ok decision := by
  unfold Gate.moderate at h
  split at h
  · cases h
  · next hjud => exact ⟨none, hjud⟩
  · next decision hjud => exact ⟨some decision, hjud⟩

/-- **A recorded event is in its room exactly when it is a moderation or names the room of its
    body.** -/
theorem recorded_inItsRoom (g : Gate) (s : State) (x : Arrival)
    (hrecorded : recorded (g.admitWithCommit s x).1) : g.InItsRoom s x.inbound.event ↔
      x.inbound.event.kind = "room.moderation" ∨ ∃ roomID, g.NamesBodyRoom x.inbound.event roomID := by
  obtain ⟨p, fresh, hchk, -, hfl, -⟩ := Gate.recorded_cases hrecorded
  constructor
  · rintro ⟨roomID, hnames, -⟩
    exact .inr ⟨roomID, hnames⟩
  intro h
  have hnames : ∃ roomID, g.NamesBodyRoom x.inbound.event roomID := by
    rcases h with hki | hnames
    · obtain ⟨decision, hjud⟩ := moderate_ok hfl
      exact judgeEffect_namesBodyRoom hjud hki
    · exact hnames
  obtain ⟨roomID, hnames⟩ := hnames
  exact ⟨roomID, hnames, (Gate.check_ok hchk).not_outside hnames.1⟩

/-! ## An outsider's message -/

/-- Any hash that is cheap to run will do for a fixed gate: the length of what is hashed. -/
def gateWith (policy : ContactPolicy) : Gate where
  crypto := counting
  rules := { payload := Payload.refusing, grantOrigin := fun _ => none }
  env := .plain
  encodeEvent := Event.content
  network := network
  policy
  tracksRooms := true
  localEndpointID := ⟨77⟩
  maxContentBytes := 4096
  maxClockSkewSeconds := 60
  installSalt := List.replicate 16 1
  bounded := by decide
  skewed := by decide
  salted := by decide

def openGate : Gate := gateWith ⟨.openInbox, ⟨[], []⟩⟩

/-- A state in which a room has two members, `1` and `2`. -/
def twoMembers : State where
  journal := Journal.empty
  invites := ∅
  ledgers := run (RoomLedgers.step counting) ⟨∅, ∅⟩ [.room founding]
  devices := ∅

/-- An event with the identifier of its content. -/
def named (draft : Event) : Event :=
  { draft with eventID := ((Envelope.deriveEventID openGate.crypto openGate.rules draft).toOption).getD ⟨0⟩ }

/-- The delegation of an Agent that sends to rooms and conversations. -/
def sendingDelegation (agentID : AgentID) : Delegation :=
  { delegationOf agentID with allowedOutboundEventClasses := ["message", "room"], expiresAt := 10 ^ 9 }

/-- Content of a body that is valid. -/
def contentOf (body : Payload.Body) : Bytes := ((Payload.encode Payload.refusing body).toOption).getD []

/-- A message of an Agent about room `9`. -/
def roomMessage (agentID : AgentID) (roomID : Option RoomID) : Event :=
  named {
    eventID := ⟨0⟩
    network := some network
    conversationID := ⟨5⟩
    senderAgentID := agentID
    senderEndpointID := (delegationOf agentID).endpointID
    senderDeviceID := ⟨6⟩
    roomID
    createdAt := 10
    expiresAt := 0
    kind := "room.message"
    payloadSchema := Payload.RoomMessage.schema
    content := contentOf ⟨.roomMessage,
      { roomID := Field.utf8 (Identifier.text (⟨9⟩ : RoomID)), epoch := 1, mediaType := Payload.lit "text/markdown",
        body := Payload.lit "hi" : Payload.RoomMessage }⟩ }

/-- An event as it comes from its sender at a time. -/
def arriving (event : Event) (receivedAt : UInt64) : Arrival where
  inbound := {
    event
    delegation := some (sendingDelegation event.senderAgentID)
    admissionToken := .absent
    route := .relay
    receivedAt }
  commit := .accept
  committed := fun _ => true

/-- A message about the room from an Agent that is not in it, with no room in its envelope. -/
def outsiderMessage : Event := roomMessage ⟨3⟩ none

theorem recorded_outsiderMessage : recorded (openGate.admitWithCommit twoMembers (arriving outsiderMessage 20)).1 := by
  decide +kernel

theorem recorded_inItsRoom_outsider :
    recorded (openGate.admitWithCommit twoMembers (arriving outsiderMessage 20)).1 ∧
      (openGate.InItsRoom twoMembers outsiderMessage ↔
        outsiderMessage.kind = "room.moderation" ∨ ∃ roomID, openGate.NamesBodyRoom outsiderMessage roomID) :=
  ⟨recorded_outsiderMessage,
    recorded_inItsRoom openGate twoMembers (arriving outsiderMessage 20) recorded_outsiderMessage⟩

/-- **An outsider's message for the room is recorded** when its envelope names no room. -/
theorem outsider_recorded :
    recorded (openGate.admitWithCommit twoMembers (arriving outsiderMessage 20)).1 ∧
      (Payload.decode Payload.refusing outsiderMessage.kind outsiderMessage.content).toOption.bind bodyRoom =
        some (Field.utf8 (Identifier.text (⟨9⟩ : RoomID))) ∧
      openGate.outside twoMembers ⟨9⟩ outsiderMessage.senderAgentID ∧
      ¬openGate.InItsRoom twoMembers outsiderMessage := by
  refine ⟨recorded_outsiderMessage, by decide +kernel, by decide +kernel, ?_⟩
  rintro ⟨roomID, ⟨hrm, -⟩, -⟩
  cases hrm

end Messenger.Admission
