import Messenger.Envelope.Event
import Messenger.Eventlog.Calls
import Messenger.Eventlog.Rooms

/-!
# `Eventlog.Moderation` — deciding a moderation event against the room and role ledgers

`ModerationLedger.Apply` in full (`pkg/eventlog/moderation.go`): the sender's delegation, the event
and its body, the room on record, its role policy, the target message and the revision that is next.
`applyModeration` has the last part of it as a call of the journal, with the verdict of the ledgers
as an argument; `judgeModeration_call` says that what is decided here is what that call does.
-/

namespace Messenger.Eventlog

open Lib Identity
open Envelope (Event)
open Room (verifyRolePolicy)
open Canon (Field)

/-! ## Room standing -/

/-- How an Agent stands against a room's record. -/
inductive RoomStanding where
  | member
  | notMember
  | unknown
  deriving DecidableEq, Repr

variable (j : Journal) (c : Crypto) (disk : Medium)

/-- `JudgeMember`: against the membership on record, whatever its epoch. -/
def Rooms.judgeMember (d : Rooms) (roomID : RoomID) (agentID : AgentID) : Except Failure RoomStanding := do
  match ← d.read c disk roomID with
  | none => pure .unknown
  | some record => if agentID ∈ record.members then pure .member else pure .notMember

/-- `CurrentAuthorityDelegation` -/
def Rooms.currentAuthorityDelegation (d : Rooms) : Option RoomID → Except Failure (Option Delegation)
  | none => .error (.other "invalid room identifier")
  | some roomID => do
    let found ← d.read c disk roomID
    pure (found.map RoomRecord.authorityDelegation)

/-! ## The body of a moderation event -/

/-- The identifier a text spells. -/
def parseID (kind : IdKind) (text : Bytes) : Option (Identifier kind) :=
  if Payload.idPattern kind.tag text then
    (Canon.hexRead (text.drop (Payload.lit kind.tag).length)).map fun raw => ⟨BitVec.ofNat 256 (Canon.ofBigEndian raw)⟩
  else none

/-- A valid text as a string. -/
def textOf (raw : Bytes) : String := (String.fromUTF8? raw.toByteArray).getD ""

variable (rules : Envelope.Rules)

/-- The content as the body of a moderation. -/
def decodeModeration (event : Event) : Except Failure Payload.RoomModeration := do
  match ← Payload.decode rules.payload event.kind event.content with
  | ⟨.roomModeration, body⟩ => pure body
  | _ => .error (.other "invalid room moderation body")

/-- The body about a room and a target. -/
def moderationOf (body : Payload.RoomModeration) (roomID : RoomID) (targetEventID : EventID) : RoomModeration where
  roomID := roomID
  membershipEpoch := body.membershipEpoch.toNat
  rolePolicyRevision := body.rolePolicyRevision.toNat
  targetEventID := targetEventID
  decisionRevision := body.decisionRevision.toNat
  action := if body.action = Payload.lit "hide" then .hide else .restore
  reason := textOf body.reason

/-- The room an event and its body agree on, and the target. -/
def readModerationBody (event : Event) : Except Failure RoomModeration := do
  let body ← decodeModeration rules event
  match event.roomID, parseID .event body.targetEventID with
  | some roomID, some targetEventID =>
    failIf (Field.utf8 roomID.text ≠ body.roomID) "moderation Event names another room"
    pure (moderationOf body roomID targetEventID)
  | _, _ => .error (.other "moderation Event names another room")

/-! ## The decision -/

/-- The policy in force for a decision of the sender, with the room's epoch. -/
def moderationPolicy (l : RoomLedgers) (body : RoomModeration) (senderAgentID : AgentID)
    (authorityDelegation : Delegation) (now : Time) : Except Failure Room.RolePolicy := do
  match ← l.rooms.read c disk body.roomID with
  | none => .error (.other "moderation room is unknown")
  | some record =>
    match ← RoomLedgers.readRoles disk l.roles body.roomID with
    | none => .error (.other "room has no role policy")
    | some policy =>
      failIf (body.membershipEpoch ≠ record.epoch ∨ body.rolePolicyRevision ≠ policy.revision)
        "moderation names stale room authority"
      verifyRolePolicy c policy record.membership record.authority authorityDelegation now
      failIf (¬policy.allows record.membership senderAgentID .moderate) "sender has no room moderation role"
      pure policy

variable {content : Payload.RoomModeration} (target : EventID) (env : Env)

/-- The target is a message of the room. -/
def checkTarget (j : Journal) (body : RoomModeration) : Except Failure Unit :=
  match readRecord env j body.targetEventID with
  | .error .notExist => .error .moderationTargetMissing
  | .error e => .error e
  | .ok target =>
    match env.decodeEvent target.payload with
    | none => .error (.other "invalid moderation target")
    | some header =>
      failIf (header.eventID ≠ body.targetEventID ∨ header.roomID ≠ some body.roomID ∨ header.kind ≠ "room.message")
        "moderation target is not a message in this room"

/-- The decision on record for a target. -/
def priorDecision : Except Failure (Option ModerationDecision) :=
  match readModeration j target with
  | .ok d => .ok (some d)
  | .error .notExist => .ok none
  | .error e => .error e

/-- The next decision about a target. The same event's decision is not made twice: `none`. -/
def nextDecision (decision : ModerationDecision) : Except Failure (Option ModerationDecision) := do
  let prior ← priorDecision j decision.targetEventID
  match prior.filter fun d => d.decisionEventID = decision.decisionEventID with
  | some _ => pure none
  | none => do
    checkRevision prior decision
    pure (some decision)

/-- Judge a moderation event: the decision to file, or `none` for one that is already on record. -/
def judgeModeration (disk : Medium) (j : Journal) (l : RoomLedgers) (event : Event)
    (senderDelegation authorityDelegation : Delegation) (now : Time) : Except Failure
    (Option ModerationDecision) := do
  failIf (now < 0) "invalid moderation time"
  failIf (event.kind ≠ "room.moderation") "event is not room moderation"
  checkWindow senderDelegation now
  Envelope.admittedBy c rules senderDelegation event
  let body ← readModerationBody rules event
  let _ ← moderationPolicy c disk l body event.senderAgentID authorityDelegation now
  checkTarget env j body
  nextDecision j { body with
    decisionEventID := event.eventID
    actorAgentID := event.senderAgentID
    decidedAt := now.toNat }

/-! ## What a decided event is -/

theorem textOf_utf8 {raw : Bytes} (h : Canon.validUTF8 raw) : Field.utf8 (textOf raw) = raw := by
  have hval : raw.toByteArray.IsValidUTF8 := ByteArray.validateUTF8_eq_true_iff.mp h
  unfold textOf String.fromUTF8?
  rw [dif_pos hval]
  show raw.toByteArray.data.toList = raw
  simp

/-- A character of one byte is a byte of the text. -/
theorem byte_mem_utf8 {text : String} {c : Char} (hc : c ∈ text.toList) (hsi : c.utf8Size = 1) :
    c.val.toUInt8 ∈ Field.utf8 text := by
  have hbs : Field.utf8 text = text.toList.flatMap String.utf8EncodeChar := by
    show text.toByteArray.data.toList = _
    rw [← String.utf8Encode_toList]
    simp [List.utf8Encode]
  rw [hbs]
  refine List.mem_flatMap.mpr ⟨c, hc, ?_⟩
  rw [String.utf8EncodeChar_eq_singleton hsi]
  exact List.mem_singleton.mpr rfl

/-- A text that a body requires is valid as a string. -/
theorem requireText_validText {name : String} {raw : Bytes} {maximum : Nat}
    (h : Payload.requireText name raw maximum = .ok ()) : validText maximum (textOf raw) := by
  simp only [Payload.requireText, seq_ok, failIf_ok] at h
  obtain ⟨_, hemp, _, hbd, _, hval, hctl⟩ := h
  push Not at hbd hval hctl
  have hutf8 := textOf_utf8 hval
  have hsi : (textOf raw).utf8ByteSize ≤ maximum := by
    rw [← Field.utf8_length, hutf8]
    exact hbd
  have hchars : ∀ c ∈ (textOf raw).toList, c ≠ '\x00' ∧ c ≠ '\r' := by
    intro c hc
    have hby : c.utf8Size = 1 → c.val.toUInt8 ∈ raw := fun hsi => hutf8 ▸ byte_mem_utf8 hc hsi
    constructor
    · rintro rfl
      exact hctl.1 (hby (by decide))
    · rintro rfl
      exact hctl.2 (hby (by decide))
  have hnem : textOf raw ≠ "" := by
    intro hnil
    rw [hnil] at hutf8
    exact hemp hutf8.symm
  simp only [validText, ne_eq, decide_not, Bool.and_eq_true, Bool.not_eq_true',
    decide_eq_false_iff_not, decide_eq_true_eq, List.all_eq_true]
  exact ⟨⟨hnem, hsi⟩, hchars⟩

variable {rules : Envelope.Rules} {event : Event} {body : RoomModeration}

theorem decodeModeration_ok (h : decodeModeration rules event = .ok content) :
    Payload.decode rules.payload event.kind event.content = .ok ⟨.roomModeration, content⟩ := by
  obtain ⟨decoded, hdecoded, h⟩ := seq_ok.mp h
  split at h
  · cases h
    exact hdecoded
  · cases h

/-- A valid body is valid about any room and target. -/
theorem moderationOf_valid (h : content.validate = .ok ()) (roomID : RoomID) (target : EventID) :
    (moderationOf content roomID target).valid := by
  simp only [Payload.RoomModeration.validate, seq_ok, failIf_ok] at h
  obtain ⟨_, -, _, hrevision, _, -, _, -, hrsn⟩ := h
  push Not at hrevision
  have hnonzero : ∀ {n : UInt64}, n ≠ 0 → n.toNat ≠ 0 := by
    intro n hn hz
    exact hn (UInt64.toNat_inj.mp hz)
  simp only [RoomModeration.valid, moderationOf, Bool.and_eq_true]
  exact ⟨⟨⟨decide_eq_true (hnonzero hrevision.1), decide_eq_true (hnonzero hrevision.2.1)⟩,
    decide_eq_true (hnonzero hrevision.2.2)⟩, requireText_validText hrsn⟩

/-- The body that is decided on was decoded from the content, names the event's room and is valid. -/
theorem readModerationBody_ok (h : readModerationBody rules event = .ok body) :
    event.roomID = some body.roomID ∧ body.valid ∧
      ∃ content : Payload.RoomModeration,
        Payload.decode rules.payload event.kind event.content = .ok ⟨.roomModeration, content⟩ ∧
          content.roomID = Field.utf8 body.roomID.text := by
  obtain ⟨content, hco, h⟩ := seq_ok.mp h
  have hdecoded := decodeModeration_ok hco
  split at h
  · next roomID target hrm htgt =>
    obtain ⟨_, hsm, h⟩ := seq_ok.mp h
    cases h
    have hsm := not_not.mp (failIf_ok.mp hsm)
    have hval : content.validate = .ok () := (Payload.decode_ok hdecoded).2
    exact ⟨hrm, moderationOf_valid hval roomID target, content, hdecoded, hsm.symm⟩
  · cases h

/-- The policy that admits a decision is in force, for the epoch and revision the body names. -/
theorem moderationPolicy_ok {c : Crypto} {disk : Medium} {l : RoomLedgers} {agentID : AgentID}
    {dlg : Delegation} {now : Time} {policy : Room.RolePolicy}
    (h : moderationPolicy c disk l body agentID dlg now = .ok policy) :
    body.membershipEpoch = policy.membershipEpoch ∧ body.rolePolicyRevision = policy.revision ∧
      policy.issuedAt ≠ 0 ∧ policy.issuedAt ≤ now.toNat ∧ now.toNat < policy.expiresAt := by
  obtain ⟨found, -, h⟩ := seq_ok.mp h
  cases found with
  | none => cases h
  | some record =>
    obtain ⟨stored, hsto, h⟩ := seq_ok.mp h
    cases stored with
    | none => cases h
    | some stored =>
      simp only [seq_ok, failIf_ok] at h
      obtain ⟨_, hnamed, _, hvrf, _, -, h⟩ := h
      cases h
      push Not at hnamed
      have hpol := Room.verifyRolePolicy_ok hvrf
      have hiss : policy.issuedAt ≠ 0 := by
        obtain ⟨_, -, hvrf⟩ := seq_ok.mp hvrf
        obtain ⟨_, hval, -⟩ := seq_ok.mp hvrf
        obtain ⟨hfd, -⟩ := failIf_then.mp hval
        push Not at hfd
        exact hfd.2.2.2.1
      exact ⟨hnamed.1.trans hpol.epoch.symm, hnamed.2, hiss, hpol.window.2.1, hpol.window.2.2⟩

theorem checkTarget_ok {env : Env} {j : Journal} (h : checkTarget env j body = .ok ()) :
    ∃ target header, readRecord env j body.targetEventID = .ok target ∧ env.decodeEvent target.payload = some header ∧
      ¬(header.eventID ≠ body.targetEventID ∨ header.roomID ≠ some body.roomID ∨ header.kind ≠ "room.message") := by
  unfold checkTarget at h
  split at h
  · cases h
  · cases h
  · next target hrd =>
    split at h
    · cases h
    next header hdec =>
      exact ⟨target, header, hrd, hdec, failIf_ok.mp h⟩

/-- **What is decided here is what the journal's call does**: it makes the same write, or none, and
    succeeds. -/
theorem judgeModeration_call {c : Crypto} {env : Env} {disk : Medium} {j : Journal} {l : RoomLedgers}
    {sender authority : Delegation} {now : Time} {decision : Option ModerationDecision}
    (h : judgeModeration c rules env disk j l event sender authority now = .ok decision) :
    ∃ body policy d, readModerationBody rules event = .ok body ∧
      applyModeration env ⟨event.eventID, event.roomID, event.senderAgentID, body⟩ (.ok policy) now j =
        ((decision.map (JournalWrite.moderation body.targetEventID)).toList, .ok (decision.isSome, d)) := by
  simp only [judgeModeration, seq_ok, failIf_ok] at h
  obtain ⟨_, hnow, _, -, _, -, _, -, body, hbo, policy, hpol, _, htgt, hnx⟩ := h
  obtain ⟨hrm, hval, -⟩ := readModerationBody_ok hbo
  obtain ⟨hepo, hrevision, hiss, hfrom, huntil⟩ := moderationPolicy_ok hpol
  obtain ⟨target, header, hrd, hdec, hmsg⟩ := checkTarget_ok htgt
  obtain ⟨prior, hpri, hnx⟩ := seq_ok.mp hnx
  have hstale : ¬(body.membershipEpoch ≠ policy.membershipEpoch ∨ body.rolePolicyRevision ≠ policy.revision) := by
    rw [hepo, hrevision]
    simp
  have hwin : ¬(now.toNat < policy.issuedAt ∨ policy.expiresAt ≤ now.toNat) := by omega
  let inForce : RolePolicy := ⟨policy.membershipEpoch, policy.revision, policy.issuedAt, policy.expiresAt, hiss⟩
  let moderation : ModerationEvent := ⟨event.eventID, event.roomID, event.senderAgentID, body⟩
  -- the call passes the same checks and comes to the same prior decision
  have hcl : applyModeration env moderation (.ok inForce) now j =
      (match prior.filter fun d => d.decisionEventID = event.eventID with
        | some d => pure (false, d)
        | none => do
          Durable.lift (checkRevision prior (moderation.decision now.toNat))
          Durable.write (.moderation body.targetEventID (moderation.decision now.toNat))
          pure (true, moderation.decision now.toNat) : Region (Bool × ModerationDecision)) j := by
    unfold applyModeration
    rw [if_neg hnow, if_neg (by simp [moderation, hval]), if_neg (not_not.mpr hrm),
      run_lift_ok_bind, run_read_bind, if_neg hstale, if_neg hwin]
    simp only [moderation, hrd, run_lift_ok_bind, hdec, if_neg hmsg]
    change (Durable.lift (priorDecision j body.targetEventID) >>= _) j = _
    rw [hpri]
    exact run_lift_ok_bind prior _ j
  cases hown : prior.filter fun d => d.decisionEventID = event.eventID with
  | some d =>
    simp only [hown] at hnx hcl
    cases hnx
    exact ⟨body, inForce, d, hbo, hcl⟩
  | none =>
    simp only [hown] at hnx hcl
    obtain ⟨_, hrevision, hnx⟩ := seq_ok.mp hnx
    cases hnx
    refine ⟨body, inForce, moderation.decision now.toNat, hbo, hcl.trans ?_⟩
    have hsm : checkRevision prior (moderation.decision now.toNat) = .ok () := hrevision
    rw [hsm, run_lift_ok_bind, Durable.run_write_bind]
    rfl

end Messenger.Eventlog
