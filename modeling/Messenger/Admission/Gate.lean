import Messenger.Admission.Policy
import Messenger.Eventlog.Devices
import Messenger.Eventlog.Invites
import Messenger.Eventlog.Moderation

/-!
# `Admission.Gate` — whether a decrypted event may reach a runtime

`Gate.admitWithCommit` runs the ordered checks and then up to three durable effects
(`pkg/admission/admit.go`):

- **Checks.** `Gate.check` decides everything that is decided before something is written:
  structure, class, network, time, size, the sender's authority and device, the room overlay, the
  inbox policy, and the payload. It writes nothing.
- **Effects.** An invite is claimed, a moderation decision is filed, and the event is committed, in
  this order. Each of them can fail when the ones before it are on disk.
- **Committing.** `Commit`: the journal's own `Accept`, or the session layer's transaction for an
  established session or a first contact (`pkg/daemon/inbound.go`).

A refusal is a decision, an error is a local failure.
-/

namespace Messenger.Admission

open Lib Identity Eventlog
open Envelope (Event validateEvent classOf localOnly allowsEventClass)

/-- A `time.Unix` of an unsigned word: the upper half is before the epoch. -/
def unixTime (seconds : UInt64) : Time :=
  if seconds.toNat < 2 ^ 63 then seconds.toNat else (seconds.toNat : Int) - 2 ^ 64

/-- How an event arrived. -/
inductive Route where
  | direct
  | tunnel
  | relay
  | https
  deriving DecidableEq, Repr

/-- What the caller should do with the event. -/
inductive Outcome where
  | accepted
  | duplicate
  | held
  | rejected
  deriving DecidableEq, Repr

/-- The privacy-minimized decision record. -/
structure Record where
  eventID : EventID
  senderRef : String
  eventClass : String
  outcome : Outcome
  code : Option Fault.Code
  route : Route
  atUnix : UInt64
  deriving DecidableEq, Repr

/-- The result of one admission run. -/
structure Decision where
  outcome : Outcome
  code : Option Fault.Code := none
  response : Option Fault.Response := none
  delegation : Option Delegation := none
  event : Option Event := none
  record : Record
  deriving DecidableEq, Repr

/-- One decrypted event and the authority presented with it. A delegation that does not decode is
    `none`. -/
structure Inbound where
  event : Event
  delegation : Option Delegation
  admissionToken : AdmissionToken
  route : Route
  receivedAt : UInt64
  deriving DecidableEq, Repr

/-- One gate, as `New` leaves its configuration. -/
structure Gate where
  crypto : Crypto
  rules : Envelope.Rules
  env : Env
  /-- The JSON of a valid event. -/
  encodeEvent : Event → Bytes
  network : Network
  policy : ContactPolicy
  /-- Is there a room ledger? -/
  tracksRooms : Bool
  localEndpointID : EndpointID
  maxContentBytes : Nat
  maxClockSkewSeconds : UInt64
  installSalt : Bytes
  bounded : 0 < maxContentBytes ∧ maxContentBytes ≤ Envelope.maxContentBytes
  skewed : maxClockSkewSeconds ≠ 0
  salted : 16 ≤ installSalt.length

/-- What the gate reads and writes: the journal, and the ledgers beside it. -/
structure State where
  journal : Journal
  invites : Invites
  ledgers : RoomLedgers
  devices : Devices

/-- How the reads and writes of one call end. -/
structure Disk where
  devices : Medium := {}
  rooms : Medium := {}
  invites : Medium := {}
  moderation : Medium := {}
  /-- The commit of the event fails once this many of its writes are on disk. -/
  commit : Option Nat := none
  deriving DecidableEq, Repr

/-- Who commits an admitted event. -/
inductive Commit where
  | accept
  | session (sessionID : SessionID) (algorithm : AlgorithmID) (expectedGeneration : Nat) (next : Bytes) (now : Time)
  | firstContact (sessionID : SessionID) (algorithm : AlgorithmID) (next : Bytes) (bootstrap : FirstContact)
    (now : Time)
  deriving DecidableEq, Repr

/-- One call of the gate. -/
structure Arrival where
  inbound : Inbound
  commit : Commit
  /-- The finalized state while the call runs: which delegations a live Agent commits. -/
  committed : Delegation → Bool
  disk : Disk := {}

/-- Why a call stops before its end: a local failure, or a refusal with what is known by then. -/
inductive Stop where
  | failed (e : Failure)
  | refused (code : Fault.Code) (eventClass : String) (delegation : Option Delegation)
  deriving DecidableEq, Repr

variable {s : State} {α : Type}

/-- A refusal. -/
def refuse (code : Fault.Code) (eventClass : String) (delegation : Option Delegation := none) :
    Except Stop α := .error (.refused code eventClass delegation)

def refuseIf (p : Prop) [Decidable p] (code : Fault.Code) (eventClass : String)
    (delegation : Option Delegation := none) : Except Stop Unit :=
  if p then refuse code eventClass delegation else .ok ()

/-- A local failure stays one. -/
def locally : Except Failure α → Except Stop α
  | .ok a => .ok a
  | .error e => .error (.failed e)

/-- A failed check is a refusal. -/
def orRefuse (x : Except Failure α) (code : Fault.Code) (eventClass : String)
    (delegation : Option Delegation := none) : Except Stop α :=
  match x with
  | .ok a => .ok a
  | .error _ => refuse code eventClass delegation

/-! ## Authority and time -/

/-- `identity.Verify`: the network is the caller's, the finalized Agent commits the delegation, and
    it is in its window. -/
def verifyDelegation (network : Network) (committed : Delegation → Bool) (delegation : Delegation)
    (now : Time) : Except Failure Delegation := do
  failIf (¬network.valid) "invalid delegation network domain"
  failIf (delegation.network ≠ some network) "delegation network tuple mismatch"
  failIf (¬committed delegation) "delegation is not committed by the finalized Agent"
  checkWindow delegation now
  pure delegation

/-- When the event came. -/
def Arrival.now (x : Arrival) : Time := unixTime x.inbound.receivedAt

namespace Gate
variable (g : Gate) (s : State) (x : Arrival) (eventClass : String)

/-- The sender's delegation from finalized state. Its window is looked at first, so that an expired
    one says so. -/
def authority : Except Stop Delegation :=
  match x.inbound.delegation with
  | none => refuse .delegationUncommitted eventClass
  | some delegation => do
    orRefuse (checkWindow delegation x.now) .delegationExpired eventClass
    orRefuse (verifyDelegation g.network x.committed delegation x.now) .delegationUncommitted eventClass

/-- The event is not from the future and has not expired. The sum is a machine word. -/
def withinWindow (inbound : Inbound) : Bool :=
  !(decide (inbound.receivedAt + g.maxClockSkewSeconds < inbound.event.createdAt) ||
    (decide (inbound.event.expiresAt ≠ 0) && decide (inbound.event.expiresAt ≤ inbound.receivedAt)))

/-! ## The checks before anything is written -/

/-- A room-addressed event from someone the room ledger knows not to be a member. -/
def checkRoom : Except Stop Unit :=
  match x.inbound.event.roomID with
  | none => .ok ()
  | some roomID =>
    if g.tracksRooms then do
      let standing ← locally (s.ledgers.rooms.judgeMember g.crypto x.disk.rooms roomID x.inbound.event.senderAgentID)
      refuseIf (standing = .notMember) .notARoomMember eventClass
    else .ok ()

/-- The use of the invite that came with the event. -/
def inviteUse : InviteUse where
  token := x.inbound.admissionToken
  recipientEndpointID := g.localEndpointID
  senderAgentID := x.inbound.event.senderAgentID
  eventID := x.inbound.event.eventID
  now := x.now

/-- Does the policy leave room for an invite, and is there a usable one? -/
def invited : Bool :=
  let admission := g.policy.admits x.inbound.event.senderAgentID
  (admission = .requireAdmission || admission = .inviteOrHold) && x.inbound.admissionToken ≠ .absent &&
    (s.invites.check g.crypto x.disk.invites (g.inviteUse x)).toOption.isSome

/-- What the policy comes to, with or without the invite. -/
def admission (s : State) (x : Arrival) : InboxAdmission :=
  if g.invited s x then .allow
  else
    match g.policy.admits x.inbound.event.senderAgentID with
    | .inviteOrHold => .holdForApproval
    | admission => admission

/-- The inbox policy. A moderation cannot wait for the owner. -/
def checkPolicy (delegation : Delegation) : Except Stop AdmissionState := do
  let admission := g.admission s x
  refuseIf (x.inbound.event.kind = "room.moderation" ∧ admission ≠ .allow) .admissionRequired eventClass
    (some delegation)
  match admission with
  | .allow => pure .admitted
  | .holdForApproval => pure .pending
  | admission => do
    let code ← locally (codeFor admission)
    refuse code eventClass (some delegation)

/-- What is known of an event that passed every check. -/
structure Passed where
  eventClass : String
  delegation : Delegation
  usedInvite : Bool
  admission : AdmissionState
  deriving DecidableEq, Repr

variable (p : Passed)

/-- Everything up to the first write. -/
def check : Except Stop Passed := do
  let event := x.inbound.event
  locally (failIf (x.inbound.receivedAt = 0) "invalid arrival time")
  orRefuse (validateEvent g.crypto g.rules event) .senderMismatch ""
  match classOf event.kind with
  | none => refuse .unknownEventKind ""
  | some eventClass => do
    refuseIf (localOnly event.kind) .unknownEventKind eventClass
    refuseIf (event.network ≠ some g.network) .networkMismatch eventClass
    refuseIf (¬g.withinWindow x.inbound) .eventOutsideWindow eventClass
    refuseIf (g.maxContentBytes < event.content.length) .contentTooLarge eventClass
    let delegation ← g.authority x eventClass
    refuseIf (event.senderAgentID ≠ delegation.agentID ∨ event.senderEndpointID ≠ delegation.endpointID)
      .senderMismatch eventClass
    let standing ← locally (s.devices.judge x.disk.devices delegation.endpointID event.senderDeviceID)
    refuseIf (standing = .revoked) .deviceRevoked eventClass
    g.checkRoom s x eventClass
    refuseIf (¬allowsEventClass delegation eventClass) .classNotDelegated eventClass
    let admission ← g.checkPolicy s x eventClass delegation
    orRefuse (Payload.validate g.rules.payload event.kind event.content) .payloadMalformed eventClass (some delegation)
    pure ⟨eventClass, delegation, g.invited s x, admission⟩

/-! ## Answers -/

/-- A reference to a sender that only this installation can make. -/
def senderRef (agentID : AgentID) : String :=
  let digest := g.crypto.sum256 (Canon.preimage "" [.bytes g.installSalt, .text agentID.text])
  "ref_" ++ Canon.hexEncode ((Canon.bigEndian 32 digest.toNat).take 8)

def record (outcome : Outcome) (code : Option Fault.Code) : Record where
  eventID := x.inbound.event.eventID
  senderRef := g.senderRef x.inbound.event.senderAgentID
  eventClass := eventClass
  outcome := outcome
  code := code
  route := x.inbound.route
  atUnix := x.inbound.receivedAt

/-- What a call that stopped returns. -/
def stopped : Stop → Except Failure Decision
  | .failed e => .error e
  | .refused code eventClass delegation => .ok
    { outcome := .rejected
      code := some code
      response := some (Fault.peerCode code 0)
      delegation := delegation
      record := g.record x eventClass .rejected (some code) }

/-- What a call that committed its event returns. -/
def committed (fresh : Bool) : Decision :=
  if p.admission = .pending ∧ fresh then
    { outcome := .held
      code := some .approvalRequired
      response := some (Fault.peerCode .approvalRequired 0)
      delegation := some p.delegation
      event := some x.inbound.event
      record := g.record x p.eventClass .held (some .approvalRequired) }
  else
    let outcome : Outcome := if fresh then .accepted else .duplicate
    { outcome
      delegation := some p.delegation
      event := some x.inbound.event
      record := g.record x p.eventClass outcome none }

/-- A commit that failed: two of its errors are told to the sender. -/
def commitRefusal : Failure → Stop
  | .conflict => .refused .replayed p.eventClass none
  | .pendingFull => .refused .quotaExceeded p.eventClass none
  | e => .failed e

/-! ## The durable effects -/

/-- Claim the invite that was used. -/
def claimInvite : Except Failure Unit × Invites :=
  if p.usedInvite then
    let claimed := s.invites.claim g.crypto x.disk.invites (g.inviteUse x)
    (claimed.1.map fun _ => (), claimed.2)
  else (.ok (), s.invites)

/-- What a moderation event comes to: `none` if there is nothing to file. The room's authority is
    verified again against finalized state. -/
def judgeEffect : Except Stop (Option ModerationDecision) :=
  if x.inbound.event.kind = "room.moderation" then
    if g.tracksRooms then do
      let found ← locally (s.ledgers.rooms.currentAuthorityDelegation g.crypto x.disk.rooms x.inbound.event.roomID)
      match found with
      | none => refuse .notAuthentic p.eventClass (some p.delegation)
      | some authority => do
        let live ← orRefuse (verifyDelegation g.network x.committed authority x.now) .notAuthentic p.eventClass
          (some p.delegation)
        orRefuse (judgeModeration g.crypto g.rules g.env x.disk.moderation s.journal s.ledgers x.inbound.event
          p.delegation live x.now) .notAuthentic p.eventClass (some p.delegation)
    else refuse .notAuthentic p.eventClass (some p.delegation)
  else .ok none

/-- The journal with a decision filed. -/
def fileDecision (j : Journal) (decision : ModerationDecision) : Journal :=
  { j with moderation := j.moderation.insert decision.targetEventID decision }

/-- File the decision of a moderation event. -/
def moderate : Except Stop Unit × Journal :=
  match g.judgeEffect s x p with
  | .error stop => (.error stop, s.journal)
  | .ok none => (.ok (), s.journal)
  | .ok (some decision) =>
    (orRefuse (x.disk.moderation.written.result "commit event transition") .notAuthentic p.eventClass
      (some p.delegation), x.disk.moderation.written.put s.journal (fileDecision s.journal decision))

/-- The journal entry of an event. -/
def entry : Entry where
  eventID := x.inbound.event.eventID
  senderEndpointID := x.inbound.event.senderEndpointID
  conversationID := x.inbound.event.conversationID
  payload := g.encodeEvent x.inbound.event
  admission := p.admission
  receivedAt := x.inbound.receivedAt.toNat
  expiresAt := x.inbound.event.expiresAt.toNat
  transition := none

end Gate

/-- The transaction that commits an entry. The flag says whether the entry is new. -/
def Commit.region (env : Env) (entry : Entry) : Commit → Region Bool
  | .accept => do
    let accepted ← Eventlog.accept env entry
    pure accepted.1
  | .session sessionID algorithm expectedGeneration next now => do
    let committed ← commitInbound (inboundRequest env sessionID algorithm expectedGeneration next entry now)
    pure committed.1
  | .firstContact sessionID algorithm next bootstrap now =>
    match firstContactRequest env sessionID algorithm next entry bootstrap now with
    | .error e => Durable.fail e
    | .ok request => do
      let committed ← commitInbound request
      pure committed.1

/-- The transaction on a disk that may fail in the middle of it. -/
def Commit.run (env : Env) (entry : Entry) (j : Journal) (commit : Commit) (fault : Option Nat) :
    Except Failure Bool × Journal :=
  match fault, (commit.region env entry).writes j with
  | some k, w :: ws => (.error (.other "commit event transition"), puts j ((w :: ws).take k))
  | _, _ => ((commit.region env entry).outcome j, (commit.region env entry).final j)

namespace Gate
variable (g : Gate) (s : State) (x : Arrival)

/-- Commit the event and answer. -/
def commitEvent (p : Passed) : Except Failure Decision × State :=
  let committed := x.commit.run g.env (g.entry x p) s.journal x.disk.commit
  (match committed.1 with
    | .error e => g.stopped x (commitRefusal p e)
    | .ok fresh => .ok (g.committed x p fresh),
    { s with journal := committed.2 })

/-- File the decision, then commit. -/
def proceed (p : Passed) : Except Failure Decision × State :=
  let moderated := g.moderate s x p
  match moderated.1 with
  | .error stop => (g.stopped x stop, { s with journal := moderated.2 })
  | .ok _ => g.commitEvent { s with journal := moderated.2 } x p

/-- `AdmitWithCommit`, and with `Commit.accept` the source's `Admit`: run the ordered checks, then
    the effects. -/
def admitWithCommit : Except Failure Decision × State :=
  match g.check s x with
  | .error stop => (g.stopped x stop, s)
  | .ok p =>
    let claimed := g.claimInvite s x p
    match claimed.1 with
    | .error _ =>
      (g.stopped x (.refused .admissionRequired p.eventClass (some p.delegation)), { s with invites := claimed.2 })
    | .ok _ => g.proceed { s with invites := claimed.2 } x p

end Gate

/-- The event is on record after the call: it was neither refused nor lost to a failure. -/
def recorded : Except Failure Decision → Bool
  | .ok decision => decision.outcome ≠ .rejected
  | .error _ => false

/-! ## What the checks establish -/

variable {eventClass : String} {x : Arrival} {g : Gate} {p : Gate.Passed}

theorem refuseIf_ok {p : Prop} [Decidable p] {code : Fault.Code} {dlg : Option Delegation}
    {u : Unit} : refuseIf p code eventClass dlg = .ok u ↔ ¬p := by
  unfold refuseIf refuse
  split_ifs with hp
  · simp [hp]
  · simp [hp]

theorem locally_ok {x : Except Failure α} {a : α} : locally x = .ok a ↔ x = .ok a := by
  cases x with
  | error e => exact ⟨fun h => (by cases h), fun h => (by cases h)⟩
  | ok b => exact ⟨fun h => congrArg Except.ok (Except.ok.inj h), fun h => congrArg Except.ok (Except.ok.inj h)⟩

theorem orRefuse_ok {x : Except Failure α} {code : Fault.Code} {dlg : Option Delegation} {a : α} :
    orRefuse x code eventClass dlg = .ok a ↔ x = .ok a := by
  cases x with
  | error e => exact ⟨fun h => (by cases h), fun h => (by cases h)⟩
  | ok b => exact ⟨fun h => congrArg Except.ok (Except.ok.inj h), fun h => congrArg Except.ok (Except.ok.inj h)⟩

/-- A time inside a window is the word it was made from. -/
theorem unixTime_of_nonneg {sec : UInt64} (h : 0 ≤ unixTime sec) :
    unixTime sec = sec.toNat ∧ sec.toNat < 2 ^ 63 := by
  unfold unixTime at h ⊢
  have hlt := sec.toNat_lt
  split_ifs at h ⊢ with hlow
  · exact ⟨rfl, hlow⟩
  · have hnonneg : (0 : Int) ≤ (sec.toNat : Int) - 2 ^ 64 := h
    omega

/-- **What is known of an event that passed**, check by check. -/
structure Gate.Checked (g : Gate) (s : State) (x : Arrival) (p : Gate.Passed) : Prop where
  received : x.inbound.receivedAt ≠ 0
  valid : validateEvent g.crypto g.rules x.inbound.event = .ok ()
  classified : classOf x.inbound.event.kind = some p.eventClass
  remote : ¬localOnly x.inbound.event.kind
  network : x.inbound.event.network = some g.network
  window : g.withinWindow x.inbound
  size : x.inbound.event.content.length ≤ g.maxContentBytes
  authority : g.authority x p.eventClass = .ok p.delegation
  sender : x.inbound.event.senderAgentID = p.delegation.agentID ∧
    x.inbound.event.senderEndpointID = p.delegation.endpointID
  device : ∃ standing, s.devices.judge x.disk.devices p.delegation.endpointID x.inbound.event.senderDeviceID =
    .ok standing ∧ standing ≠ .revoked
  room : g.checkRoom s x p.eventClass = .ok ()
  delegated : allowsEventClass p.delegation p.eventClass
  policy : g.checkPolicy s x p.eventClass p.delegation = .ok p.admission
  payload : Payload.validate g.rules.payload x.inbound.event.kind x.inbound.event.content = .ok ()
  invite : p.usedInvite = g.invited s x

theorem checkWindow_nonneg {d : Delegation} {now : Time} (h : checkWindow d now = .ok ()) : 0 ≤ now := by
  obtain ⟨hnow, -⟩ := failIf_then.mp h
  exact not_lt.mp hnow

theorem Gate.authority_ok {dlg : Delegation}
    (h : g.authority x eventClass = .ok dlg) : 0 ≤ x.now := by
  unfold Gate.authority at h
  split at h
  · cases h
  · obtain ⟨_, hwin, -⟩ := seq_ok.mp h
    exact checkWindow_nonneg (orRefuse_ok.mp hwin)

theorem Gate.check_ok (h : g.check s x = .ok p) : g.Checked s x p := by
  obtain ⟨_, hrcv, h⟩ := seq_ok.mp h
  obtain ⟨_, hval, h⟩ := seq_ok.mp h
  split at h
  · cases h
  next eventClass hcls =>
    simp only [seq_ok] at h
    obtain ⟨_, hremove, _, hnet, _, hwin, _, hsi, dlg, hauth, _, hsender, standing, hdev, _, hsn, _,
      hrm, _, hdlg, admission, hpol, _, hpay, h⟩ := h
    cases h
    have hsender := refuseIf_ok.mp hsender
    push Not at hsender
    exact
      { received := failIf_ok.mp (locally_ok.mp hrcv)
        valid := orRefuse_ok.mp hval
        classified := hcls
        remote := refuseIf_ok.mp hremove
        network := not_not.mp (refuseIf_ok.mp hnet)
        window := not_not.mp (refuseIf_ok.mp hwin)
        size := not_lt.mp (refuseIf_ok.mp hsi)
        authority := hauth
        sender := hsender
        device := ⟨standing, locally_ok.mp hdev, refuseIf_ok.mp hsn⟩
        room := hrm
        delegated := not_not.mp (refuseIf_ok.mp hdlg)
        policy := hpol
        payload := orRefuse_ok.mp hpay
        invite := rfl }

theorem Gate.Checked.live (h : g.Checked s x p) : 0 ≤ x.now :=
  Gate.authority_ok h.authority

/-- An admitted event has not expired, unless it never does. -/
theorem Gate.Checked.unexpired (h : g.Checked s x p) : x.inbound.event.expiresAt = 0 ∨
    x.inbound.receivedAt < x.inbound.event.expiresAt := by
  have hwin := h.window
  simp only [Gate.withinWindow, Bool.not_eq_true', Bool.or_eq_false_iff, Bool.and_eq_false_iff,
    decide_eq_false_iff_not, not_not, UInt64.not_le] at hwin
  exact hwin.2

/-! ## What a call does -/

variable {g : Gate} {s : State} {x : Arrival} {p : Gate.Passed}

theorem recorded_stopped (stop : Stop) : recorded (g.stopped x stop) = false := by
  cases stop with
  | failed e => rfl
  | refused code eventClass dlg => rfl

/-- The state once the invite of an event is claimed and its decision is filed. -/
def Gate.effected (g : Gate) (s : State) (x : Arrival) (p : Gate.Passed) : State :=
  { s with invites := (g.claimInvite s x p).2, journal := (g.moderate s x p).2 }

/-- **The ways a call ends**: a check stops it, the invite cannot be claimed, the decision cannot be
    filed, or the event goes to its commit. -/
theorem Gate.admitWithCommit_cases (g : Gate) (s : State) (x : Arrival) :
    (∃ stop, g.check s x = .error stop ∧ g.admitWithCommit s x = (g.stopped x stop, s)) ∨
      ∃ p, g.check s x = .ok p ∧
        ((∃ e, (g.claimInvite s x p).1 = .error e ∧
            g.admitWithCommit s x = (g.stopped x (.refused .admissionRequired p.eventClass (some p.delegation)),
              { s with invites := (g.claimInvite s x p).2 })) ∨
          (g.claimInvite s x p).1 = .ok () ∧
            ((∃ stop, (g.moderate s x p).1 = .error stop ∧
                g.admitWithCommit s x = (g.stopped x stop, g.effected s x p)) ∨
              (g.moderate s x p).1 = .ok () ∧ g.admitWithCommit s x = g.commitEvent (g.effected s x p) x p)) := by
  cases hchk : g.check s x with
  | error stop =>
    refine .inl ⟨stop, rfl, ?_⟩
    simp only [Gate.admitWithCommit, hchk]
  | ok p =>
    refine .inr ⟨p, rfl, ?_⟩
    cases hclm : (g.claimInvite s x p).1 with
    | error e =>
      refine .inl ⟨e, rfl, ?_⟩
      simp only [Gate.admitWithCommit, hchk, hclm]
    | ok u =>
      refine .inr ⟨rfl, ?_⟩
      -- neither the claim nor the filing reads what the other writes
      have hprocess : g.admitWithCommit s x = g.proceed { s with invites := (g.claimInvite s x p).2 } x p := by
        simp only [Gate.admitWithCommit, hchk, hclm]
      have hmoderation : g.moderate { s with invites := (g.claimInvite s x p).2 } x p = g.moderate s x p := rfl
      cases hfl : (g.moderate s x p).1 with
      | error stop =>
        refine .inl ⟨stop, rfl, ?_⟩
        rw [hprocess]
        simp only [Gate.proceed, hmoderation, hfl]
        rfl
      | ok u =>
        refine .inr ⟨rfl, ?_⟩
        rw [hprocess]
        simp only [Gate.proceed, hmoderation, hfl]
        rfl

/-- **What a recorded event has behind it**: it passed every check and effect, and its commit says
    whether it is new. -/
theorem Gate.recorded_cases (h : recorded (g.admitWithCommit s x).1) :
    ∃ p fresh, g.check s x = .ok p ∧ (g.claimInvite s x p).1 = .ok () ∧ (g.moderate s x p).1 = .ok () ∧
      (x.commit.run g.env (g.entry x p) (g.moderate s x p).2 x.disk.commit).1 = .ok fresh ∧
      g.admitWithCommit s x = (.ok (g.committed x p fresh),
        { g.effected s x p with
          journal := (x.commit.run g.env (g.entry x p) (g.moderate s x p).2 x.disk.commit).2 }) := by
  rcases g.admitWithCommit_cases s x with ⟨stop, -, hadm⟩ | ⟨p, hchk, hre⟩
  · rw [hadm, recorded_stopped] at h
    cases h
  rcases hre with ⟨e, -, hadm⟩ | ⟨hclm, ⟨stop, -, hadm⟩ | ⟨hfl, hadm⟩⟩
  · rw [hadm, recorded_stopped] at h
    cases h
  · rw [hadm, recorded_stopped] at h
    cases h
  cases hrun : (x.commit.run g.env (g.entry x p) (g.moderate s x p).2 x.disk.commit).1 with
  | error e =>
    have hans : (g.commitEvent (g.effected s x p) x p).1 = g.stopped x (commitRefusal p e) := by
      simp only [Gate.commitEvent, Gate.effected, hrun]
    rw [hadm, hans, recorded_stopped] at h
    cases h
  | ok fresh =>
    refine ⟨p, fresh, hchk, hclm, hfl, hrun, hadm.trans ?_⟩
    simp only [Gate.commitEvent, Gate.effected, hrun]

end Messenger.Admission
