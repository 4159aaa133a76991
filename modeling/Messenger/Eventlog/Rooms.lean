import Messenger.Eventlog.Negotiations
import Messenger.Room.Roles

/-!
# `Eventlog.Rooms` — the room ledger and the role ledger

One record a room: the current epoch with its members and its authority (`pkg/eventlog/rooms.go`),
and beside it the last role policy (`pkg/eventlog/room_roles.go`). A call judges a successor against
the record and replaces the record in the same critical section.

- **Reads.** A record is checked against its own digest whenever it is read. A read can fail
  (`Medium.readable`).
- **Writes.** A call that is accepted replaces one record by `commitRecord`; how the write ends is
  `Written`.
- **What an accepted call is.** `advance_cases` and `transferAuthority_cases` say what a decision
  for a new record implies; nothing else is proved about the two bodies.
-/

namespace Messenger.Eventlog

open Lib Identity
open Room (Membership MembershipAuthorization AuthorityTransfer Action verifyMembershipAuthorization
  verifyAuthorityTransfer verifyRolePolicy validateRolePolicy)

/-! ## Records -/

/-- What the installation holds for one room. The delegation is the one the authority was verified
    with. -/
structure RoomRecord where
  roomID : RoomID
  epoch : Nat
  membershipDigest : BitVec 256
  members : List AgentID
  authority : Room.Authority
  authorityDelegation : Delegation
  updatedAt : Nat
  deriving DecidableEq, Repr

/-- The record as a membership. -/
def RoomRecord.membership (r : RoomRecord) : Membership := ⟨r.roomID, r.epoch, r.members, r.membershipDigest⟩

abbrev Rooms := Dir RoomID RoomRecord

/-- The outcome of advancing a room. -/
structure RoomTransition where
  membership : Membership
  joined : List AgentID
  departed : List AgentID
  authority : Room.Authority
  deriving DecidableEq, Repr

/-- Who joined and who departed between two member sets. -/
def diffMembers (prior next : List AgentID) : List AgentID × List AgentID :=
  (next.filter (· ∉ prior), prior.filter (· ∉ next))

namespace Rooms

/-- The record of a room, checked against its own commitment. -/
def read (c : Crypto) (disk : Medium) (d : Rooms) (roomID : RoomID) : Except Failure (Option RoomRecord) := do
  failIf (¬disk.readable) "read room record"
  match lookup roomID d with
  | none => pure none
  | some record =>
    failIf (record.roomID ≠ roomID) "room record describes another room"
    failIf (record.authorityDelegation.network = none ∨ record.authorityDelegation.agentID ≠ record.authority.agentID ∨
      record.authorityDelegation.endpointID ≠ record.authority.endpointID)
      "room authority delegation does not match its authority"
    let digest ← Room.digest c record.roomID record.epoch record.members
    failIf (digest ≠ record.membershipDigest) "room record's digest does not match its members"
    failIf (record.authority.agentID ∉ record.members) "room authority is not a current member"
    pure (some record)

/-! ## The two transitions -/

/-- The rule of succession for a membership signed by `actor`; the members of the epoch before. -/
def succession (next : Membership) (actor : Room.Authority) : Option RoomRecord → Except Failure (List AgentID)
  | none => do
    failIf (next.epoch ≠ 1) "a room's first epoch must be epoch 1"
    failIf (actor.agentID ∉ next.members) "a room's founding authority must be a member"
    pure []
  | some record => do
    failIf (next.roomID ≠ record.roomID) "the successor names another room"
    if next.epoch ≤ record.epoch then .error .roomRollback
    else if next.epoch ≠ succ64 record.epoch then .error .roomGap
    else do
      failIf (actor ≠ record.authority) "only the current room authority may advance membership"
      failIf (actor.agentID ∉ next.members) "the current authority cannot leave without a signed transfer"
      pure record.members

variable (c : Crypto) (disk : Medium) (next : Membership)

/-- Judge a successor membership: the transition and the record that holds it. -/
def judgeAdvance (authorization : MembershipAuthorization) (delegation : Delegation) (now : Time)
    (d : Rooms) : Except Failure (RoomTransition × RoomRecord) := do
  failIf (now < 0) "invalid time"
  verifyMembershipAuthorization c next authorization delegation now
  let actor := authorization.authority
  let commitment ← next.announce c
  let found ← d.read c disk next.roomID
  let prior ← succession next actor found
  let (joined, departed) := diffMembers prior next.members
  failIf (found.isSome ∧ joined = [] ∧ departed = []) "a room epoch must change its membership"
  pure (⟨next, joined, departed, actor⟩,
    { roomID := next.roomID, epoch := next.epoch, membershipDigest := commitment.membershipDigest,
      members := next.members, authority := actor, authorityDelegation := delegation, updatedAt := now.toNat })

/-- Judge a successor membership under a signed change of authority. -/
def judgeTransfer (transfer : AuthorityTransfer) (currentDelegation nextDelegation : Delegation)
    (now : Time) (d : Rooms) : Except Failure (RoomTransition × RoomRecord) := do
  failIf (now < 0) "invalid time"
  let _ ← next.announce c
  match ← d.read c disk next.roomID with
  | none => .error (.other "cannot transfer authority for an unknown room")
  | some record =>
    if next.epoch ≤ record.epoch then .error .roomRollback
    else if next.epoch ≠ succ64 record.epoch then .error .roomGap
    else do
      verifyAuthorityTransfer c record.authority record.membership next transfer currentDelegation nextDelegation now
      let (joined, departed) := diffMembers record.members next.members
      pure (⟨next, joined, departed, transfer.toAuthority⟩,
        { roomID := next.roomID, epoch := next.epoch, membershipDigest := next.digest, members := next.members,
          authority := transfer.toAuthority, authorityDelegation := nextDelegation, updatedAt := now.toNat })

/-- Replace the room's record by what was decided. -/
def commitRecord (d : Rooms) : Except Failure (RoomTransition × RoomRecord) → Except Failure RoomTransition × Rooms
  | .error e => (.error e, d)
  | .ok (transition, record) =>
    ((disk.written.result "commit event transition").map fun _ => transition,
      disk.written.put d (d.insert record.roomID record))

end Rooms

/-- A call of the room ledger that may change it. -/
inductive RoomCall where
  | advance (next : Membership) (authorization : MembershipAuthorization) (delegation : Delegation) (now : Time)
      (disk : Medium)
  | transferAuthority (next : Membership) (transfer : AuthorityTransfer) (currentDelegation nextDelegation : Delegation)
      (now : Time) (disk : Medium)
  deriving DecidableEq, Repr

namespace RoomCall

/-- The membership a call presents. -/
def next : RoomCall → Membership
  | .advance next .. => next
  | .transferAuthority next .. => next

def disk : RoomCall → Medium
  | .advance _ _ _ _ disk => disk
  | .transferAuthority _ _ _ _ _ disk => disk

/-- What the ledger decides. -/
def judge (c : Crypto) (d : Rooms) : RoomCall → Except Failure (RoomTransition × RoomRecord)
  | .advance next authorization delegation now disk => d.judgeAdvance c disk next authorization delegation now
  | .transferAuthority next transfer currentDelegation nextDelegation now disk =>
    d.judgeTransfer c disk next transfer currentDelegation nextDelegation now

/-- One call: the answer and the ledger afterwards. -/
def serve (c : Crypto) (d : Rooms) (call : RoomCall) : Except Failure RoomTransition × Rooms :=
  d.commitRecord call.disk (call.judge c d)

end RoomCall

/-! ## Role policies -/

abbrev Roles := Dir RoomID Room.RolePolicy

/-- The two ledgers, which share the journal's lock. -/
structure RoomLedgers where
  rooms : Rooms
  roles : Roles

namespace RoomLedgers

/-- The last policy of a room; it is validated again when it is read. -/
def readRoles (disk : Medium) (roles : Roles) (roomID : RoomID) : Except Failure (Option Room.RolePolicy) := do
  failIf (¬disk.readable) "read room role policy"
  match lookup roomID roles with
  | none => pure none
  | some policy =>
    validateRolePolicy policy true
    failIf (policy.roomID ≠ roomID) "room role policy is stored under another room"
    pure (some policy)

/-- The rule of succession for policy revisions. -/
def revisionFollows (policy : Room.RolePolicy) : Option Room.RolePolicy → Except Failure Unit
  | none => failIf (policy.revision ≠ 1) "a room's first role-policy revision must be 1"
  | some prior =>
    if policy.revision ≤ prior.revision then .error .roomRoleRollback
    else if policy.revision ≠ succ64 prior.revision then .error .roomRoleGap
    else .ok ()

variable (c : Crypto) (disk : Medium)

/-- Judge the next role policy of a room. -/
def judgeRoles (policy : Room.RolePolicy) (delegation : Delegation) (now : Time) (l : RoomLedgers) :
    Except Failure Unit := do
  failIf (now < 0) "invalid room role-policy time"
  match ← l.rooms.read c disk policy.roomID with
  | none => .error (.other "cannot assign roles for an unknown room")
  | some record =>
    verifyRolePolicy c policy record.membership record.authority delegation now
    let prior ← readRoles disk l.roles policy.roomID
    revisionFollows policy prior

/-- Verify and record exactly the next role revision. -/
def advanceRoles (policy : Room.RolePolicy) (delegation : Delegation) (now : Time)
    (l : RoomLedgers) : Except Failure Room.RolePolicy × RoomLedgers :=
  match l.judgeRoles c disk policy delegation now with
  | .error e => (.error e, l)
  | .ok _ =>
    ((disk.written.result "commit event transition").map fun _ => policy,
      { l with roles := disk.written.put l.roles (l.roles.insert policy.roomID policy) })

/-- May this Agent do this now? The stored policy is bound again to the current room. -/
def allowsCurrent (l : RoomLedgers) (roomID : RoomID) (agentID : AgentID) (action : Action)
    (delegation : Delegation) (now : Time) : Except Failure Bool := do
  match ← readRoles disk l.roles roomID with
  | none => pure false
  | some policy =>
    match ← l.rooms.read c disk roomID with
    | none => pure false
    | some record =>
      verifyRolePolicy c policy record.membership record.authority delegation now
      pure (policy.allows record.membership agentID action)

end RoomLedgers

/-- A call of either ledger that may change it. -/
inductive LedgerCall where
  | room (call : RoomCall)
  | roles (policy : Room.RolePolicy) (delegation : Delegation) (now : Time) (disk : Medium)
  deriving DecidableEq, Repr

/-- The ledgers after a call. -/
def RoomLedgers.step (c : Crypto) (l : RoomLedgers) : LedgerCall → RoomLedgers
  | .room call => { l with rooms := (call.serve c l.rooms).2 }
  | .roles policy delegation now disk => (l.advanceRoles c disk policy delegation now).2

/-! ## What a decision implies -/

variable {c : Crypto} {d : Rooms} {disk : Medium} {found : Option RoomRecord}

/-- A stored record that answers for its room: its digest is that of its members, its authority is
    one of them, and its delegation is the authority's. -/
structure RoomRecord.Sound (c : Crypto) (roomID : RoomID) (r : RoomRecord) : Prop where
  room : r.roomID = roomID
  digest : Room.digest c r.roomID r.epoch r.members = .ok r.membershipDigest
  member : r.authority.agentID ∈ r.members
  delegated : r.authorityDelegation.network ≠ none ∧ r.authorityDelegation.agentID = r.authority.agentID ∧
    r.authorityDelegation.endpointID = r.authority.endpointID

/-- What is read is the stored record, and it is sound. -/
theorem Rooms.read_ok {roomID : RoomID} (h : d.read c disk roomID = .ok found) :
    lookup roomID d = found ∧ ∀ r ∈ found, r.Sound c roomID := by
  obtain ⟨_, -, h⟩ := seq_ok.mp h
  cases hget : lookup roomID d with
  | none =>
    simp only [hget] at h
    cases h
    exact ⟨rfl, fun _ hr => nomatch hr⟩
  | some record =>
    simp only [hget] at h
    simp only [seq_ok, failIf_ok] at h
    obtain ⟨_, hrm, _, hdel, digest, hdig, _, hsm, _, hmbr, h⟩ := h
    cases h
    push Not at hrm hdel hsm hmbr
    refine ⟨rfl, ?_⟩
    intro r hr
    cases hr
    exact ⟨hrm, by rw [hdig, hsm], hmbr, hdel⟩

/-- The epoch on record; a room without a record has had none. -/
def Rooms.epochOf (d : Rooms) (roomID : RoomID) : Nat := (lookup roomID d).elim 0 RoomRecord.epoch

/-- The members on record. -/
def Rooms.membersOf (d : Rooms) (roomID : RoomID) : List AgentID := (lookup roomID d).elim [] RoomRecord.members

theorem Rooms.read_nodup {roomID : RoomID} (h : d.read c disk roomID = .ok found) : (d.membersOf roomID).Nodup := by
  obtain ⟨hget, hsd⟩ := read_ok h
  rw [membersOf, hget]
  cases found with
  | none => exact List.nodup_nil
  | some r => exact (Room.digest_ok.mp (hsd r rfl).digest).2.1

/-- **What a decided transition is.** The record is sound and one epoch past the ledger's, the two
    lists are the two differences, and the authority is the one on record unless a transfer it
    signed says otherwise. -/
structure Rooms.Decided (c : Crypto) (d : Rooms) (call : RoomCall) (t : RoomTransition)
    (record : RoomRecord) : Prop where
  room : record.roomID = call.next.roomID
  membership : record.membership = call.next
  sound : record.Sound c record.roomID
  epoch : record.epoch = d.epochOf record.roomID + 1
  prior : (d.membersOf record.roomID).Nodup
  joined : t.joined = (diffMembers (d.membersOf record.roomID) record.members).1
  departed : t.departed = (diffMembers (d.membersOf record.roomID) record.members).2
  inForce : ∀ prior ∈ lookup record.roomID d, record.authority = prior.authority ∨
    ∃ transfer currentDelegation nextDelegation now disk,
      call = .transferAuthority call.next transfer currentDelegation nextDelegation now disk ∧
        transfer.Accepted c prior.authority prior.membership call.next nextDelegation ∧
        record.authority = transfer.toAuthority

theorem succ64_of_lt {m n : Nat} (hlt : n < m) (h : m = succ64 n) : m = n + 1 := by
  unfold succ64 wrap64 at h
  omega

variable {next : Membership} {t : RoomTransition} {record : RoomRecord}

theorem Rooms.succession_ok {actor : Room.Authority} {prior : List AgentID}
    (h : succession next actor found = .ok prior) :
    next.epoch = found.elim 0 RoomRecord.epoch + 1 ∧ prior = found.elim [] RoomRecord.members ∧
      ∀ r ∈ found, actor = r.authority := by
  cases found with
  | none =>
    obtain ⟨hfst, h⟩ := failIf_then.mp h
    obtain ⟨_, -, h⟩ := seq_ok.mp h
    cases h
    exact ⟨not_not.mp hfst, rfl, fun _ hr => nomatch hr⟩
  | some record =>
    obtain ⟨_, -, h⟩ := seq_ok.mp h
    split_ifs at h with hroll hgap
    obtain ⟨hactor, h⟩ := failIf_then.mp h
    obtain ⟨_, -, h⟩ := seq_ok.mp h
    cases h
    refine ⟨succ64_of_lt (not_le.mp hroll) (not_not.mp hgap), rfl, ?_⟩
    intro r hr
    cases hr
    exact not_not.mp hactor

theorem Rooms.judgeAdvance_decided {authorization : MembershipAuthorization} {dlg : Delegation}
    {now : Time} (h : d.judgeAdvance c disk next authorization dlg now = .ok (t, record)) :
    d.Decided c (.advance next authorization dlg now disk) t record := by
  simp only [judgeAdvance, seq_ok] at h
  obtain ⟨_, -, _, hvrf, cmt, hannounce, found, hrd, prior, hsuccession, _, -, h⟩ := h
  cases h
  obtain ⟨huse, hmbr, hdlg⟩ := Room.verifyMembershipAuthorization_ok hvrf
  obtain ⟨-, rfl⟩ := Room.announce_ok hannounce
  have hget := (Rooms.read_ok hrd).1
  obtain ⟨hepo, rfl, hactor⟩ := succession_ok hsuccession
  refine ⟨rfl, rfl, ⟨rfl, Room.usable_ok.mp huse, hmbr, hdlg.network_ne, hdlg.agent,
    hdlg.endpoint⟩, ?_, read_nodup hrd, ?_, ?_, ?_⟩
  · rw [Rooms.epochOf, hget]
    exact hepo
  · rw [Rooms.membersOf, hget]
  · rw [Rooms.membersOf, hget]
  intro r hr
  rw [hget] at hr
  exact .inl (hactor r hr)

theorem Rooms.judgeTransfer_decided {transfer : AuthorityTransfer} {currentDelegation nextDelegation : Delegation}
    {now : Time} (h : d.judgeTransfer c disk next transfer currentDelegation nextDelegation now = .ok (t, record)) :
    d.Decided c (.transferAuthority next transfer currentDelegation nextDelegation now disk) t record := by
  iterate 2 obtain ⟨_, -, h⟩ := seq_ok.mp h
  obtain ⟨found, hrd, h⟩ := seq_ok.mp h
  have hget := (Rooms.read_ok hrd).1
  cases found with
  | none => cases h
  | some prior =>
    dsimp only at h
    split_ifs at h with hroll hgap
    obtain ⟨_, hvrf, h⟩ := seq_ok.mp h
    cases h
    have hacc := Room.verifyAuthorityTransfer_ok hvrf
    refine ⟨rfl, rfl, ⟨rfl, Room.usable_ok.mp hacc.usable, hacc.member, hacc.delegated.network_ne,
      hacc.delegated.agent, hacc.delegated.endpoint⟩, ?_, read_nodup hrd, ?_, ?_, ?_⟩
    · rw [Rooms.epochOf, hget]
      exact succ64_of_lt (not_le.mp hroll) (not_not.mp hgap)
    · rw [Rooms.membersOf, hget]
      rfl
    · rw [Rooms.membersOf, hget]
      rfl
    intro r hr
    rw [hget] at hr
    cases hr
    exact .inr ⟨transfer, currentDelegation, nextDelegation, now, disk, rfl, hacc, rfl⟩

/-- **One lemma for both calls.** -/
theorem RoomCall.judge_decided {call : RoomCall} (h : call.judge c d = .ok (t, record)) :
    d.Decided c call t record := by
  cases call with
  | advance next authorization dlg now disk => exact Rooms.judgeAdvance_decided h
  | transferAuthority next transfer currentDelegation nextDelegation now disk => exact Rooms.judgeTransfer_decided h

/-- **What one call does.** It is accepted and the decided record is stored; or it fails and nothing
    changes; or the directory could not be synced, the caller is told of an error and the decided
    record is stored. -/
theorem RoomCall.serve_cases (c : Crypto) (d : Rooms) (call : RoomCall) :
    (∃ t record, call.judge c d = .ok (t, record) ∧ call.serve c d = (.ok t, d.insert record.roomID record)) ∨
      (∃ e, call.serve c d = (.error e, d)) ∨
      ∃ t record, call.judge c d = .ok (t, record) ∧ call.disk.written = .unacknowledged ∧
        call.serve c d = (.error (.other "sync event journal directory"), d.insert record.roomID record) := by
  unfold serve
  cases hjdg : call.judge c d with
  | error e => exact .inr (.inl ⟨e, rfl⟩)
  | ok decision =>
    obtain ⟨t, record⟩ := decision
    unfold Rooms.commitRecord
    cases hwrt : call.disk.written with
    | done => exact .inl ⟨t, record, rfl, rfl⟩
    | refused => exact .inr (.inl ⟨_, rfl⟩)
    | unacknowledged => exact .inr (.inr ⟨t, record, rfl, rfl, rfl⟩)

end Messenger.Eventlog
