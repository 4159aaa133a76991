import Messenger.Lib.Search
import Messenger.Room.Authority

/-!
# `Room.Roles` — the elevated powers of a room

A role policy lists the administrators and moderators of one room at one epoch, signed by the room's
authority (`pkg/room/roles.go`). Membership alone lets an Agent post; everything else needs a role
in a policy for the exact membership.

- **Assignments.** They are strictly sorted by Agent, which `validateRolePolicy` checks, and
  `roleOf` is a binary search over them. On a validated policy it finds exactly the assignments
  (`roleOf_eq_iff`).
- **Roles.** A role on the wire is a text; one that is neither of the two is `Role.other`.
-/

namespace Messenger.Room

open Identity Lib
open Canon (Field digestText)

def rolePolicySchema : String := "tos.messaging.room-role-policy.v1"
def domainRoomRolePolicy : String := "tos.messaging.room-role-policy.v1\x00"
def maxRoomAdmins : Nat := 4
def maxRoomModerators : Nat := 16

/-- In seconds. -/
def maxRolePolicyWindow : Nat := 24 * 60 * 60

/-- An elevated room power. -/
inductive Role where
  | administrator
  | moderator
  | other (text : String)
  deriving DecidableEq, Repr

def Role.text : Role → String
  | .administrator => "administrator"
  | .moderator => "moderator"
  | .other text => text

/-- A local authorization question. -/
inductive Action where
  | post
  | moderate
  | changeMembership
  | changeRoles
  | transferAuthority
  deriving DecidableEq, Repr

structure RoleAssignment where
  agentID : AgentID
  role : Role
  deriving DecidableEq, Repr

/-- Texts of Agent identifiers are ordered as their digests. -/
def RoleAssignment.key (a : RoleAssignment) : Nat := a.agentID.digest.toNat

/-- An epoch-bound, authority-signed list of elevated roles. -/
structure RolePolicy where
  network : Option Network
  roomID : RoomID
  membershipEpoch : Nat
  membershipDigest : BitVec 256
  revision : Nat
  assignments : List RoleAssignment
  authority : Authority
  issuedAt : Nat
  expiresAt : Nat
  endpointSignature : Bytes
  deriving DecidableEq, Repr

/-- The loop over the assignments: each follows the one before it, and the two roles are counted. -/
def countAssignments : Option AgentID → Nat × Nat → List RoleAssignment → Except Failure (Nat × Nat)
  | _, counts, [] => .ok counts
  | previous, counts, a :: rest => do
    failIf (previous.any (a.agentID ≤ ·)) "room role assignments must be unique and sorted"
    match a.role with
    | .administrator => countAssignments (some a.agentID) (counts.1 + 1, counts.2) rest
    | .moderator => countAssignments (some a.agentID) (counts.1, counts.2 + 1) rest
    | .other _ => .error (.other "invalid room role")

variable (c : Crypto) (value : RolePolicy) (membership : Membership)

def validateRolePolicy (signed : Bool) : Except Failure Unit := do
  failIf (value.membershipEpoch = 0 ∨ value.membershipDigest = 0 ∨ value.revision = 0 ∨ value.issuedAt = 0 ∨
    value.expiresAt ≤ value.issuedAt ∨ maxRolePolicyWindow < value.expiresAt - value.issuedAt ∨
    value.assignments = [] ∨ maxRoomAdmins + maxRoomModerators < value.assignments.length) "invalid room role policy"
  let _ ← appendAuthorityNetwork value.network
  let (admins, moderators) ← countAssignments none (0, 0) value.assignments
  failIf (admins = 0 ∨ maxRoomAdmins < admins ∨ maxRoomModerators < moderators)
    "room elevated roles exceed their bounds"
  failIf (signed ∧ value.endpointSignature.length ≠ signatureSize) "invalid room role-policy signature"

def rolePolicySigningBytes : Except Failure Bytes := do
  validateRolePolicy value false
  let network ← appendAuthorityNetwork value.network
  pure (Canon.preimage domainRoomRolePolicy ([.text rolePolicySchema] ++ network ++
    [.text value.roomID.text, .uint64 value.membershipEpoch, .text (digestText value.membershipDigest),
     .uint64 value.revision, .uint32 value.assignments.length] ++
    (value.assignments.flatMap fun a => [Field.text a.agentID.text, Field.text a.role.text]) ++
    [.text value.authority.agentID.text, .text value.authority.endpointID.text, .uint64 value.issuedAt,
     .uint64 value.expiresAt]))

namespace RolePolicy

/-- The role of an Agent: a binary search over the sorted assignments. -/
def roleOf (p : RolePolicy) (agentID : AgentID) : Role :=
  let index := search p.assignments.length fun i => p.assignments[i]?.any (agentID.digest.toNat ≤ ·.key)
  match p.assignments[index]? with
  | some a => if a.agentID = agentID then a.role else .other ""
  | none => .other ""

/-- What a member may do under the policy. -/
def allows (p : RolePolicy) (membership : Membership) (agentID : AgentID) (action : Action) : Bool :=
  if agentID ∉ membership.members ∨ p.roomID ≠ membership.roomID ∨
      p.membershipEpoch ≠ membership.epoch ∨ p.membershipDigest ≠ membership.digest then false
  else
    match action with
    | .post => true
    | .moderate => p.roleOf agentID = .administrator ∨ p.roleOf agentID = .moderator
    | .changeMembership | .changeRoles | .transferAuthority => p.roleOf agentID = .administrator

end RolePolicy

/-- Bind elevated powers to the exact membership and to the room's authority. -/
def verifyRolePolicy (current : Authority) (delegation : Delegation) (now : Time) : Except Failure Unit := do
  failIf (now < 0) "invalid room role-policy verification time"
  validateRolePolicy value true
  let commitment ← membership.announce c
  failIf (value.roomID ≠ membership.roomID ∨ value.membershipEpoch ≠ membership.epoch ∨
    value.membershipDigest ≠ commitment.membershipDigest) "room role policy names another membership"
  failIf (value.authority ≠ current ∨ value.authority.agentID ≠ delegation.agentID ∨
    value.authority.endpointID ≠ delegation.endpointID) "room role policy was not made by the current authority"
  verifyAuthorityDelegation c delegation now
  failIf (¬sameAuthorityNetwork value.network delegation.network) "room role policy belongs to another network"
  failIf (now.toNat < value.issuedAt ∨ value.expiresAt ≤ now.toNat ∨ delegation.expiresAt < value.expiresAt)
    "room role policy is outside its validity window"
  failIf (value.assignments.any (·.agentID ∉ membership.members)) "room role policy assigns a non-member"
  failIf (value.roleOf value.authority.agentID ≠ .administrator) "room authority must remain an administrator"
  let preimage ← rolePolicySigningBytes value
  failIf (¬c.verify delegation.identityPublicKey preimage value.endpointSignature)
    "room role-policy signature is invalid"

/-! ## What the validation establishes -/

/-- The roles that carry an action. -/
def Action.Sufficient : Action → Role → Prop
  | .post, _ => True
  | .moderate, role => role = .administrator ∨ role = .moderator
  | .changeMembership, role | .changeRoles, role | .transferAuthority, role => role = .administrator

/-- Everything but posting. -/
def Action.elevated (action : Action) : Bool := action ≠ .post

theorem countAssignments_sorted {previous : Option AgentID} {counts result : Nat × Nat}
    {l : List RoleAssignment} (h : countAssignments previous counts l = .ok result) :
    (l.Pairwise fun a b => a.key < b.key) ∧ ∀ p ∈ previous, ∀ a ∈ l, p.digest.toNat < a.key := by
  induction l generalizing previous counts with
  | nil => exact ⟨List.Pairwise.nil, fun _ _ => List.forall_mem_nil _⟩
  | cons a rest ih =>
    obtain ⟨hfol, h⟩ := failIf_then.mp h
    -- either role continues with this Agent as the one before
    have hre : (rest.Pairwise fun a b => a.key < b.key) ∧ ∀ b ∈ rest, a.key < b.key := by
      cases hrole : a.role with
      | administrator | moderator =>
        simp only [hrole] at h
        exact ⟨(ih h).1, (ih h).2 a.agentID rfl⟩
      | other text =>
        simp only [hrole] at h
        cases h
    refine ⟨List.pairwise_cons.mpr ⟨hre.2, hre.1⟩, ?_⟩
    intro p hp
    have hpa : p.digest.toNat < a.key := by
      have hnot := hfol
      rw [Option.mem_def.mp hp, Option.any_some, decide_eq_true_eq] at hnot
      exact Nat.lt_of_not_le hnot
    exact List.forall_mem_cons.mpr ⟨hpa, fun b hb => hpa.trans (hre.2 b hb)⟩

theorem validateRolePolicy_sorted {value : RolePolicy} {signed : Bool} (h : validateRolePolicy value signed = .ok ()) :
    value.assignments.Pairwise fun a b => a.key < b.key := by
  iterate 2 obtain ⟨_, -, h⟩ := seq_ok.mp h
  obtain ⟨_, hcnt, -⟩ := seq_ok.mp h
  exact (countAssignments_sorted hcnt).1

namespace RolePolicy
variable {p : RolePolicy} {agentID : AgentID}

/-- What the search returns is an assignment of the policy. -/
theorem roleOf_mem {role : Role} (h : p.roleOf agentID = role) (hrole : role ≠ .other "") :
    ∃ a ∈ p.assignments, a.agentID = agentID ∧ a.role = role := by
  unfold roleOf at h
  dsimp only at h
  split at h
  · next a ha =>
    split_ifs at h with hagt
    · exact ⟨a, List.mem_of_getElem? ha, hagt, h⟩
    · exact absurd h.symm hrole
  · exact absurd h.symm hrole

/-- **The search finds exactly the assignments of a sorted policy.** -/
theorem roleOf_eq_iff (hsrt : p.assignments.Pairwise fun a b => a.key < b.key) {role : Role}
    (hrole : role ≠ .other "") :
    p.roleOf agentID = role ↔ ∃ a ∈ p.assignments, a.agentID = agentID ∧ a.role = role := by
  refine ⟨fun h => roleOf_mem h hrole, ?_⟩
  rintro ⟨a, ha, rfl, rfl⟩
  have hfnd := getElem?_search hsrt ha
  unfold roleOf
  dsimp only
  rw [show a.agentID.digest.toNat = a.key from rfl, hfnd]
  exact if_pos rfl

/-- A sufficient role for an elevated action, read off the assignments. -/
theorem allows_iff (hsrt : p.assignments.Pairwise fun a b => a.key < b.key)
    {membership : Membership} {action : Action} (helevated : action.elevated) :
    p.allows membership agentID action ↔
      agentID ∈ membership.members ∧ p.roomID = membership.roomID ∧
        p.membershipEpoch = membership.epoch ∧ p.membershipDigest = membership.digest ∧
        ∃ a ∈ p.assignments, a.agentID = agentID ∧ action.Sufficient a.role := by
  have hadmin : p.roleOf agentID = .administrator ↔ _ := roleOf_eq_iff hsrt (by decide)
  have hmoderator : p.roleOf agentID = .moderator ↔ _ := roleOf_eq_iff hsrt (by decide)
  unfold allows
  split_ifs with hbd
  · refine ⟨fun h => absurd h (by decide), fun h => absurd hbd ?_⟩
    simp [h.1, h.2.1, h.2.2.1, h.2.2.2.1]
  push Not at hbd
  obtain ⟨hmbr, hrm, hepo, hdig⟩ := hbd
  simp only [hmbr, hrm, hepo, hdig, true_and]
  cases action with
  | post => exact absurd helevated (by decide)
  | moderate => simp only [decide_eq_true_eq, hadmin, hmoderator, Action.Sufficient, and_or_left, exists_or]
  | changeMembership | changeRoles | transferAuthority => simp only [decide_eq_true_eq, hadmin, Action.Sufficient]

end RolePolicy

/-- **What a verified policy says.** It is the authority's own word about the exact membership,
    inside its window. -/
structure RolePolicy.Verified (current : Authority) (now : Time) : Prop where
  sorted : value.assignments.Pairwise fun a b => a.key < b.key
  room : value.roomID = membership.roomID
  epoch : value.membershipEpoch = membership.epoch
  digest : value.membershipDigest = membership.digest
  authority : value.authority = current
  window : 0 ≤ now ∧ value.issuedAt ≤ now.toNat ∧ now.toNat < value.expiresAt
  signed : ∃ message, rolePolicySigningBytes value = .ok message ∧ current.Signed c message value.endpointSignature

theorem verifyRolePolicy_ok {c : Crypto} {value : RolePolicy} {membership : Membership} {cur : Authority}
    {delegation : Delegation} {now : Time} (h : verifyRolePolicy c value membership cur delegation now = .ok ()) :
    value.Verified c membership cur now := by
  simp only [verifyRolePolicy, seq_ok, failIf_ok] at h
  obtain ⟨_, hnow, _, hval, cmt, hannounce, _, hbd, _, hauth, _, hdel, _, -, _, hwin, _, -, _, -,
    message, hmsg, hver⟩ := h
  obtain ⟨-, rfl⟩ := announce_ok hannounce
  push Not at hnow hbd hauth hwin
  obtain ⟨rfl, hagt, hept⟩ := hauth
  have hdlg : value.authority.DelegatedBy c delegation := .of_verified hagt.symm hept.symm hdel
  refine ⟨validateRolePolicy_sorted hval, hbd.1, hbd.2.1, hbd.2.2, rfl, ⟨hnow, hwin.1, hwin.2.1⟩, message, hmsg, ?_⟩
  exact hdlg.signed (not_not.mp hver)

end Messenger.Room
