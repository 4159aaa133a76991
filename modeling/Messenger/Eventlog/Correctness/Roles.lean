import Messenger.Eventlog.Correctness.Rooms

/-!
# `Eventlog.Correctness.Roles` — no elevated power outlives the epoch it was granted in

The room ledger and the role ledger advance independently. A stored policy names the epoch it was
signed for, and that epoch is never ahead of the room's (`Bounded`); a room's record only changes by
moving to a later epoch (`Moves`). So a policy that was on record before a membership or authority
change can never again be bound to the room.
-/

namespace Messenger.Eventlog

open Lib Identity RoomLedgers
open Room (Action)

variable {c : Crypto} {l : RoomLedgers} {disk : Medium} {policy : Room.RolePolicy} {delegation : Delegation}
  {now : Time}
  {roomID : RoomID}

/-! ## One call -/

theorem RoomLedgers.readRoles_ok {roles : Roles} {found : Option Room.RolePolicy}
    (h : readRoles disk roles roomID = .ok found) : lookup roomID roles = found := by
  obtain ⟨_, -, h⟩ := seq_ok.mp h
  cases hget : lookup roomID roles with
  | none =>
    simp only [hget] at h
    cases h
    rfl
  | some stored =>
    simp only [hget] at h
    iterate 2 obtain ⟨_, -, h⟩ := seq_ok.mp h
    cases h
    rfl

/-- A policy that is judged to follow is verified against the room's record. -/
theorem RoomLedgers.judgeRoles_ok (h : l.judgeRoles c disk policy delegation now = .ok ()) :
    ∃ record, lookup policy.roomID l.rooms = some record ∧
      policy.Verified c record.membership record.authority now := by
  obtain ⟨_, -, h⟩ := seq_ok.mp h
  obtain ⟨found, hrd, h⟩ := seq_ok.mp h
  obtain ⟨hget, -⟩ := Rooms.read_ok hrd
  cases found with
  | none => cases h
  | some record =>
    obtain ⟨_, hvrf, -⟩ := seq_ok.mp h
    exact ⟨record, hget, Room.verifyRolePolicy_ok hvrf⟩

/-- What a role call does: nothing, or it stores a policy that was verified against the room's
    record. -/
theorem RoomLedgers.advanceRoles_cases (c : Crypto) (disk : Medium) (policy : Room.RolePolicy)
    (delegation : Delegation) (now : Time) (l : RoomLedgers) :
    (l.advanceRoles c disk policy delegation now).2 = l ∨
      l.judgeRoles c disk policy delegation now = .ok () ∧
        (l.advanceRoles c disk policy delegation now).2 =
          { l with roles := l.roles.insert policy.roomID policy } := by
  unfold advanceRoles
  cases hjdg : l.judgeRoles c disk policy delegation now with
  | error e => exact .inl rfl
  | ok _ =>
    cases hwrt : disk.written with
    | done => exact .inr ⟨rfl, rfl⟩
    | refused => exact .inl rfl
    | unacknowledged => exact .inr ⟨rfl, rfl⟩

/-! ## Runs -/

/-- A room's record stays as it is or moves to a later epoch. -/
def RoomLedgers.Moves (roomID : RoomID) (l l' : RoomLedgers) : Prop :=
  lookup roomID l'.rooms = lookup roomID l.rooms ∨ l.rooms.epochOf roomID < l'.rooms.epochOf roomID

/-- A stored policy is never ahead of its room. -/
def RoomLedgers.Bounded (l : RoomLedgers) : Prop :=
  ∀ roomID policy, lookup roomID l.roles = some policy → policy.membershipEpoch ≤ l.rooms.epochOf roomID

theorem RoomLedgers.Moves.trans {l₁ l₂ l₃ : RoomLedgers} (h : l₁.Moves roomID l₂)
    (h' : l₂.Moves roomID l₃) : l₁.Moves roomID l₃ := by
  rcases h with heq | hlt
  · rcases h' with heq' | hlt'
    · exact .inl (heq'.trans heq)
    · refine .inr ?_
      rwa [Rooms.epochOf, heq] at hlt'
  rcases h' with heq' | hlt'
  · refine .inr ?_
    rwa [Rooms.epochOf, Rooms.epochOf, heq']
  · exact .inr (hlt.trans hlt')

theorem RoomLedgers.Moves.le {l l' : RoomLedgers} (h : l.Moves roomID l') :
    l.rooms.epochOf roomID ≤ l'.rooms.epochOf roomID := by
  rcases h with heq | hlt
  · rw [Rooms.epochOf, Rooms.epochOf, heq]
  · exact hlt.le

theorem Rooms.Advanced.moves {d d' : Rooms} {call : RoomCall} {t : RoomTransition} {roles roles' : Roles}
    (h : d.Advanced c call t d') (roomID : RoomID) : Moves roomID ⟨d, roles⟩ ⟨d', roles'⟩ := by
  by_cases hrm : roomID = call.next.roomID
  · subst hrm
    refine .inr ?_
    rw [h.epoch]
    exact Nat.lt_succ_self _
  · exact .inl (h.others roomID hrm)

theorem RoomLedgers.step_moves (roomID : RoomID) (l : RoomLedgers) (call : LedgerCall) :
    l.Moves roomID (step c l call) := by
  cases call with
  | room call =>
    simp only [step]
    rcases call.serve_cases c l.rooms with ⟨t, record, hjdg, hsrv⟩ | ⟨e, hsrv⟩ | ⟨t, record, hjdg, -, hsrv⟩
    · rw [hsrv]
      exact (RoomCall.judge_decided hjdg).advanced.moves roomID
    · rw [hsrv]
      exact .inl rfl
    · rw [hsrv]
      exact (RoomCall.judge_decided hjdg).advanced.moves roomID
  | roles policy delegation now disk =>
    simp only [step]
    rcases advanceRoles_cases c disk policy delegation now l with hsm | ⟨-, hsto⟩
    · rw [hsm]
      exact .inl rfl
    · rw [hsto]
      exact .inl rfl

theorem RoomLedgers.run_moves (roomID : RoomID) (l : RoomLedgers) (calls : List LedgerCall) :
    l.Moves roomID (run (step c) l calls) :=
  Along.related (R := Moves roomID) (fun _ => .inl rfl) Moves.trans
    (fun l call _ => step_moves roomID l call) (Along.of_forall (P := fun _ _ => True) (fun _ _ => trivial) l calls)

theorem RoomLedgers.step_bounded (hbnd : l.Bounded) (call : LedgerCall) : (step c l call).Bounded := by
  cases call with
  | room call =>
    intro roomID policy hpol
    have hmv : l.Moves roomID (step c l (.room call)) := step_moves roomID l (.room call)
    exact (hbnd roomID policy hpol).trans hmv.le
  | roles policy delegation now disk =>
    simp only [step]
    rcases advanceRoles_cases c disk policy delegation now l with hsm | ⟨hjdg, hsto⟩
    · rw [hsm]
      exact hbnd
    rw [hsto]
    obtain ⟨record, hget, hvrf⟩ := judgeRoles_ok hjdg
    intro roomID stored hpol
    rcases lookup_insert_cases hpol with ⟨rfl, rfl⟩ | hpol
    · -- the new policy names the epoch on record
      rw [hvrf.epoch, Rooms.epochOf, hget]
      exact le_rfl
    · exact hbnd roomID stored hpol

theorem RoomLedgers.run_bounded (c : Crypto) (calls : List LedgerCall) : (run (step c) ⟨∅, ∅⟩ calls).Bounded := by
  refine run_invariant (I := Bounded) (fun l call h => step_bounded h call) ?_ calls
  intro roomID policy hpol
  simp at hpol

/-! ## Grants -/

/-- **What stands behind a granted action**: the room's current record, and a policy for exactly
    that record. -/
structure RoomLedgers.Granted (c : Crypto) (l : RoomLedgers) (roomID : RoomID) (agentID : AgentID)
    (action : Action) (now : Time) (record : RoomRecord) (policy : Room.RolePolicy) : Prop where
  recorded : lookup roomID l.rooms = some record
  stored : lookup roomID l.roles = some policy
  member : agentID ∈ record.members
  role : ∃ a ∈ policy.assignments, a.agentID = agentID ∧ action.Sufficient a.role
  room : policy.roomID = roomID
  epoch : policy.membershipEpoch = record.epoch
  digest : policy.membershipDigest = record.membershipDigest
  authority : policy.authority = record.authority
  signed : ∃ message, Room.rolePolicySigningBytes policy = .ok message ∧
    record.authority.Signed c message policy.endpointSignature
  window : 0 ≤ now ∧ policy.issuedAt ≤ now.toNat ∧ now.toNat < policy.expiresAt

theorem RoomLedgers.allowsCurrent_granted {agentID : AgentID} {action : Action}
    (helevated : action.elevated) (h : l.allowsCurrent c disk roomID agentID action delegation now = .ok true) :
    ∃ record policy, l.Granted c roomID agentID action now record policy := by
  obtain ⟨stored, hroles, h⟩ := seq_ok.mp h
  have hsto := readRoles_ok hroles
  cases stored with
  | none => cases h
  | some policy =>
    obtain ⟨found, hrd, h⟩ := seq_ok.mp h
    obtain ⟨hget, hsd⟩ := Rooms.read_ok hrd
    cases found with
    | none => cases h
    | some record =>
      obtain ⟨_, hver, h⟩ := seq_ok.mp h
      have hvrf := Room.verifyRolePolicy_ok hver
      have hallows : policy.allows record.membership agentID action = true := Except.ok.inj h
      obtain ⟨hmbr, -, -, -, hrole⟩ := (Room.RolePolicy.allows_iff hvrf.sorted helevated).mp hallows
      exact ⟨record, policy, hget, hsto, hmbr, hrole, hvrf.room.trans (hsd record rfl).room,
        hvrf.epoch, hvrf.digest, hvrf.authority, hvrf.signed, hvrf.window⟩

/-- **An elevated action needs a live policy for the current record.** And that policy was not yet
    on record at any moment at which the room's record was another one. -/
theorem elevated_current (c : Crypto) (history : List LedgerCall) (disk : Medium) (roomID : RoomID) (agentID : AgentID)
    (action : Action) (delegation : Delegation) (now : Time) (helevated : action.elevated)
    (hgrant : (run (RoomLedgers.step c) ⟨∅, ∅⟩ history).allowsCurrent c disk roomID agentID action delegation now =
      .ok true) :
    ∃ record policy,
      (run (RoomLedgers.step c) ⟨∅, ∅⟩ history).Granted c roomID agentID action now record policy ∧
      ∀ k, AList.lookup roomID (run (RoomLedgers.step c) ⟨∅, ∅⟩ (history.take k)).rooms ≠ some record →
        AList.lookup roomID (run (RoomLedgers.step c) ⟨∅, ∅⟩ (history.take k)).roles ≠ some policy := by
  obtain ⟨record, policy, hgr⟩ := allowsCurrent_granted helevated hgrant
  refine ⟨record, policy, hgr, ?_⟩
  intro k hoth hpol
  have hmv : (run (step c) ⟨∅, ∅⟩ (history.take k)).Moves roomID
      (run (step c) ⟨∅, ∅⟩ history) := by
    conv_rhs => rw [← List.take_append_drop k history, run_append]
    exact run_moves roomID _ _
  have hrec : (run (step c) ⟨∅, ∅⟩ history).rooms.epochOf roomID = record.epoch := by
    rw [Rooms.epochOf, hgr.recorded]
    rfl
  rcases hmv with hsm | hlat
  · rw [hgr.recorded] at hsm
    exact hoth hsm.symm
  have hbd := run_bounded c (history.take k) roomID policy hpol
  have hepo := hgr.epoch
  omega

/-! ## A room with a moderator -/

/-- A hash that counts bytes and signatures that always verify: enough to run the ledgers. -/
def counting : Crypto where
  sum256 bytes := BitVec.ofNat 256 (bytes.length + 1)
  verify _ _ _ := true

def chainHash : String := String.ofList (List.replicate 64 'a')

def network : Network :=
  { networkID := Canon.Field.utf8 "tos", genesisRootHash := chainHash, genesisFileHash := chainHash }

/-- A delegation of the endpoint of an Agent. -/
def delegationOf (agentID : AgentID) : Delegation where
  network := some network
  agentID := agentID
  endpointID := ((Identity.deriveEndpointID counting (some network) agentID (List.replicate 32 7)).toOption).getD ⟨0⟩
  identityPublicKey := List.replicate 32 7
  allowedOutboundEventClasses := []
  notBefore := 0
  expiresAt := 100

def founder : AgentID := ⟨1⟩
def authorityOf (agentID : AgentID) : Room.Authority := ⟨agentID, (delegationOf agentID).endpointID⟩

/-- The first epoch: the founder and one more Agent. -/
def founded : Room.Membership where
  roomID := ⟨9⟩
  epoch := 1
  members := [⟨1⟩, ⟨2⟩]
  digest := ((Room.digest counting ⟨9⟩ 1 [⟨1⟩, ⟨2⟩]).toOption).getD 0

def founding : RoomCall :=
  .advance founded ⟨some network, ⟨9⟩, 1, founded.digest, authorityOf founder, 1, 50, List.replicate 64 0⟩
    (delegationOf founder) 10 {}

/-- The second Agent moderates. -/
def moderatorPolicy : Room.RolePolicy where
  network := some network
  roomID := ⟨9⟩
  membershipEpoch := 1
  membershipDigest := founded.digest
  revision := 1
  assignments := [⟨⟨1⟩, .administrator⟩, ⟨⟨2⟩, .moderator⟩]
  authority := authorityOf founder
  issuedAt := 1
  expiresAt := 50
  endpointSignature := List.replicate 64 0

def moderated : List LedgerCall := [.room founding, .roles moderatorPolicy (delegationOf founder) 10 {}]

theorem elevated_current_moderator :
    (∃ record policy, (run (RoomLedgers.step counting) ⟨∅, ∅⟩ moderated).Granted counting ⟨9⟩ ⟨2⟩ .moderate 20 record
        policy ∧
      ∀ k, AList.lookup ⟨9⟩ (run (RoomLedgers.step counting) ⟨∅, ∅⟩ (moderated.take k)).rooms ≠ some record →
        AList.lookup ⟨9⟩ (run (RoomLedgers.step counting) ⟨∅, ∅⟩ (moderated.take k)).roles ≠ some policy) :=
  elevated_current counting moderated {} ⟨9⟩ ⟨2⟩ .moderate (delegationOf founder) 20 (by decide) (by decide +kernel)

end Messenger.Eventlog
