import Messenger.Identity.Delegation
import Mathlib.Data.List.Sort

/-!
# `Room.Membership` — the member set of a private group, epoch by epoch

A room's membership is a set of Agents at an epoch, bound together by a digest
(`pkg/room/membership.go`). A transition gives the successor; it never changes the membership it
starts from.

The digest is over the sorted members, whatever order they are listed in. What the package produces
is a set of members in order, with its digest (`Committed`). There is one such list for each set, so
adding and removing the same members undo each other, and what is digested determines the room, the
epoch and the members (`memberships_sound`).
-/

namespace Messenger.Room

open Identity (Crypto)
open Canon (Field)

def maxMembers : Nat := 1024

/-- The committed state of one room at one epoch. -/
structure Membership where
  roomID : RoomID
  epoch : Nat
  members : List AgentID
  digest : BitVec 256
  deriving DecidableEq, Repr

def domainRoomMembership : String := "tos.messaging.room-membership.v1\x00"

/-- The members in order; nobody may be listed twice. -/
def normalize (members : List AgentID) : Except Failure (List AgentID) := do
  failIf (¬members.Nodup) "a member was listed twice"
  pure (members.insertionSort (· ≤ ·))

/-- The digest of a member set at an epoch. -/
def digest (c : Crypto) (roomID : RoomID) (epoch : Nat) (members : List AgentID) : Except Failure (BitVec 256) := do
  failIf (epoch = 0) "a membership digest has no epoch"
  let sorted ← normalize members
  if sorted = [] then .error .emptyRoom
  else if maxMembers < sorted.length then .error .roomFull
  else
    let fields : List Field := [.text roomID.text, .uint64 epoch, .uint32 sorted.length] ++
      sorted.map fun m => .text m.text
    pure (c.sum256 (Canon.preimage domainRoomMembership fields))

/-- A membership over members that are in order. -/
def commit (c : Crypto) (roomID : RoomID) (epoch : Nat) (members : List AgentID) : Except Failure Membership := do
  let digest ← digest c roomID epoch members
  pure ⟨roomID, epoch, members, digest⟩

/-- The next epoch; the counter does not wrap. -/
def nextEpoch (current : Nat) : Except Failure Nat :=
  if succ64 current ≤ current then .error .epochExhausted else .ok (succ64 current)

/-- The first epoch of a room. -/
def found (c : Crypto) (roomID : RoomID) (founders : List AgentID) : Except Failure Membership := do
  let members ← normalize founders
  if members = [] then .error .emptyRoom else commit c roomID 1 members

/-- What a membership commits to on the wire. -/
structure Commitment where
  roomID : RoomID
  epoch : Nat
  membershipDigest : BitVec 256
  memberCount : Nat
  deriving DecidableEq, Repr

namespace Membership
variable (c : Crypto) (m : Membership)

/-- A membership whose digest is that of its members. -/
def usable : Except Failure Unit := do
  failIf (m.epoch = 0) "a membership has no epoch"
  if m.members = [] then .error .emptyRoom
  else do
    let recomputed ← Room.digest c m.roomID m.epoch m.members
    failIf (recomputed ≠ m.digest) "the membership's digest does not match its members"

/-- The successor with members added. -/
def add (newMembers : List AgentID) : Except Failure Membership := do
  m.usable c
  let incoming ← normalize newMembers
  if incoming = [] then .error .noChange
  else do
    failIf (incoming.any (· ∈ m.members)) "a member cannot be added twice"
    let next ← normalize (m.members ++ incoming)
    if maxMembers < next.length then .error .roomFull
    else do
      let epoch ← nextEpoch m.epoch
      commit c m.roomID epoch next

/-- The successor with members removed. -/
def remove (leaving : List AgentID) : Except Failure Membership := do
  m.usable c
  let departing ← normalize leaving
  if departing = [] then .error .noChange
  else do
    failIf (departing.any (· ∉ m.members)) "a member who is not present cannot be removed"
    if (m.members.filter (· ∉ departing)) = [] then .error .emptyRoom
    else do
      let epoch ← nextEpoch m.epoch
      commit c m.roomID epoch (m.members.filter (· ∉ departing))

/-- The successor with the same members, for a change of authority. -/
def advanceForAuthorityTransfer : Except Failure Membership := do
  m.usable c
  let epoch ← nextEpoch m.epoch
  commit c m.roomID epoch m.members

/-- What the room announces. -/
def announce : Except Failure Commitment := do
  m.usable c
  if maxMembers < m.members.length then .error .roomFull
  else do
    failIf (m.digest = 0) "membership digest is not a usable digest"
    pure ⟨m.roomID, m.epoch, m.digest, m.members.length⟩

end Membership

variable {c : Crypto} {m : Membership}

theorem normalize_ok {members sorted : List AgentID} :
    normalize members = .ok sorted ↔ members.Nodup ∧ sorted = members.insertionSort (· ≤ ·) := by
  unfold normalize
  simp only [seq_ok, failIf_ok, not_not]
  constructor
  · rintro ⟨_, hnd, heq⟩
    exact ⟨hnd, (Except.ok.inj heq).symm⟩
  · rintro ⟨hnd, rfl⟩
    exact ⟨(), hnd, rfl⟩

theorem refuse_ok {α : Type} {p : Prop} [Decidable p] {e : Failure} {x : Except Failure α} {a : α} :
    (if p then .error e else x) = .ok a ↔ ¬p ∧ x = .ok a := by
  split_ifs with hp <;> simp [hp]

theorem sort_nil {members : List AgentID} : members.insertionSort (· ≤ ·) = [] ↔ members = [] := by
  rw [← List.length_eq_zero_iff, List.length_insertionSort, List.length_eq_zero_iff]

/-- What `digest` is the digest of. -/
def digestPreimage (roomID : RoomID) (epoch : Nat) (sorted : List AgentID) : Bytes :=
  Canon.preimage domainRoomMembership
    ([.text roomID.text, .uint64 epoch, .uint32 sorted.length] ++ sorted.map fun m => .text m.text)

/-- **When there is a digest**, and of what. -/
theorem digest_ok {roomID : RoomID} {epoch : Nat} {members : List AgentID} {d : BitVec 256} :
    digest c roomID epoch members = .ok d ↔ epoch ≠ 0 ∧ members.Nodup ∧ members ≠ [] ∧ members.length ≤ maxMembers ∧
      d = c.sum256 (digestPreimage roomID epoch (members.insertionSort (· ≤ ·))) := by
  unfold digest
  rw [failIf_then]
  simp only [seq_ok, normalize_ok, refuse_ok, sort_nil, List.length_insertionSort, not_lt,
    and_assoc, exists_and_left, exists_eq_left]
  constructor
  · rintro ⟨hepo, hnd, hne, hbd, hd⟩
    cases hd
    exact ⟨hepo, hnd, hne, hbd, by simp [digestPreimage]⟩
  · rintro ⟨hepo, hnd, hne, hbd, rfl⟩
    exact ⟨hepo, hnd, hne, hbd, by simp [digestPreimage]; rfl⟩

theorem usable_ok : m.usable c = .ok () ↔ digest c m.roomID m.epoch m.members = .ok m.digest := by
  unfold Membership.usable
  rw [failIf_then]
  simp only [refuse_ok, seq_ok, failIf_ok, not_not]
  constructor
  · rintro ⟨-, -, _, hdig, rfl⟩
    exact hdig
  · intro hdig
    obtain ⟨hepo, -, hne, -⟩ := digest_ok.mp hdig
    exact ⟨hepo, hne, _, hdig, rfl⟩

theorem announce_ok {cmt : Commitment} (h : m.announce c = .ok cmt) :
    m.usable c = .ok () ∧ cmt = ⟨m.roomID, m.epoch, m.digest, m.members.length⟩ := by
  obtain ⟨_, huse, h⟩ := seq_ok.mp h
  split_ifs at h with hfu
  obtain ⟨_, -, h⟩ := seq_ok.mp h
  cases h
  exact ⟨huse, rfl⟩

/-! ## Transitions -/

/-- The membership of the next epoch. -/
def Membership.next (c : Crypto) (m : Membership) (members : List AgentID) : Membership :=
  ⟨m.roomID, m.epoch + 1, members, c.sum256 (digestPreimage m.roomID (m.epoch + 1) members)⟩

/-- A transition that is accepted. -/
def Step (c : Crypto) (m m' : Membership) : Prop :=
  (∃ s, m.add c s = .ok m') ∨ (∃ s, m.remove c s = .ok m') ∨ m.advanceForAuthorityTransfer c = .ok m'

/-- The memberships of rooms. -/
inductive Reachable (c : Crypto) : Membership → Prop
  | found {roomID : RoomID} {founders : List AgentID} {m : Membership}
    (h : found c roomID founders = .ok m) : Reachable c m
  | step {m m' : Membership} (h : Reachable c m) (hs : Step c m m') : Reachable c m'

/-- What the package keeps of the members. -/
structure Ordered (members : List AgentID) : Prop where
  sorted : members.Pairwise (· ≤ ·)
  nodup : members.Nodup
  nonempty : members ≠ []
  bounded : members.length ≤ maxMembers

instance : Std.Total fun a b : AgentID => a ≤ b := ⟨fun a b => BitVec.le_total a.digest b.digest⟩

instance : IsTrans AgentID (· ≤ ·) := ⟨fun _ _ _ hab hbc => BitVec.le_trans hab hbc⟩

/-- A set of members has one order. -/
theorem Ordered.eq {members others : List AgentID} (h : Ordered members) (h' : Ordered others)
    (hmem : ∀ a, a ∈ members ↔ a ∈ others) : members = others := by
  refine List.Perm.eq_of_pairwise (fun a b _ _ hab hba => ?_) h.sorted h'.sorted
    ((List.perm_ext_iff_of_nodup h.nodup h'.nodup).mpr hmem)
  cases a
  cases b
  exact congrArg _ (BitVec.le_antisymm hab hba)

variable {m' : Membership} {members s : List AgentID}

theorem Ordered.digest (h : Ordered members) {roomID : RoomID} {epoch : Nat} {d : BitVec 256} :
    digest c roomID epoch members = .ok d ↔ epoch ≠ 0 ∧ d = c.sum256 (digestPreimage roomID epoch members) := by
  rw [digest_ok, h.sorted.insertionSort_eq]
  exact and_congr_right' ((and_iff_right h.nodup).trans ((and_iff_right h.nonempty).trans (and_iff_right h.bounded)))

/-- **The step to the next epoch**, short of the last one. -/
theorem Ordered.next (h : Ordered members) :
    (∃ epoch, nextEpoch m.epoch = .ok epoch ∧ commit c m.roomID epoch members = .ok m') ↔
      m.epoch + 1 < 2 ^ 64 ∧ m' = m.next c members := by
  unfold nextEpoch succ64 wrap64 commit
  simp only [refuse_ok, seq_ok, h.digest]
  constructor
  · rintro ⟨_, ⟨hle, heq⟩, _, ⟨-, rfl⟩, hm⟩
    have hepo : m.epoch + 1 < 2 ^ 64 := by omega
    rw [Nat.mod_eq_of_lt hepo] at heq
    cases heq
    exact ⟨hepo, (Except.ok.inj hm).symm⟩
  · rintro ⟨hepo, rfl⟩
    rw [Nat.mod_eq_of_lt hepo]
    exact ⟨_, ⟨by omega, rfl⟩, _, ⟨Nat.succ_ne_zero _, rfl⟩, rfl⟩

/-- **What the package produces.** -/
structure Committed (c : Crypto) (m : Membership) : Prop where
  members : Ordered m.members
  epoch : m.epoch ≠ 0 ∧ m.epoch < 2 ^ 64
  digest : m.digest = c.sum256 (digestPreimage m.roomID m.epoch m.members)

namespace Committed

theorem found {roomID : RoomID} {founders : List AgentID} (h : found c roomID founders = .ok m) : Committed c m := by
  obtain ⟨_, hnormal, h⟩ := seq_ok.mp h
  obtain ⟨-, rfl⟩ := normalize_ok.mp hnormal
  split_ifs at h
  obtain ⟨d, hd, h⟩ := seq_ok.mp h
  obtain ⟨-, hnd, hne, hbd, -⟩ := digest_ok.mp hd
  have hord : Ordered (founders.insertionSort (· ≤ ·)) := ⟨List.pairwise_insertionSort _ _, hnd, hne, hbd⟩
  cases h
  exact ⟨hord, ⟨one_ne_zero, Nat.one_lt_two_pow (by decide)⟩, (hord.digest.mp hd).2⟩

theorem next (h : Ordered members) (hepo : m.epoch + 1 < 2 ^ 64) : Committed c (m.next c members) :=
  ⟨h, ⟨Nat.succ_ne_zero _, hepo⟩, rfl⟩

variable (h : Committed c m)
include h

theorem usable : m.usable c = .ok () := usable_ok.mpr (h.members.digest.mpr ⟨h.epoch.1, h.digest⟩)

/-- Some of the members are in order as they are. -/
theorem filter {p : AgentID → Bool} (hne : m.members.filter p ≠ []) : Ordered (m.members.filter p) :=
  ⟨h.members.sorted.filter p, h.members.nodup.filter p, hne, (List.length_filter_le _ _).trans h.members.bounded⟩

/-- Members who are not in the room, ordered in among those who are. -/
theorem added (hnd : s.Nodup) (hout : ∀ a ∈ s, a ∉ m.members) (hbd : m.members.length + s.length ≤ maxMembers) :
    Ordered ((m.members ++ s.insertionSort (· ≤ ·)).insertionSort (· ≤ ·)) := by
  have hall : (m.members ++ s.insertionSort (· ≤ ·)).Nodup :=
    h.members.nodup.append ((List.perm_insertionSort _ _).nodup_iff.mpr hnd)
      fun a ha hs => hout a ((List.mem_insertionSort _).mp hs) ha
  refine ⟨List.pairwise_insertionSort _ _, (List.perm_insertionSort _ _).nodup_iff.mpr hall, ?_, ?_⟩
  · rw [ne_eq, sort_nil]
    exact List.append_ne_nil_of_left_ne_nil h.members.nonempty _
  · rwa [List.length_insertionSort, List.length_append, List.length_insertionSort]

/-- **Adding** members who are not in the room, while there is room for them. -/
theorem add : m.add c s = .ok m' ↔
    s.Nodup ∧ s ≠ [] ∧ (∀ a ∈ s, a ∉ m.members) ∧ m.members.length + s.length ≤ maxMembers ∧ m.epoch + 1 < 2 ^ 64 ∧
      m' = m.next c ((m.members ++ s.insertionSort (· ≤ ·)).insertionSort (· ≤ ·)) := by
  unfold Membership.add
  simp only [seq_ok, h.usable, normalize_ok, refuse_ok, failIf_ok, and_assoc, exists_and_left, exists_eq_left, true_and,
    exists_const, sort_nil, List.any_eq_true, List.mem_insertionSort, decide_eq_true_eq, not_exists,
    not_and, not_lt, List.length_insertionSort, List.length_append]
  constructor
  · rintro ⟨hnd, hne, hout, -, hbd, hnext⟩
    exact ⟨hnd, hne, hout, hbd, (h.added hnd hout hbd).next.mp hnext⟩
  · rintro ⟨hnd, hne, hout, hbd, hnext⟩
    have hord := h.added hnd hout hbd
    exact ⟨hnd, hne, hout, (List.perm_insertionSort _ _).nodup_iff.mp hord.nodup, hbd, hord.next.mpr hnext⟩

/-- **Removing** members who are in the room, and not all of them. -/
theorem remove : m.remove c s = .ok m' ↔
    s.Nodup ∧ s ≠ [] ∧ (∀ a ∈ s, a ∈ m.members) ∧ m.members.filter (· ∉ s) ≠ [] ∧
      m.epoch + 1 < 2 ^ 64 ∧ m' = m.next c (m.members.filter (· ∉ s)) := by
  unfold Membership.remove
  simp only [seq_ok, h.usable, normalize_ok, refuse_ok, failIf_ok, and_assoc, exists_and_left, exists_eq_left, true_and,
    exists_const, sort_nil, List.any_eq_true, List.mem_insertionSort, decide_eq_true_eq, not_exists, not_and, not_not]
  refine and_congr_right fun _ => and_congr_right fun _ => and_congr_right fun _ => and_congr_right fun hne => ?_
  exact (h.filter hne).next

/-- **One step.** -/
theorem step (hs : Step c m m') : Committed c m' ∧ m'.epoch = m.epoch + 1 := by
  rcases hs with ⟨s, hs⟩ | ⟨s, hs⟩ | hs
  · obtain ⟨hnd, -, hout, hbd, hepo, rfl⟩ := h.add.mp hs
    exact ⟨.next (h.added hnd hout hbd) hepo, rfl⟩
  · obtain ⟨-, -, -, hne, hepo, rfl⟩ := h.remove.mp hs
    exact ⟨.next (h.filter hne) hepo, rfl⟩
  · obtain ⟨_, -, hs⟩ := seq_ok.mp hs
    obtain ⟨hepo, rfl⟩ := h.members.next.mp (seq_ok.mp hs)
    exact ⟨.next h.members hepo, rfl⟩

theorem remove_added (hadd : m.add c s = .ok m') (hepo' : m'.epoch + 1 < 2 ^ 64) :
    ∃ m₂, m'.remove c s = .ok m₂ ∧ m₂.members = m.members ∧ m₂.epoch = m.epoch + 2 := by
  obtain ⟨hnd, hne, hout, hbd, hepo, rfl⟩ := h.add.mp hadd
  have h' : Committed c (m.next c _) := .next (h.added hnd hout hbd) hepo
  have hmem : ∀ a, a ∈ ((m.members ++ s.insertionSort (· ≤ ·)).insertionSort (· ≤ ·)).filter (· ∉ s) ↔
    a ∈ m.members := by
    intro a
    simp only [List.mem_filter, List.mem_insertionSort, List.mem_append, decide_eq_true_eq]
    exact ⟨fun ha => ha.1.resolve_right ha.2, fun ha => ⟨.inl ha, fun hs => hout a hs ha⟩⟩
  obtain ⟨first, hfirst⟩ := List.exists_mem_of_ne_nil _ h.members.nonempty
  have hsome := List.ne_nil_of_mem ((hmem first).mpr hfirst)
  refine ⟨_, h'.remove.mpr ⟨hnd, hne, fun a ha => ?_, hsome, hepo', rfl⟩, (h'.filter hsome).eq h.members hmem, rfl⟩
  exact (List.mem_insertionSort _).mpr (List.mem_append_right _ ((List.mem_insertionSort _).mpr ha))

theorem add_removed (hrem : m.remove c s = .ok m') (hepo' : m'.epoch + 1 < 2 ^ 64) :
    ∃ m₂, m'.add c s = .ok m₂ ∧ m₂.members = m.members ∧ m₂.epoch = m.epoch + 2 := by
  obtain ⟨hnd, hne, hin, hsome, hepo, rfl⟩ := h.remove.mp hrem
  have h' : Committed c (m.next c _) := .next (h.filter hsome) hepo
  have hout : ∀ a ∈ s, a ∉ m.members.filter (· ∉ s) := by simp +contextual
  have hall : (m.members.filter (· ∉ s) ++ s).Nodup := h'.members.nodup.append hnd fun a ha hs => hout a hs ha
  have hsub : m.members.filter (· ∉ s) ++ s ⊆ m.members :=
    List.append_subset.mpr ⟨List.filter_subset_self _, hin⟩
  have hbd : (m.members.filter (· ∉ s)).length + s.length ≤ maxMembers := by
    rw [← List.length_append]
    exact (List.subperm_of_subset hall hsub).length_le.trans h.members.bounded
  refine ⟨_, h'.add.mpr ⟨hnd, hne, hout, hbd, hepo', rfl⟩, (h'.added hnd hout hbd).eq h.members fun a => ?_, rfl⟩
  simp only [Membership.next, List.mem_insertionSort, List.mem_append, List.mem_filter, decide_eq_true_eq]
  constructor
  · exact fun ha => ha.elim And.left (hin a)
  · exact fun ha => (em (a ∈ s)).elim .inr fun hs => .inl ⟨ha, hs⟩

/-- **What is digested** determines the membership. -/
theorem preimage_inj (h' : Committed c m')
    (heq : digestPreimage m.roomID m.epoch m.members = digestPreimage m'.roomID m'.epoch m'.members) :
    m.roomID = m'.roomID ∧ m.epoch = m'.epoch ∧ m.members = m'.members := by
  have hcount : ∀ {m : Membership}, Committed c m → m.members.length < 2 ^ 32 :=
    fun h => h.members.bounded.trans_lt (by decide)
  obtain ⟨hroom, hrest⟩ := Canon.field_delimited (a := .text m.roomID.text) (b := .text m'.roomID.text)
    (by simp only [Field.kind]) m.roomID.text_fits m'.roomID.text_fits (List.append_cancel_left heq)
  obtain ⟨hepo, hrest⟩ := Canon.field_delimited (a := .uint64 m.epoch)
    (b := .uint64 m'.epoch) rfl h.epoch.2 h'.epoch.2 hrest
  exact ⟨Identifier.text_inj (Field.text.inj hroom), Field.uint64.inj hepo,
    Canon.counted_texts_inj (fun _ _ => Identifier.text_inj) Identifier.text_fits (hcount h) (hcount h') hrest⟩

end Committed

/-- **Every step of every room.** -/
theorem Reachable.committed (h : Reachable c m) : Committed c m := by
  induction h with
  | found h => exact .found h
  | step _ hs ih => exact (ih.step hs).1

/-- **A room's memberships**, from its founding on. -/
theorem memberships_sound (h : Reachable c m) :
    Committed c m ∧ m.usable c = .ok () ∧ (∀ m', Step c m m' → m'.epoch = m.epoch + 1) ∧
    (∀ s m', m.add c s = .ok m' → m'.epoch + 1 < 2 ^ 64 →
      ∃ m₂, m'.remove c s = .ok m₂ ∧ m₂.members = m.members ∧ m₂.epoch = m.epoch + 2) ∧
    (∀ s m', m.remove c s = .ok m' → m'.epoch + 1 < 2 ^ 64 →
      ∃ m₂, m'.add c s = .ok m₂ ∧ m₂.members = m.members ∧ m₂.epoch = m.epoch + 2) ∧
    ∀ m', Reachable c m' →
      digestPreimage m.roomID m.epoch m.members = digestPreimage m'.roomID m'.epoch m'.members →
        m.roomID = m'.roomID ∧ m.epoch = m'.epoch ∧ m.members = m'.members := by
  have hm := h.committed
  exact ⟨hm, hm.usable, fun _ hs => (hm.step hs).2, fun _ _ => hm.remove_added,
    fun _ _ => hm.add_removed, fun _ h' => hm.preimage_inj h'.committed⟩

/-- A hash that reads every byte. -/
def rolling : Crypto :=
  ⟨fun b => b.foldl (fun acc x => acc * 257 + BitVec.ofNat 256 x.toNat) 1, fun _ _ _ => true⟩

/-- One room at an epoch. -/
def roomAt (epoch : Nat) (members : List AgentID) : Membership :=
  ⟨⟨7⟩, epoch, members, rolling.sum256 (digestPreimage ⟨7⟩ epoch members)⟩

/-- A room that two Agents found, a third joins and the first leaves, under a new authority. -/
theorem memberships_sound_changed :
    found rolling ⟨7⟩ [⟨2⟩, ⟨1⟩] = .ok (roomAt 1 [⟨1⟩, ⟨2⟩]) ∧
    (roomAt 1 [⟨1⟩, ⟨2⟩]).add rolling [⟨3⟩] = .ok (roomAt 2 [⟨1⟩, ⟨2⟩, ⟨3⟩]) ∧
    (roomAt 2 [⟨1⟩, ⟨2⟩, ⟨3⟩]).remove rolling [⟨1⟩] = .ok (roomAt 3 [⟨2⟩, ⟨3⟩]) ∧
    (roomAt 3 [⟨2⟩, ⟨3⟩]).advanceForAuthorityTransfer rolling = .ok (roomAt 4 [⟨2⟩, ⟨3⟩]) ∧
    (roomAt 4 [⟨2⟩, ⟨3⟩]).usable rolling = .ok () ∧
    ∃ m, (roomAt 3 [⟨2⟩, ⟨3⟩]).add rolling [⟨1⟩] = .ok m ∧ m.members = [⟨1⟩, ⟨2⟩, ⟨3⟩] ∧ m.epoch = 4 := by
  have hfound : found rolling ⟨7⟩ [⟨2⟩, ⟨1⟩] = .ok (roomAt 1 [⟨1⟩, ⟨2⟩]) := by decide +kernel
  have hadd : (roomAt 1 [⟨1⟩, ⟨2⟩]).add rolling [⟨3⟩] = .ok (roomAt 2 [⟨1⟩, ⟨2⟩, ⟨3⟩]) := by decide +kernel
  have hremove : (roomAt 2 [⟨1⟩, ⟨2⟩, ⟨3⟩]).remove rolling [⟨1⟩] = .ok (roomAt 3 [⟨2⟩, ⟨3⟩]) := by decide +kernel
  have hadvance : (roomAt 3 [⟨2⟩, ⟨3⟩]).advanceForAuthorityTransfer rolling = .ok (roomAt 4 [⟨2⟩, ⟨3⟩]) := by
    decide +kernel
  have hjoined : Reachable rolling (roomAt 2 [⟨1⟩, ⟨2⟩, ⟨3⟩]) := .step (.found hfound) (.inl ⟨_, hadd⟩)
  have hlast := Reachable.step (.step hjoined (.inr (.inl ⟨_, hremove⟩))) (.inr (.inr hadvance))
  exact ⟨hfound, hadd, hremove, hadvance, (memberships_sound hlast).2.1,
    (memberships_sound hjoined).2.2.2.2.1 _ _ hremove (by decide)⟩

end Messenger.Room
