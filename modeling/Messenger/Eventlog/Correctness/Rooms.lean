import Messenger.Lib.Run
import Messenger.Eventlog.Rooms

/-!
# `Eventlog.Correctness.Rooms` — a room's history is one chain of signed epochs

Over any sequence of calls, accepted or refused, from an empty ledger:

- **Stored records.** Every record is sound: its digest is that of its members at its epoch, and its
  authority is a member (`ledger_sound`).
- **Calls.** An accepted call moves one room by one epoch and reports the two differences of its
  member sets; a refused one changes nothing. A call whose record was replaced but whose directory
  could not be synced is reported as an error and counts as neither: it leaves the record an
  accepted call would have left (`Advanced`).
- **Authority.** It only changes by a transfer that the authority in force signed.
-/

namespace Messenger.Eventlog

open Lib Identity Rooms

/-- The ledger after one call. -/
def Rooms.step (c : Crypto) (d : Rooms) (call : RoomCall) : Rooms := (call.serve c d).2

/-- Every record answers for its room. -/
def Rooms.Sound (c : Crypto) (d : Rooms) : Prop := ∀ roomID r, lookup roomID d = some r → r.Sound c roomID

/-- **An accepted call**, from the ledger before to the ledger after. -/
structure Rooms.Advanced (c : Crypto) (d : Rooms) (call : RoomCall) (t : RoomTransition) (d' : Rooms) : Prop where
  epoch : d'.epochOf call.next.roomID = d.epochOf call.next.roomID + 1
  others : ∀ roomID, roomID ≠ call.next.roomID → lookup roomID d' = lookup roomID d
  joined : ∀ a, a ∈ t.joined ↔ a ∈ d'.membersOf call.next.roomID ∧ a ∉ d.membersOf call.next.roomID
  departed : ∀ a, a ∈ t.departed ↔ a ∈ d.membersOf call.next.roomID ∧ a ∉ d'.membersOf call.next.roomID
  nodup : t.joined.Nodup ∧ t.departed.Nodup

/-- The authority of a room is the same, or a transfer that it signed put the other one in its
    place. -/
def Rooms.HandedOn (c : Crypto) (d : Rooms) (call : RoomCall) (d' : Rooms) : Prop :=
  ∀ roomID r r', lookup roomID d = some r → lookup roomID d' = some r' →
    r'.authority ≠ r.authority → ∃ transfer currentDelegation nextDelegation now disk message,
      call = .transferAuthority call.next transfer currentDelegation nextDelegation now disk ∧
        transfer.roomID = roomID ∧ transfer.fromAuthority = r.authority ∧ transfer.toAuthority = r'.authority ∧
        transfer.priorEpoch = r.epoch ∧ transfer.nextEpoch = r'.epoch ∧
        Room.authorityTransferSigningBytes transfer = .ok message ∧
        r.authority.Signed c message transfer.currentEndpointSignature

variable {c : Crypto} {d : Rooms} {call : RoomCall} {t : RoomTransition} {record : RoomRecord}

/-! ## One call -/

theorem Rooms.Decided.sound_insert (h : d.Decided c call t record) (hsd : d.Sound c) :
    Sound c (d.insert record.roomID record) := forall_insert hsd h.sound

theorem Rooms.Decided.advanced (h : d.Decided c call t record) :
    d.Advanced c call t (d.insert record.roomID record) := by
  have hget : lookup call.next.roomID (d.insert record.roomID record) = some record := by
    rw [h.room, lookup_insert]
  have hmembers : membersOf (d.insert record.roomID record) call.next.roomID = record.members := by
    rw [membersOf, hget]
    rfl
  refine ⟨?_, ?_, ?_, ?_, ?_, ?_⟩
  · rw [epochOf, hget, ← h.room]
    exact h.epoch
  · intro roomID hne
    rw [← h.room] at hne
    exact lookup_insert_ne hne
  · intro a
    rw [hmembers, h.joined, h.room]
    simp [diffMembers]
  · intro a
    rw [hmembers, h.departed, h.room]
    simp [diffMembers]
  · rw [h.joined]
    exact (Room.digest_ok.mp h.sound.digest).2.1.filter _
  · rw [h.departed]
    exact h.prior.filter _

theorem Rooms.Decided.handedOn (h : d.Decided c call t record) :
    d.HandedOn c call (d.insert record.roomID record) := by
  intro roomID r r' hr hr' hne
  rcases lookup_insert_cases hr' with ⟨rfl, rfl⟩ | hsm
  · -- the room of the call: what is stored is what was decided
    rcases h.inForce r hr with hkt | ⟨transfer, currentDelegation, nextDelegation, now, disk, hcl, hacc, hto⟩
    · exact absurd hkt hne
    obtain ⟨message, hmsg, hsig⟩ := hacc.signed
    have hrec : r'.epoch = call.next.epoch := by rw [← h.membership]; rfl
    refine ⟨transfer, currentDelegation, nextDelegation, now, disk, message, hcl, ?_, hacc.source,
      hto.symm, hacc.epochs.1, ?_, hmsg, hsig⟩
    · rw [hacc.room.2, h.room]
    · rw [hacc.epochs.2, hrec]
  · rw [hr] at hsm
    cases hsm
    exact absurd rfl hne

theorem Rooms.HandedOn.refl (d : Rooms) : d.HandedOn c call d := by
  intro roomID r r' hr hr' hne
  rw [hr] at hr'
  cases hr'
  exact absurd rfl hne

/-! ## Runs -/

theorem step_sound (hsd : d.Sound c) : (step c d call).Sound c := by
  unfold step
  rcases call.serve_cases c d with ⟨t, record, hjdg, hsrv⟩ | ⟨e, hsrv⟩ | ⟨t, record, hjdg, -, hsrv⟩
  · rw [hsrv]
    exact (RoomCall.judge_decided hjdg).sound_insert hsd
  · rw [hsrv]
    exact hsd
  · rw [hsrv]
    exact (RoomCall.judge_decided hjdg).sound_insert hsd

/-- **Every record of every reachable ledger is sound.** -/
theorem ledger_sound (c : Crypto) (calls : List RoomCall) : Rooms.Sound c (run (step c) ∅ calls) := by
  refine run_invariant (fun d call h => step_sound h) ?_ calls
  intro roomID r hr
  simp at hr

/-- What the caller is told against what happened to the ledger. -/
def Rooms.Answered (c : Crypto) (d : Rooms) (call : RoomCall) (d' : Rooms) : Except Failure RoomTransition → Prop
  | .ok t => d.Advanced c call t d'
  | .error _ => d' = d ∨ call.disk.written = .unacknowledged ∧ ∃ t, d.Advanced c call t d'

/-- **Rooms move by one signed epoch at a time.** -/
theorem rooms_succeed (c : Crypto) (calls : List RoomCall) (call : RoomCall) :
    let d := run (Rooms.step c) ∅ calls
    (∀ roomID r, AList.lookup roomID d = some r →
      Room.digest c roomID r.epoch r.members = .ok r.membershipDigest ∧ r.authority.agentID ∈ r.members) ∧
    d.Answered c call (Rooms.step c d call) (call.serve c d).1 ∧
    d.HandedOn c call (Rooms.step c d call) := by
  intro d
  refine ⟨?_, ?_⟩
  · intro roomID r hr
    have hsd := ledger_sound c calls roomID r hr
    refine ⟨?_, hsd.member⟩
    rw [← hsd.room]
    exact hsd.digest
  unfold step
  rcases call.serve_cases c d with ⟨t, record, hjdg, hsrv⟩ | ⟨e, hsrv⟩ | ⟨t, record, hjdg, hwrt, hsrv⟩
  · have hdcd := RoomCall.judge_decided hjdg
    rw [hsrv]
    exact ⟨hdcd.advanced, hdcd.handedOn⟩
  · rw [hsrv]
    exact ⟨.inl rfl, HandedOn.refl d⟩
  have hdcd := RoomCall.judge_decided hjdg
  rw [hsrv]
  exact ⟨.inr ⟨hwrt, t, hdcd.advanced⟩, hdcd.handedOn⟩

end Messenger.Eventlog
