import Messenger.Eventlog.Outbound

/-!
# `Eventlog.Correctness.Queues` — presenting an event again, settling a delivery

Two calls whose answer depends on the order of their checks.

- **`Accept` again.** The room in the owner's queue is measured before the event is looked up. An
  event that is on record and undecided is found again only while the queue would take another one
  (`accept_again_iff`); the event that took the last place is refused (`last_place_refused`).
- **`Delivered`.** The check of the holder is shared with the owner's `Abandon`, which names no
  attempt. A sender that names none settles a delivery it does not hold (`delivered_by_holder_iff`,
  `unclaimed_delivered`).
-/

namespace Messenger.Eventlog

open Lib

/-! ## An event that is on record -/

/-- **An event presented again** is found exactly when it passes the check, reads back, and the
    owner's queue would have room for another. -/
theorem accept_again_iff {env : Env} {j : Journal} {entry : Entry} {r : Record}
    (hstored : lookup entry.eventID j.inbound = some r) (hsame : r.sameEvent entry = true) :
    accept env entry j = ([], .ok (false, r)) ↔
      validateEntry entry = .ok () ∧ r.wellFormed env = true ∧ (entry.admission = .pending →
        pendingCapacity env j entry.senderEndpointID entry.payload.length entry.receivedAt = .ok ()) := by
  unfold accept
  cases hval : validateEntry entry with
  | error e => simp [run_lift_error_bind]
  | ok _ =>
    rw [run_lift_ok_bind, run_read_bind]
    cases hcapacity : (if entry.admission = .pending then
        pendingCapacity env j entry.senderEndpointID entry.payload.length entry.receivedAt else .ok ()) with
    | error e =>
      split_ifs at hcapacity with hpn
      simp [hpn, hcapacity]
    | ok _ =>
      have hrm : entry.admission = .pending →
          pendingCapacity env j entry.senderEndpointID entry.payload.length entry.receivedAt = .ok () := by
        intro hpn
        rwa [if_pos hpn] at hcapacity
      unfold readRecord readFile
      cases hr : r.wellFormed env with
      | false => simp [hstored, hr]
      | true => simpa [hstored, hr, hsame] using hrm

/-- An undecided event. -/
def undecided : Entry where
  eventID := ⟨1⟩
  senderEndpointID := ⟨1⟩
  conversationID := ⟨1⟩
  payload := [1, 2, 3]
  admission := .pending
  receivedAt := 10
  expiresAt := 0
  transition := none

theorem accept_again_found :
    accept .plain undecided ((accept .plain undecided).final .empty) = ([], .ok (false, undecided.record)) :=
  (accept_again_iff (by decide) (by decide)).mpr (by decide)

/-- An installation with room for one undecided event. -/
def tightEnv : Env := { Env.plain with quota := ⟨1, 1, 3, 100, by decide⟩ }

/-- The event that takes the last place is refused when it comes again. -/
theorem last_place_refused :
    lookup undecided.eventID ((accept tightEnv undecided).final .empty).inbound = some undecided.record ∧
      (accept tightEnv undecided).outcome ((accept tightEnv undecided).final .empty) = .error .pendingFull := by
  decide

/-! ## A delivery and its holder -/

/-- **A delivery is settled by its holder**, whenever the caller names an attempt or there is
    nothing to settle. -/
theorem delivered_by_holder_iff (j : Journal) (deliveryID : DeliveryID) (attempt : AttemptArgument)
    (now : Time) : ((∃ d, (delivered deliveryID attempt now).outcome j = .ok d) →
        ∃ d attemptID, readDelivery j deliveryID.path = .ok d ∧ attempt = .named attemptID ∧
          d.attemptID = some attemptID) ↔
      (attempt ≠ .empty ∨ now < 0 ∨
        ∀ d, readDelivery j deliveryID.path = .ok d → d.state ≠ .pending ∧ d.state ≠ .held) := by
  constructor
  · intro hhdr
    by_contra hop
    push Not at hop
    obtain ⟨rfl, hnow, d, hrd, hst⟩ := hop
    -- a settlement without an attempt passes every check
    have hdn : (delivered deliveryID .empty now).outcome j = .ok (d.settled .delivered now.toNat) := by
      have hkn : knownDelivery deliveryID.path j = ([], .ok d) := by
        rw [run_knownDelivery, hrd]
        rfl
      unfold delivered settle Durable.outcome
      rw [if_neg (not_lt.mpr hnow), run_bind_ok hkn, if_neg (by tauto)]
      rfl
    obtain ⟨_, _, _, hnamed, _⟩ := hhdr ⟨_, hdn⟩
    cases hnamed
  · rintro hcond ⟨d', hdn⟩
    have hnow : ¬now < 0 := fun hnow => by simp [delivered, settle, hnow, Durable.outcome] at hdn
    rcases settle_cases deliveryID attempt .delivered now j with ⟨e, hrun⟩ | ⟨d, hrd, ⟨hop, hsettled⟩, hrun⟩
    · have hfailed : (delivered deliveryID attempt now).outcome j = .error e := congrArg Prod.snd hrun
      rw [hfailed] at hdn
      cases hdn
    rcases hsettled with rfl | ⟨attemptID, hnamed, hhe⟩
    · have hclosed := (hcond.resolve_left (not_not.mpr rfl)).resolve_left hnow d hrd
      tauto
    · exact ⟨d, attemptID, hrd, hnamed, hhe⟩

def sampleOutbound : OutboundRequest where
  copyID := none
  eventID := ⟨1⟩
  sessionID := ⟨1⟩
  recipientEndpointID := ⟨1⟩
  recipientDeviceID := none
  conversationID := ⟨1⟩
  payload := [1]
  createdAt := 1
  expiresAt := 2

/-- **A delivery nobody claimed is settled** by a caller that names no attempt. -/
theorem unclaimed_delivered :
    ∃ d d', readDelivery ((enqueue sampleOutbound).final .empty) ⟨1⟩ = .ok d ∧ d.attemptID = none ∧
      (delivered (.event ⟨1⟩) .empty 1).outcome ((enqueue sampleOutbound).final .empty) = .ok d' ∧
      d'.state = .delivered :=
  ⟨_, _, rfl, rfl, rfl, rfl⟩

end Messenger.Eventlog
