import Messenger.Eventlog.Calls
import Messenger.Eventlog.Correctness.Queues

/-!
# `Eventlog.Correctness.Deliveries` — the life of one delivery

Any sequence of operations on the delivery queue, from an empty journal, seen from one delivery:
each operation gives it one `Turn`.

- **Shape.** A settled delivery holds no attempt and no next attempt time, a pending one has its
  next attempt before its expiry (`Delivery.Orderly`); nothing happens to a settled one
  (`Turn.remains`).
- **Failures.** Each recorded failure adds one to a 32-bit counter. A delivery that is never resumed
  fails as often as the longest retry schedule allows, and once more (`failures_le`); one that is
  resumed may count past 32 bits (`attempts_wrap`).
-/

namespace Messenger.Eventlog

open Lib

/-- An operation on one delivery. -/
inductive DeliveryCall where
  | claimForSend (attemptID : AttemptID) (now : Time) (lease : Nat)
  | failed (attemptID : AttemptID) (code : Fault.Code) (now : Time)
  | delivered (attempt : AttemptArgument) (now : Time)
  | resume (now : Time)
  | abandon (now : Time)

def DeliveryCall.region (deliveryID : DeliveryID) : DeliveryCall → Region Delivery
  | .claimForSend attemptID now lease => Eventlog.claimForSend deliveryID attemptID now lease
  | .failed attemptID code now => Eventlog.failed deliveryID attemptID code now
  | .delivered attempt now => Eventlog.delivered deliveryID attempt now
  | .resume now => Eventlog.resume deliveryID now
  | .abandon now => Eventlog.abandon deliveryID now

def DeliveryCall.isFailure : DeliveryCall → Bool
  | .failed .. => true
  | _ => false

def DeliveryCall.isResume : DeliveryCall → Bool
  | .resume _ => true
  | _ => false

/-- An operation on the delivery queue. -/
inductive QueueCall where
  | enqueue (request : OutboundRequest)
  | on (deliveryID : DeliveryID) (c : DeliveryCall)
  | expireDeliveries (now : Time)

namespace QueueCall

/-- The journal after one operation. -/
def step (j : Journal) : QueueCall → Journal
  | .enqueue request => (Eventlog.enqueue request).final j
  | .on deliveryID c => (c.region deliveryID).final j
  | .expireDeliveries now => (Eventlog.expireDeliveries now).final j

/-- Whether the operation records a failure of the delivery under `path`. -/
def fails (path : DeliveryPath) (j : Journal) : QueueCall → Bool
  | .on deliveryID c => decide (deliveryID.path = path) && c.isFailure && ((c.region deliveryID).outcome j).isOk
  | _ => false

/-- Whether the operation is a resumption of the delivery under `path`. -/
def resumes (path : DeliveryPath) : QueueCall → Bool
  | .on deliveryID c => decide (deliveryID.path = path) && c.isResume
  | _ => false

/-- How many failures of one delivery a sequence of operations records. -/
def failures (path : DeliveryPath) : Journal → List QueueCall → Nat
  | _, [] => 0
  | j, c :: cs => (c.fails path j).toNat + failures path (c.step j) cs

end QueueCall

/-! ## One turn of a delivery -/

/-- Whether a delivery is settled for good. -/
def Delivery.over (d : Delivery) : Prop := d.state = .delivered ∨ d.state = .abandoned

/-- What every delivery in the queue satisfies. -/
structure Delivery.Orderly (d : Delivery) : Prop where
  settled : d.over → d.attemptID = none ∧ d.attemptExpiresAt = 0 ∧ d.nextAttemptAt = 0
  pending : d.state = .pending → d.nextAttemptAt < d.expiresAt
  counter : d.attempts < 2 ^ 32

def AllOrderly (o : Option Delivery) : Prop := o.elim True Delivery.Orderly

/-- **What one operation does to an open delivery.** The flags say whether it resumes the delivery,
    and whether it records a failure of it. -/
structure Delivery.Moves (resumes fails : Bool) (d d' : Delivery) : Prop where
  unsettled : ¬d.over
  orderly : d.Orderly → d'.Orderly
  attempts : d'.attempts = if fails then (d.attempts + 1) % 2 ^ 32 else d.attempts
  failing : fails → d.state = .pending
  pending : d'.state = .pending → resumes ∨ d.state = .pending ∧ (fails → d'.attempts ≤ 8)

/-- What one operation does to the delivery under a name. -/
inductive Turn (resumes : Bool) : Bool → Option Delivery → Option Delivery → Prop
  | same (o : Option Delivery) : Turn resumes false o o
  | queued {request : OutboundRequest} (hvalid : validateOutbound request = .ok ()) :
      Turn resumes false none (some request.delivery)
  | moved {fails : Bool} {d d' : Delivery} (h : d.Moves resumes fails d') : Turn resumes fails (some d) (some d')

section
variable {d : Delivery} {j : Journal} {path : DeliveryPath} {resumes : Bool} {seconds : Nat}

theorem not_over_of_open (hop : d.state = .pending ∨ d.state = .held) : ¬d.over := by
  rcases hop with hop | hop <;> simp [Delivery.over, hop]

/-- A settlement, whatever code it leaves. -/
theorem moves_settled {state : DeliveryState} {code : Option Fault.Code}
    (hop : d.state = .pending ∨ d.state = .held) (hst : state = .delivered ∨ state = .abandoned) :
    d.Moves resumes false { d.settled state seconds with lastCode := code } := by
  have hclosed : state ≠ .pending := by rcases hst with rfl | rfl <;> nofun
  exact ⟨not_over_of_open hop, fun hd => ⟨fun _ => ⟨rfl, rfl, rfl⟩, fun h => absurd h hclosed, hd.counter⟩, rfl,
    nofun, fun h => absurd h hclosed⟩

theorem nextCode_allowed {code : Fault.Code} {n : Nat} (h : (Fault.nextCode code n).allowed = true) : n ≤ 8 := by
  have ht : Fault.transientSchedule.attempts = 8 := rfl
  have hr : Fault.refreshSchedule.attempts = 4 := rfl
  unfold Fault.nextCode at h
  dsimp only at h
  split at h
  · split_ifs at h <;> omega
  · split_ifs at h <;> omega
  · simp at h
  · simp at h

/-- **A failed attempt.** The delivery stays pending only within the longest retry schedule and
    before its expiry. -/
theorem afterFailure_spec (d : Delivery) (code : Fault.Code) (seconds : Nat) :
    let d' := d.afterFailure code seconds
    d'.attempts = (d.attempts + 1) % 2 ^ 32 ∧ d'.attemptID = none ∧ d'.attemptExpiresAt = 0 ∧
      (d'.state ≠ .pending ∧ d'.nextAttemptAt = 0 ∨
        d'.state = d.state ∧ d'.attempts ≤ 8 ∧ d'.nextAttemptAt < d'.expiresAt) := by
  unfold Delivery.afterFailure
  dsimp only
  split_ifs with hexp hallowed hlate happ
  · exact ⟨rfl, rfl, rfl, .inl ⟨nofun, rfl⟩⟩
  · exact ⟨rfl, rfl, rfl, .inl ⟨nofun, rfl⟩⟩
  · exact ⟨rfl, rfl, rfl, .inr ⟨rfl, nextCode_allowed hallowed, not_le.mp hlate⟩⟩
  · exact ⟨rfl, rfl, rfl, .inl ⟨nofun, rfl⟩⟩
  · exact ⟨rfl, rfl, rfl, .inl ⟨nofun, rfl⟩⟩

theorem moves_failed {code : Fault.Code} (hpn : d.state = .pending) :
    d.Moves resumes true (d.afterFailure code seconds) := by
  obtain ⟨hatt, hattempts, hxs, hnx⟩ := afterFailure_spec d code seconds
  have hcount : (d.afterFailure code seconds).attempts < 2 ^ 32 := hatt ▸ Nat.mod_lt _ (by decide)
  refine ⟨not_over_of_open (.inl hpn), fun _ => ?_, hatt, fun _ => hpn, fun hstill => ?_⟩
  · rcases hnx with ⟨hst, hnx⟩ | ⟨hst, -, hnx⟩
    · exact ⟨fun _ => ⟨hattempts, hxs, hnx⟩, fun hstill => absurd hstill hst, hcount⟩
    · exact ⟨fun hov => absurd hov (not_over_of_open (.inl (hst.trans hpn))), fun _ => hnx, hcount⟩
  · exact .inr ⟨hpn, fun _ => (hnx.resolve_left fun h => h.1 hstill).2.1⟩

/-- What the expiry sweep does to a delivery. -/
def Swept (path : DeliveryPath) (j j' : Journal) : Prop :=
  lookup path j'.outbound = lookup path j.outbound ∨
    ∃ d d', lookup path j.outbound = some d ∧ lookup path j'.outbound = some d' ∧ d.Moves false false d' ∧ d'.over

/-- A sweep writes each delivery at most once: what it wrote is settled. -/
theorem expireDeliveries_swept (path : DeliveryPath) (now : Time) (j : Journal) :
    Swept path j ((expireDeliveries now).final j) := by
  have hws : Guarded (fun j w => Swept path j (Medium.put j w)) j ((expireDeliveries now).writes j) := by
    refine expireDeliveries_guarded fun j p d hrd hop => ?_
    unfold Swept
    rw [put_delivery, lookup_insert_eq]
    split_ifs with hpa
    · exact .inr ⟨d, _, hpa ▸ (readDelivery_ok.mp hrd).1, rfl, moves_settled hop (.inr rfl), .inr rfl⟩
    · exact .inl rfl
  refine hws.related (R := Swept path) (fun _ => .inl rfl) (fun hab hbc => ?_) fun _ _ h => h
  rcases hab with hab | ⟨d, d', hd, hd', hmv, hov⟩
  · unfold Swept
    rwa [← hab]
  rcases hbc with hbc | ⟨_, _, hb, -, hagain, -⟩
  · exact .inr ⟨d, d', hd, hbc.trans hd', hmv, hov⟩
  rw [hd'] at hb
  cases hb
  exact absurd hov hagain.unsettled

/-- An operation on one delivery stops without a write, or moves it. -/
theorem DeliveryCall.moves (c : DeliveryCall) (did : DeliveryID) (j : Journal) :
    ∃ Q f, Replaces (c.region did) did.path j Q f ∧ ∀ d, Q d → d.Moves c.isResume c.isFailure (f d) := by
  cases c with
  | claimForSend att now lease =>
    refine ⟨_, _, claimForSend_cases .., fun d h => ?_⟩
    have hop := not_over_of_open (.inl h)
    exact ⟨hop, fun hd => ⟨fun hov => absurd hov hop, hd.pending, hd.counter⟩, rfl, nofun, fun _ => .inr ⟨h, nofun⟩⟩
  | failed att code now => exact ⟨_, _, failed_cases .., fun _ h => moves_failed h⟩
  | delivered attempt now => exact ⟨_, _, settle_cases .., fun _ h => moves_settled h.1 (.inl rfl)⟩
  | resume now =>
    refine ⟨_, _, resume_cases .., fun d h => ⟨not_over_of_open (.inr h.1), ?_, rfl, nofun, fun _ => .inl rfl⟩⟩
    exact fun hd => ⟨nofun, fun _ => h.2, hd.counter⟩
  | abandon now => exact ⟨_, _, settle_cases _ .empty .., fun _ h => moves_settled h.1 (.inr rfl)⟩

/-- **One operation gives each delivery one turn.** -/
theorem QueueCall.turn (c : QueueCall) (path : DeliveryPath) (j : Journal) :
    Turn (c.resumes path) (c.fails path j) (lookup path j.outbound) (lookup path (c.step j).outbound) := by
  cases c with
  | enqueue request =>
    unfold step Durable.final
    rcases enqueue_cases request j with hws | ⟨hfr, hval, hws⟩
    · simp only [hws]
      exact .same _
    simp only [hws, puts_cons, put_delivery]
    show Turn _ _ _ (lookup path (j.outbound.insert _ _))
    rw [lookup_insert_eq]
    split_ifs with hpa
    · rw [hpa, hfr]
      exact .queued hval
    · exact .same _
  | on did c =>
    obtain ⟨Q, f, hreplaces, hmv⟩ := c.moves did j
    unfold step fails resumes Durable.final Durable.writes Durable.outcome
    rcases hreplaces with ⟨e, hrun⟩ | ⟨d, hrd, hQ, hrun⟩
    · simp only [hrun, Except.isOk, Except.toBool, Bool.and_false]
      exact .same _
    simp only [hrun, Except.isOk, Except.toBool, Bool.and_true]
    show Turn _ _ _ (lookup path (j.outbound.insert _ _))
    by_cases hpa : did.path = path
    · subst hpa
      rw [(readDelivery_ok.mp hrd).1, lookup_insert, decide_eq_true rfl, Bool.true_and, Bool.true_and]
      exact .moved (hmv d hQ)
    · rw [lookup_insert_ne (Ne.symm hpa), decide_eq_false hpa]
      exact .same _
  | expireDeliveries now =>
    unfold step
    rcases expireDeliveries_swept path now j with hsm | ⟨d, d', hd, hd', hmv, -⟩
    · rw [hsm]
      exact .same _
    · rw [hd, hd']
      exact .moved hmv

end

/-! ## What a turn keeps -/

namespace Turn

variable {resumes fails : Bool} {o o' : Option Delivery} {d d' : Delivery}

theorem orderly (h : Turn resumes fails o o') (ho : AllOrderly o) : AllOrderly o' := by
  cases h with
  | same => exact ho
  | queued hval =>
    unfold validateOutbound at hval
    split_ifs at hval with _ _ hwin
    exact ⟨nofun, fun _ => by simp only [OutboundRequest.delivery]; omega, Nat.two_pow_pos 32⟩
  | moved h => exact h.orderly ho

/-- No operation removes a delivery, nothing happens to one that is settled, and the counter counts
    its failures. -/
theorem remains (h : Turn resumes fails (some d) o') :
    ∃ d', o' = some d' ∧ (d.over → d' = d) ∧ (d'.attempts = d.attempts ∨ d'.attempts = (d.attempts + 1) % 2 ^ 32) := by
  cases h with
  | same => exact ⟨d, rfl, fun _ => rfl, .inl rfl⟩
  | moved h =>
    refine ⟨_, rfl, fun hov => absurd hov h.unsettled, ?_⟩
    rw [h.attempts]
    split_ifs
    · exact .inr rfl
    · exact .inl rfl

/-- A delivery that has failed `n` times and was not resumed. -/
def Counted (n : Nat) (o : Option Delivery) : Prop :=
  n ≤ 9 ∧ match o with
    | none => n = 0
    | some d => d.attempts = n ∧ (d.state = .pending → n ≤ 8)

theorem counted {n : Nat} (h : Turn false fails o o') (ho : Counted n o) : Counted (n + fails.toNat) o' := by
  cases h with
  | same => exact ho
  | queued =>
    obtain ⟨hn, rfl⟩ := ho
    exact ⟨hn, rfl, fun _ => Nat.zero_le _⟩
  | moved h =>
    obtain ⟨hn, rfl, hwi⟩ := ho
    have hatt := h.attempts
    have hpn := fun hstill => (h.pending hstill).resolve_left nofun
    cases fails with
    | false => exact ⟨hn, hatt, fun hstill => hwi (hpn hstill).1⟩
    | true =>
      have hle := hwi (h.failing rfl)
      rw [if_pos rfl, Nat.mod_eq_of_lt (by omega)] at hatt
      exact ⟨Nat.succ_le_succ hle, hatt, fun hstill => hatt ▸ (hpn hstill).2 rfl⟩

end Turn

namespace QueueCall

/-- The failures of a delivery that is not resumed, by induction on the calls. -/
theorem failures_le {path : DeliveryPath} {calls : List QueueCall} (hcs : ∀ c ∈ calls, c.resumes path = false)
    {n : Nat} {j : Journal} (hj : Turn.Counted n (lookup path j.outbound)) : n + failures path j calls ≤ 9 := by
  induction calls generalizing n j with
  | nil => exact hj.1
  | cons c cs ih =>
    have htn := c.turn path j
    rw [hcs c List.mem_cons_self] at htn
    have hre := ih (fun c' hc' => hcs c' (List.mem_cons_of_mem _ hc')) (htn.counted hj)
    unfold failures
    omega

theorem run_orderly (calls : List QueueCall) (path : DeliveryPath) :
    AllOrderly (lookup path (run step .empty calls).outbound) := by
  refine run_invariant (I := fun j : Journal => AllOrderly (lookup path j.outbound)) (fun j c hj => ?_) ?_ calls
  · exact (c.turn path j).orderly hj
  · trivial

/-- **The life of a delivery.** Whatever was done to the queue, a delivery in it is orderly; the
    next operation leaves a settled one as it is, and the counter of attempts where it was or above,
    unless its 32 bits were used up. A delivery that is never resumed fails at most nine times. -/
theorem delivery_lifecycle (calls : List QueueCall) (path : DeliveryPath) :
    (∀ d, lookup path (run step .empty calls).outbound = some d → d.Orderly ∧
      ∀ c : QueueCall, ∃ d', lookup path (c.step (run step .empty calls)).outbound = some d' ∧
        (d.over → d' = d) ∧ (d.attempts ≤ d'.attempts ∨ d.attempts = 2 ^ 32 - 1 ∧ d'.attempts = 0)) ∧
      ((∀ c ∈ calls, c.resumes path = false) → failures path .empty calls ≤ 9) := by
  refine ⟨fun d hd => ?_, fun hcs => ?_⟩
  · have horder := run_orderly calls path
    have htn := fun c => QueueCall.turn c path (run step .empty calls)
    rw [hd] at horder htn
    refine ⟨horder, fun c => ?_⟩
    obtain ⟨d', hd', hov, hatt⟩ := (htn c).remains
    have hcount := horder.counter
    exact ⟨d', hd', hov, by omega⟩
  · have hfr : Turn.Counted 0 (lookup path Journal.empty.outbound) := ⟨Nat.zero_le _, rfl⟩
    simpa using failures_le hcs hfr

/-- One round of a delivery that waits for the owner's approval, over and over. -/
def approvalRound : List QueueCall :=
  [.on (.event ⟨1⟩) (.claimForSend ⟨1⟩ 1 60), .on (.event ⟨1⟩) (.failed ⟨1⟩ .approvalRequired 1),
    .on (.event ⟨1⟩) (.resume 1)]

/-- The journal of that delivery after `n` rounds. -/
def waiting (n : Nat) : Journal :=
  ⟨∅, ∅, .singleton ⟨1⟩ { sampleOutbound.delivery with attempts := n, lastCode := some .approvalRequired }, ∅⟩

theorem run_round (n : Nat) : run step (waiting n) approvalRound = waiting ((n + 1) % 2 ^ 32) := rfl

theorem waiting_reached (n : Nat) : ∃ calls, run step .empty calls = waiting ((n + 1) % 2 ^ 32) := by
  induction n with
  | zero => exact ⟨.enqueue sampleOutbound :: approvalRound, rfl⟩
  | succ n ih =>
    obtain ⟨calls, hcs⟩ := ih
    refine ⟨calls ++ approvalRound, ?_⟩
    rw [run_append, hcs, run_round, Nat.mod_add_mod]

/-- **The counter starts over** once a delivery has been resumed often enough. -/
theorem attempts_wrap :
    ∃ calls c d d', lookup ⟨1⟩ (run step .empty calls).outbound = some d ∧
      lookup ⟨1⟩ (step (run step .empty calls) c).outbound = some d' ∧ d'.attempts < d.attempts := by
  obtain ⟨calls, hcs⟩ := waiting_reached (2 ^ 32 - 2)
  refine ⟨calls ++ approvalRound.take 1, .on (.event ⟨1⟩) (.failed ⟨1⟩ .approvalRequired 1), ?_⟩
  rw [run_append, hcs]
  exact ⟨_, _, rfl, rfl, by decide⟩

end QueueCall

end Messenger.Eventlog
