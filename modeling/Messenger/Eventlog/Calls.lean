import Messenger.Eventlog.Application
import Messenger.Eventlog.Outbound

/-!
# `Eventlog.Calls` — what one write of a journal operation can do

Every operation other than the inbound commitment and the sealing commit is a `Call`. Its writes are
described once, by the state they are made in: `Routine env j w` says that `w` changes an existing
record or delivery in one of a few ways (`RecordChange`, `DeliveryChange`), advances a session by
one generation with no inbound event behind it, queues a delivery that was not there, or files a
readable moderation decision.

`Call.routine` is the one case analysis over the operations; every invariant of the journal is then
proved against `Routine`, and survives a crash inside a call because a prefix of routine writes is
routine.
-/

namespace Messenger.Eventlog

open Lib
open Lib.Durable (read write lift)

/-! ## The ways a record can change -/

/-- What an operation on an existing inbound record may do to it. The cryptographic dimension is not
    touched. -/
inductive RecordChange : Record → Record → Prop
  | decided {r : Record} {state : AdmissionState} (code : Option Fault.Code) (seconds : Nat)
      (hpending : r.admission = .pending) (hstate : state ≠ .pending) :
      RecordChange r (r.decided state code seconds)
  | expiredOut {r : Record} (seconds : Nat) (hpending : r.admission = .pending) :
      RecordChange r (r.expiredOut seconds)
  | leased {r : Record} {seconds expiresAt : Nat} (leaseID : LeaseID) (hadmitted : r.admission = .admitted)
      (hleasable : r.leasable seconds = .ok ()) (hexpires : expiresAt ≠ 0) :
      RecordChange r (r.leased leaseID expiresAt)
  | finished {r : Record} (verdict : Verdict) (seconds : Nat)
      (hclaimed : r.application = .claimed) : RecordChange r (r.finished verdict seconds)
  | read {r : Record} (seconds : Nat) : RecordChange r { r with readAt := seconds }

namespace RecordChange

variable {r r' : Record}

/-- The identity of an event and its cryptographic dimension survive every such change. -/
theorem identity (h : RecordChange r r') :
    r'.eventID = r.eventID ∧ r'.crypto = r.crypto ∧ r'.transition = r.transition := by
  cases h with
  | decided code sec _ _ => unfold Record.decided; split <;> simp
  | finished verdict sec _ => cases verdict <;> simp [Record.finished]
  | expiredOut | leased | read => exact ⟨rfl, rfl, rfl⟩

/-- Only an undecided admission is decided. -/
theorem admission_eq (h : RecordChange r r') (hdcd : r.admission ≠ .pending) : r'.admission = r.admission := by
  cases h with
  | decided _ _ hpn _ | expiredOut _ hpn => exact absurd hpn hdcd
  | finished verdict sec _ => cases verdict <;> rfl
  | leased | read => rfl

/-- A finished event stays finished: a lease and a verdict both need an unfinished one. -/
theorem terminal_of (h : RecordChange r r') (hterm : r.terminal = true) : r'.terminal = true := by
  cases h with
  | decided =>
    unfold Record.decided
    split
    · rfl
    · exact hterm
  | expiredOut => rfl
  | leased _ _ hlsb _ =>
    unfold Record.leasable at hlsb
    cases happ : r.application <;> simp [Record.terminal, happ] at hterm hlsb
  | finished _ _ hclaimed => simp [Record.terminal, hclaimed] at hterm
  | read => exact hterm

/-- A readable record stays readable. -/
theorem wellFormed_of {env : Env} (h : RecordChange r r') (hr : r.wellFormed env = true) :
    r'.wellFormed env = true := by
  simp only [Record.wellFormed, Bool.and_eq_true] at hr ⊢
  obtain ⟨⟨hrcv, hls⟩, hauth⟩ := hr
  cases h with
  | decided =>
    unfold Record.decided
    split <;> simp_all
  | finished verdict => cases verdict <;> simp_all [Record.finished]
  | expiredOut => simp_all [Record.expiredOut]
  | leased => simp_all [Record.leased]
  | read => simp_all

end RecordChange

/-! ## The ways a delivery can change -/

/-- What an operation on an existing delivery, other than sealing it, may do to it. -/
inductive DeliveryChange : Delivery → Delivery → Prop
  | failed (d : Delivery) (code : Fault.Code) (seconds : Nat) : DeliveryChange d (d.afterFailure code seconds)
  | settled (d : Delivery) (state : DeliveryState) (seconds : Nat) : DeliveryChange d (d.settled state seconds)
  | resumed (d : Delivery) (seconds : Nat) : DeliveryChange d (d.resumed seconds)
  | expiredOut (d : Delivery) (seconds : Nat) : DeliveryChange d (d.expiredOut seconds)

/-- The message of a delivery survives every such change, and its attempt is over. -/
theorem DeliveryChange.identity {d d' : Delivery} (h : DeliveryChange d d') :
    d'.key = d.key ∧ d'.ciphertext = d.ciphertext ∧ d'.sessionID = d.sessionID ∧ d'.attemptID = none := by
  cases h with
  | failed code sec => unfold Delivery.afterFailure; simp only; split_ifs <;> simp [Delivery.key]
  | settled | resumed | expiredOut => exact ⟨rfl, rfl, rfl, rfl⟩

/-! ## Calls -/

/-- An operation on the journal that is one region of its mutex: everything but the two commits and
    the steps of a send attempt. -/
inductive Call where
  | admitEvent (eventID : EventID) (now : Time)
  | denyEvent (eventID : EventID) (code : Option Fault.Code) (now : Time)
  | expirePendingAdmissions (now : Time)
  | claim (eventID : EventID) (leaseID : LeaseID) (now : Time) (lease : Nat) (filter : KindFilter)
  | complete (eventID : EventID) (leaseID : LeaseID) (now : Time)
  | reject (eventID : EventID) (leaseID : LeaseID) (code : Option Fault.Code) (now : Time)
  | markRead (eventID : EventID) (now : Time)
  | putSession (sessionID : SessionID) (algorithm : AlgorithmID) (state : Bytes) (now : Time)
  | putBootstrapped (sessionID : SessionID) (state : Bytes) (bootstrap : FirstContact) (now : Time)
  | enqueue (request : OutboundRequest)
  | abandon (deliveryID : DeliveryID) (now : Time)
  | resume (deliveryID : DeliveryID) (now : Time)
  | expireDeliveries (now : Time)
  | moderate (event : ModerationEvent) (authority : Except Failure RolePolicy) (now : Time)

/-- The writes of a call. -/
def Call.writes (env : Env) (j : Journal) : Call → List JournalWrite
  | .admitEvent eventID now => (Eventlog.admitEvent env eventID now).writes j
  | .denyEvent eventID code now => (Eventlog.denyEvent env eventID code now).writes j
  | .expirePendingAdmissions now => (Eventlog.expirePendingAdmissions env now).writes j
  | .claim eventID leaseID now lease filter => (claimForApplicationKind env eventID leaseID now lease filter).writes j
  | .complete eventID leaseID now => (completeApplication env eventID leaseID now).writes j
  | .reject eventID leaseID code now => (rejectApplication env eventID leaseID code now).writes j
  | .markRead eventID now => (Eventlog.markRead env eventID now).writes j
  | .putSession sessionID algorithm state now => (putSessionState env sessionID algorithm state now).writes j
  | .putBootstrapped sessionID state bootstrap now =>
    (putBootstrappedSessionState env sessionID state bootstrap now).writes j
  | .enqueue request => (Eventlog.enqueue request).writes j
  | .abandon deliveryID now => (Eventlog.abandon deliveryID now).writes j
  | .resume deliveryID now => (Eventlog.resume deliveryID now).writes j
  | .expireDeliveries now => (Eventlog.expireDeliveries now).writes j
  | .moderate event authority now => (applyModeration env event authority now).writes j

/-- **What a write of a call can be**, by the journal it is made on. -/
inductive Routine (env : Env) (j : Journal) : JournalWrite → Prop
  | record {path : EventID} {r r' : Record} (hread : readRecord env j path = .ok r)
      (hchange : RecordChange r r') : Routine env j (.record path r')
  | session {path : SessionID} {s : SessionRecord} {current : Option SessionRecord}
      (hcurrent : currentSession env j path = .ok current)
      (hgeneration : s.generation = succ64 (generationOf current))
      (hlast : s.lastInboundEventID = none) : Routine env j (.session path s)
  | enqueue (request : OutboundRequest) (hfresh : lookup request.delivery.key.path j.outbound = none) :
      Routine env j (.delivery request.delivery.key.path request.delivery)
  | delivery {path : DeliveryPath} {d d' : Delivery} (hread : readDelivery j path = .ok d)
      (hchange : DeliveryChange d d') : Routine env j (.delivery path d')
  | moderation {path : EventID} {d : ModerationDecision} (hreadable : d.wellFormed path = true) :
      Routine env j (.moderation path d)

/-! ## The calls are routine -/

section
variable {env : Env} {j : Journal} {α : Type} {P : Journal → JournalWrite → Prop}

theorem run_knownRecord (env : Env) (path : EventID) (j : Journal) :
    knownRecord env path j = ([], orUnknown (readRecord env j path)) := rfl

theorem guarded_knownRecord {path : EventID} {f : Record → Region α}
    (h : ∀ r, readRecord env j path = .ok r → Guarded P j ((f r).writes j)) :
    Guarded P j ((knownRecord env path >>= f).writes j) :=
  guarded_query (run_knownRecord env path j) fun r hr => h r (orUnknown_ok.mp hr)

theorem guarded_commit {path : EventID} {r : Record} (h : P j (.record path r)) :
    Guarded P j ((commit path r).writes j) := ⟨h, trivial⟩

theorem guarded_lift {r : Except Failure α} {β : Type} {f : α → Region β}
    (h : ∀ a, r = .ok a → Guarded P j ((f a).writes j)) : Guarded P j ((lift r >>= f : Region β).writes j) :=
  guarded_query (Durable.run_lift r j) h

end

section
variable {env : Env} {j : Journal} (eventID : EventID)

theorem decideAdmission_routine {state : AdmissionState} (code : Option Fault.Code) (now : Time)
    (hst : state ≠ .pending) :
    Guarded (Routine env) j ((decideAdmission env eventID state code now).writes j) := by
  unfold decideAdmission
  split
  · trivial
  refine guarded_knownRecord fun r hr => ?_
  split
  · trivial
  · rename_i hpn
    exact guarded_commit (.record hr (.decided code _ (not_not.mp hpn) hst))

theorem claim_routine (leaseID : LeaseID) (now : Time) (lease : Nat) (filter : KindFilter) :
    Guarded (Routine env) j ((claimForApplicationKind env eventID leaseID now lease filter).writes j) := by
  unfold claimForApplicationKind
  split_ifs with hnow hls
  · trivial
  · trivial
  refine guarded_knownRecord fun r hr => guarded_lift fun _ _ => ?_
  split_ifs with hadmitted hreuse
  · trivial
  · exact guarded_lift fun _ _ => trivial
  refine guarded_lift fun _ hlsb => guarded_commit ?_
  refine .record hr (.leased leaseID (not_not.mp hadmitted) hlsb ?_)
  unfold minLeaseSeconds at hls
  omega

theorem finish_routine (leaseID : LeaseID) (verdict : Verdict) (now : Time) :
    Guarded (Routine env) j ((finish env eventID leaseID verdict now).writes j) := by
  unfold finish
  split_ifs
  · trivial
  refine guarded_knownRecord fun r hr => ?_
  split_ifs with hclaimed
  · trivial
  · trivial
  · exact guarded_commit (.record hr (.finished verdict _ (not_not.mp hclaimed)))

variable (did : DeliveryID) (now : Time)

theorem markRead_routine : Guarded (Routine env) j ((markRead env eventID now).writes j) := by
  unfold markRead
  split_ifs
  · trivial
  refine guarded_knownRecord fun r hr => ?_
  split_ifs
  · trivial
  · trivial
  · exact guarded_commit (.record hr (.read _))

/-- A write of the expiry refuses an event that is still pending. -/
def Refuses (env : Env) (seconds : Nat) (j : Journal) (w : JournalWrite) : Prop :=
  ∃ path r, readRecord env j path = .ok r ∧ r.admission = .pending ∧ w = .record path (r.expiredOut seconds)

theorem expireEntries_refuses (sec : Nat) (paths : List EventID) :
    Guarded (Refuses env sec) j ((expireEntries env sec paths).writes j) := by
  induction paths generalizing j with
  | nil => trivial
  | cons path paths ih =>
    refine guarded_bind ?_ fun _ _ => guarded_bind ih fun _ _ => trivial
    unfold expireEntry
    rw [writes_read_bind]
    cases hr : readRecord env j path with
    | error e => trivial
    | ok r =>
      show Guarded _ _ (Durable.writes (ite _ _ _) j)
      split_ifs with hexp
      · exact ⟨⟨path, r, hr, hexp.1, rfl⟩, trivial⟩
      · trivial

theorem expirePendingAdmissions_refuses : Guarded (Refuses env now.toNat) j
    ((expirePendingAdmissions env now).writes j) := by
  unfold expirePendingAdmissions
  split_ifs
  · trivial
  · rw [writes_read_bind]
    exact expireEntries_refuses _ _

theorem expirePendingAdmissions_routine : Guarded (Routine env) j ((expirePendingAdmissions env now).writes j) := by
  refine (expirePendingAdmissions_refuses now).mono ?_
  rintro j _ ⟨path, r, hrd, hpn, rfl⟩
  exact .record hrd (.expiredOut _ hpn)

/-- A session write with no inbound event behind it is routine at the next generation. -/
theorem writeSessionAt_routine {sid : SessionID} {algorithm : AlgorithmID} {state : Bytes}
    {now : Time} {cur : Option SessionRecord} (hcur : currentSession env j sid = .ok cur) :
    Guarded (Routine env) j
      ((writeSessionAt env sid algorithm (succ64 (generationOf cur)) state now).writes j) := by
  unfold writeSessionAt Durable.writes
  rw [run_writeSessionInbound hcur (.inl rfl)]
  exact ⟨.session hcur rfl rfl, trivial⟩

variable {P : Journal → JournalWrite → Prop} (request : OutboundRequest) (sid : SessionID)

theorem putSessionState_routine (algorithm : AlgorithmID) (state : Bytes) (now : Time) :
    Guarded (Routine env) j ((putSessionState env sid algorithm state now).writes j) := by
  refine guarded_lift fun _ _ => ?_
  exact guarded_lift fun cur hcur => writeSessionAt_routine hcur

theorem putBootstrapped_routine (state : Bytes) (bootstrap : FirstContact) (now : Time) : Guarded (Routine env) j
    ((putBootstrappedSessionState env sid state bootstrap now).writes j) := by
  refine guarded_lift fun _ _ => ?_
  split_ifs
  · trivial
  rw [writes_read_bind]
  refine guarded_lift fun cur hcur => ?_
  split_ifs with hso
  · trivial
  · obtain rfl : cur = none := by simpa using hso
    exact ⟨.session hcur rfl rfl, trivial⟩

/-- Queueing writes nothing, or the record of a delivery that was not there. -/
theorem enqueue_cases (j : Journal) : (enqueue request).writes j = [] ∨ lookup request.delivery.key.path j.outbound =
    none ∧ validateOutbound request = .ok () ∧ (enqueue request).writes j =
    [.delivery request.delivery.key.path request.delivery] := by
  unfold enqueue Durable.writes
  cases hval : validateOutbound request with
  | error e => exact .inl rfl
  | ok _ =>
    rw [run_lift_ok_bind, run_read_bind]
    cases hfr : lookup request.delivery.key.path j.outbound with
    | none => exact .inr ⟨rfl, rfl, rfl⟩
    | some d =>
      left
      cases readDelivery j request.delivery.key.path with
      | error e => rfl
      | ok existing =>
        simp only [run_lift_ok_bind]
        split_ifs <;> rfl

theorem enqueue_routine : Guarded (Routine env) j ((enqueue request).writes j) := by
  rcases enqueue_cases request j with hws | ⟨hfr, -, hws⟩
  · rw [hws]
    trivial
  · rw [hws]
    exact ⟨.enqueue request hfr, trivial⟩

theorem settle_routine (attempt : AttemptArgument) (state : DeliveryState) (now : Time) :
    Guarded (Routine env) j ((settle did attempt state now).writes j) :=
  (settle_cases did attempt state now j).guarded fun d hd _ => .delivery hd (.settled d state _)

theorem resume_routine : Guarded (Routine env) j ((resume did now).writes j) :=
  (resume_cases did now j).guarded fun d hd _ => .delivery hd (.resumed d _)

theorem failed_routine (att : AttemptID) (code : Fault.Code) (now : Time) : Guarded (Routine env) j
    ((failed did att code now).writes j) :=
  (failed_cases did att code now j).guarded fun d hd _ => .delivery hd (.failed d code _)

theorem expireDeliveryEntries_guarded {sec : Nat}
    (h : ∀ j path d, readDelivery j path = .ok d → d.state = .pending ∨ d.state = .held →
      P j (.delivery path (d.expiredOut sec))) (paths : List DeliveryPath) :
    Guarded P j ((expireDeliveryEntries sec paths).writes j) := by
  induction paths generalizing j with
  | nil => trivial
  | cons path paths ih =>
    refine guarded_bind ?_ fun _ _ => guarded_bind ih fun _ _ => trivial
    unfold expireDelivery
    rw [writes_read_bind]
    cases hd : readDelivery j path with
    | error e => trivial
    | ok d =>
      show Guarded _ _ (Durable.writes (ite _ _ _) j)
      split_ifs with hexp
      · exact ⟨h j path d hd hexp.1, trivial⟩
      · trivial

theorem expireDeliveries_guarded {now : Time}
    (h : ∀ j path d, readDelivery j path = .ok d → d.state = .pending ∨ d.state = .held →
      P j (.delivery path (d.expiredOut now.toNat))) :
    Guarded P j ((expireDeliveries now).writes j) := by
  unfold expireDeliveries
  split_ifs
  · trivial
  · rw [writes_read_bind]
    exact expireDeliveryEntries_guarded h _

/-- A filed decision reads back: its body was checked, and its policy was issued after the epoch. -/
theorem decision_wellFormed {event : ModerationEvent} {policy : RolePolicy} {sec : Nat}
    (hbo : event.body.valid = true) (hiss : policy.issuedAt ≤ sec) :
    (event.decision sec).wellFormed event.body.targetEventID = true := by
  have hsecond : sec ≠ 0 := by
    have := policy.issued
    omega
  simp [ModerationDecision.wellFormed, ModerationEvent.decision, hbo, hsecond]

theorem applyModeration_routine (event : ModerationEvent) (authority : Except Failure RolePolicy) (now : Time) :
    Guarded (Routine env) j ((applyModeration env event authority now).writes j) := by
  unfold applyModeration
  split_ifs with hnow hbo hrm
  · trivial
  · trivial
  · trivial
  refine guarded_lift fun policy _ => ?_
  split_ifs with hstale hwin
  · trivial
  · trivial
  refine guarded_lift fun target _ => ?_
  cases env.decodeEvent target.payload with
  | none => trivial
  | some header =>
    show Guarded _ _ (Durable.writes (ite _ _ _) j)
    split_ifs
    · trivial
    refine guarded_lift fun prior _ => ?_
    split
    · trivial
    refine guarded_lift fun _ _ => ⟨.moderation ?_, trivial⟩
    have hiss : policy.issuedAt ≤ now.toNat := by omega
    exact decision_wellFormed (by simpa using hbo) hiss

/-- **Every write of every call is routine**, whatever journal the call finds. -/
theorem Call.routine (env : Env) (j : Journal) (c : Call) : Guarded (Routine env) j (c.writes env j) := by
  cases c with
  | admitEvent eventID now => exact decideAdmission_routine eventID none now (by decide)
  | denyEvent eventID code now => exact decideAdmission_routine eventID code now (by decide)
  | expirePendingAdmissions now => exact expirePendingAdmissions_routine now
  | claim eventID leaseID now lease filter => exact claim_routine eventID leaseID now lease filter
  | complete eventID leaseID now => exact finish_routine eventID leaseID .applied now
  | reject eventID leaseID code now => exact finish_routine eventID leaseID (.rejected code) now
  | markRead eventID now => exact markRead_routine eventID now
  | putSession sid algorithm state now => exact putSessionState_routine sid algorithm state now
  | putBootstrapped sid state bootstrap now => exact putBootstrapped_routine sid state bootstrap now
  | enqueue request => exact enqueue_routine request
  | abandon did now => exact settle_routine did .empty .abandoned now
  | resume did now => exact resume_routine did now
  | expireDeliveries now => exact expireDeliveries_guarded fun _ _ d hd _ => .delivery hd (.expiredOut d _)
  | moderate event authority now => exact applyModeration_routine event authority now

end

end Messenger.Eventlog
